import AgentHive.Services.AgentRuns
import AgentHive.Services.ChatSessions

/-!
Where the context of a message comes from.
-/

namespace AgentHive.Chat

open Process (Generator)
open Process.Generator (Answers)
open Rag (Json JsonDict)
open Process.Generator (answers_awaiting answers_bind answers_computing answers_pure)
open Rag.JsonDict (Distinct get_set_of_ne get_set_self lookup_merge lookup_merge_of_not_mem
  lookup_set merge)

def serverSetKeys : List String :=
  ["agent_id", "module_key", "agent_instance_slug", "agent_instance_name", "visibility",
    "department_id", "channel_id", "conversation_id", "source", "knowledge_context",
    "knowledge_sources", "mcp"]

def IsConfigured (key : String) : Prop :=
  key ∉ safeMessageAgentContextKeys ∧ key ∉ serverSetKeys

variable {key : String}

theorem IsConfigured.ne {other : String} (configured : IsConfigured key)
    (server : other ∈ serverSetKeys) : key ≠ other := by
  intro eq
  exact configured.2 (eq ▸ server)

theorem lookup_safe (value : Json) (other : key ∉ safeMessageAgentContextKeys) :
    key ∉ (safeMessageAgentContext value).map Prod.fst := by
  intro mem
  obtain ⟨entry, found, rfl⟩ := List.mem_map.mp mem
  have safe := (List.mem_filter.mp found).2
  exact other (by simpa using safe)

variable (texts : ChatTexts)

theorem not_mem_identity (instance_ : AgentInstance) (configured : IsConfigured key) :
    key ∉ (instanceIdentity texts instance_).map Prod.fst := by
  intro mem
  refine configured.2 ?_
  simp only [instanceIdentity, List.map_cons, List.map_nil, List.mem_cons, List.not_mem_nil,
    or_false] at mem
  simp only [serverSetKeys, List.mem_cons]
  tauto

theorem lookup_instanceContext (row : AgentInstanceRow) (configured : IsConfigured key) :
    List.lookup key (instanceContext texts row) = row.config.lookup key := by
  have merged := lookup_merge_of_not_mem row.config
    (not_mem_identity texts row.toAgentInstance configured)
  rw [instanceContext]
  cases row.departmentId with
  | none => exact merged
  | some departmentId =>
    rw [lookup_set, if_neg (configured.ne (by decide))]
    exact merged

theorem distinct_instanceContext (row : AgentInstanceRow) :
    Distinct (instanceContext texts row) := by
  have merged := row.config_distinct.merge (instanceIdentity texts row.toAgentInstance)
  rw [instanceContext]
  cases row.departmentId with
  | none => exact merged
  | some departmentId => exact merged.set _ _

def sessionContext (conversation : ConversationSession) : JsonDict :=
  dictMetadataValue (conversation.metadataJson.get "agent_context")

structure Keeps (conversation : ConversationSession) (config : JsonDict) : Prop where
  distinct : JsonDict.Distinct (sessionContext conversation)
  lookup : ∀ key, IsConfigured key →
    (sessionContext conversation).lookup key = config.lookup key

def configAtOpening (tables : AgentTables) (principal : Principal) (agentId : Option UUID) :
    JsonDict :=
  match agentId with
  | none => []
  | some agentId =>
    match tables.instances.find? fun row =>
      row.tenantId == principal.tenantId && row.id == agentId with
    | none => []
    | some row => row.config

variable {tables : AgentTables} {principal : Principal} {agentId : UUID}

theorem found_of_getAgentInstance {requireWrite : Bool} {row : AgentInstanceRow}
    (got : tables.getAgentInstance principal agentId requireWrite = .ok row) :
    (tables.instances.find? fun row =>
      row.tenantId == principal.tenantId && row.id == agentId) = some row := by
  rw [AgentTables.getAgentInstance] at got
  split at got
  · cases got
  · rename_i other found
    dsimp only at got
    split at got <;> split at got <;> cases got <;> exact found

variable {conversation : ConversationSession}

theorem keeps_of_merge (metadata : JsonDict) (row : AgentInstanceRow)
    (stored : conversation.metadataJson = mergeAgentInstanceMetadata texts metadata row) :
    Keeps conversation row.config := by
  have kept : sessionContext conversation =
      merge (instanceContext texts row)
        (safeMessageAgentContext (metadata.get "agent_context")) := by
    rw [sessionContext, stored, mergeAgentInstanceMetadata, get_set_self]
    rfl
  refine ⟨?_, fun key configured => ?_⟩
  · rw [kept]
    exact (distinct_instanceContext texts row).merge _
  · rw [kept, lookup_merge_of_not_mem _ (lookup_safe _ configured.1),
      lookup_instanceContext texts row configured]

theorem bind_eq_ok {α β : Type} {x : Except Exc α} {f : α → Except Exc β} {b : β} :
    (x >>= f) = .ok b ↔ ∃ a, x = .ok a ∧ f a = .ok b := by
  cases x with
  | ok a => simp only [Bind.bind, Except.bind, Except.ok.injEq, exists_eq_left']
  | error x => simp only [Bind.bind, Except.bind, reduceCtorEq, false_and, exists_false]

theorem keeps_of_resolve {texts : ChatTexts} {payload : ChatSessionCreateRequest}
    {governance : ChatGovernanceContext}
    (resolved : resolveChatGovernanceContext texts tables principal payload = .ok governance)
    (bound : governance.agentId.isSome) (id : UUID) :
    Keeps (openedSession principal payload governance id)
      (configAtOpening tables principal governance.agentId) := by
  obtain ⟨channel, _, later⟩ := bind_eq_ok.mp resolved
  obtain ⟨placed, agent, later⟩ := bind_eq_ok.mp later
  obtain ⟨_, _, last⟩ := bind_eq_ok.mp later
  cases last
  obtain ⟨agentId, metadata⟩ := channel
  cases agentId with
  | none => cases bound
  | some agentId =>
    obtain ⟨row, got, later⟩ := bind_eq_ok.mp agent
    obtain ⟨departmentId, _, last⟩ := bind_eq_ok.mp later
    cases last
    simp only [configAtOpening, found_of_getAgentInstance got]
    exact keeps_of_merge texts _ row rfl

abbrev Pins : Type := UUID → JsonDict

def Pins.pin (pins : Pins) (id : UUID) (config : JsonDict) : Pins := fun other =>
  if other = id then config else pins other

theorem Pins.pin_self (pins : Pins) (id : UUID) (config : JsonDict) :
    pins.pin id config id = config := if_pos rfl

theorem Pins.pin_of_ne (pins : Pins) {id other : UUID} (config : JsonDict) (ne : other ≠ id) :
    pins.pin id config other = pins other := if_neg ne

/-- What happens to the tables, from tables without sessions. -/
inductive Run (texts : ChatTexts) (checks : UpdateChecks) : AgentTables → Pins → Prop
  | start {tables : AgentTables} (empty : tables.conversations = []) :
      Run texts checks tables fun _ => []
  | sessionOpened {tables tables' : AgentTables} {pins : Pins} {principal : Principal}
      {payload : ChatSessionCreateRequest} {governance : ChatGovernanceContext} {id : UUID}
      (earlier : Run texts checks tables pins)
      (resolved : resolveChatGovernanceContext texts tables principal payload = .ok governance)
      (opened : tables.insertConversation (openedSession principal payload governance id) =
        .ok tables') :
      Run texts checks tables'
        (pins.pin id (configAtOpening tables principal governance.agentId))
  | channelOpened {tables tables' : AgentTables} {pins : Pins} {channel : ChatChannel}
      {conversationKey externalUserId title : String} {id : UUID}
      (earlier : Run texts checks tables pins) (known : channel ∈ tables.channels)
      (opened : tables.insertConversation
        (channelSession channel conversationKey externalUserId title id) = .ok tables') :
      Run texts checks tables' (pins.pin id [])
  | instanceUpdated {tables tables' : AgentTables} {pins : Pins} {principal : Principal}
      {agentId : UUID} {payload : AgentInstanceUpdateRequest}
      (earlier : Run texts checks tables pins)
      (updated : updateAgentInstance checks tables principal agentId payload = .ok tables') :
      Run texts checks tables' pins
  | instanceCreated {tables : AgentTables} {pins : Pins} (row : AgentInstanceRow)
      (earlier : Run texts checks tables pins) :
      Run texts checks { tables with instances := tables.instances ++ [row] } pins
  | messageStored {tables : AgentTables} {pins : Pins} {conversation : ConversationSession}
      (payload : ChatMessageCreateRequest) (answer : LLMAnswer) (now : String)
      (earlier : Run texts checks tables pins) (known : conversation ∈ tables.conversations) :
      Run texts checks (tables.touch conversation payload answer now) pins
  | administered {tables : AgentTables} {pins : Pins} (channels : List ChatChannel)
      (departments : List DepartmentRow) (userDepartments : List UserDepartment)
      (earlier : Run texts checks tables pins) :
      Run texts checks
        { tables with
          channels := channels
          departments := departments
          userDepartments := userDepartments } pins

variable {tables' : AgentTables} {row : ConversationSession}

theorem conversations_of_insert (inserted : tables.insertConversation row = .ok tables') :
    tables'.conversations = tables.conversations ++ [row] ∧
      ∀ other ∈ tables.conversations, other.id ≠ row.id := by
  rw [AgentTables.insertConversation] at inserted
  split at inserted
  · cases inserted
  · rename_i fresh
    cases inserted
    refine ⟨rfl, fun other mem eq => fresh ?_⟩
    exact List.any_eq_true.mpr ⟨other, mem, beq_iff_eq.mpr eq⟩

theorem keeps_of_insert {pins : Pins} {config : JsonDict}
    (inserted : tables.insertConversation row = .ok tables')
    (old : ∀ other ∈ tables.conversations, other.agentId.isSome → Keeps other (pins other.id))
    (new : row.agentId.isSome → Keeps row config) (mem : conversation ∈ tables'.conversations)
    (bound : conversation.agentId.isSome) :
    Keeps conversation (pins.pin row.id config conversation.id) := by
  obtain ⟨eq, fresh⟩ := conversations_of_insert inserted
  rw [eq] at mem
  cases List.mem_append.mp mem with
  | inl there =>
    rw [Pins.pin_of_ne _ _ (fresh _ there)]
    exact old _ there bound
  | inr last =>
    cases List.mem_singleton.mp last
    rw [Pins.pin_self]
    exact new bound

theorem conversations_of_update {checks : UpdateChecks} {payload : AgentInstanceUpdateRequest}
    (updated : updateAgentInstance checks tables principal agentId payload = .ok tables') :
    tables'.conversations = tables.conversations := by
  obtain ⟨row, _, later⟩ := bind_eq_ok.mp updated
  obtain ⟨_, _, later⟩ := bind_eq_ok.mp later
  obtain ⟨departmentId, _, later⟩ := bind_eq_ok.mp later
  obtain ⟨_, _, later⟩ := bind_eq_ok.mp later
  obtain ⟨_, _, last⟩ := bind_eq_ok.mp later
  cases last
  rfl

theorem sessionContext_touched (conversation : ConversationSession)
    (payload : ChatMessageCreateRequest) (answer : LLMAnswer) (now : String) :
    sessionContext (touchedConversation conversation payload answer now) =
      sessionContext conversation := by
  rw [sessionContext, touchedConversation, conversationMetadataWithLastTask,
    JsonDict.get_merge_of_not_mem]
  · rfl
  · intro entry mem
    cases List.mem_singleton.mp mem
    exact (by decide : "agent_context" ≠ "last_task")

theorem keeps_of_run {texts : ChatTexts} {checks : UpdateChecks} {pins : Pins}
    (run : Run texts checks tables pins) (mem : conversation ∈ tables.conversations)
    (bound : conversation.agentId.isSome) : Keeps conversation (pins conversation.id) := by
  induction run generalizing conversation with
  | start empty =>
    rw [empty] at mem
    cases mem
  | sessionOpened earlier resolved opened ih =>
    exact keeps_of_insert opened (fun _ there bound => ih there bound)
      (fun bound => keeps_of_resolve resolved bound _) mem bound
  | channelOpened earlier known opened ih =>
    exact keeps_of_insert opened (fun _ there bound => ih there bound)
      (fun _ => ⟨List.nodup_nil, fun _ _ => rfl⟩) mem bound
  | instanceUpdated earlier updated ih =>
    rw [conversations_of_update updated] at mem
    exact ih mem bound
  | instanceCreated row earlier ih => exact ih mem bound
  | messageStored payload answer now earlier known ih =>
    obtain ⟨row, old, rfl⟩ := List.mem_map.mp mem
    split at bound
    · rename_i same
      rw [if_pos same]
      have kept := ih old bound
      refine ⟨?_, fun key configured => ?_⟩
      · rw [sessionContext_touched]
        exact kept.distinct
      · rw [sessionContext_touched]
        exact kept.lookup key configured
    · rename_i other
      rw [if_neg other]
      exact ih old bound
  | administered channels departments userDepartments earlier ih => exact ih mem bound

section Handing

variable {V : Type}

structure RunChecks (V : Type) where
  authorizeAgentRun : Principal → String → AgentTables × V → Except Exc AgentRunAuthorization
  ensureAgentInstanceReady : Principal → AgentInstance → AgentTables × V → Except Exc Unit

def governedRuntime (base : AgentRuntime (AgentTables × V)) (checks : RunChecks V) :
    AgentRuntime (AgentTables × V) :=
  { base with
    authorizeAgentRun := fun principal requiredModule s =>
      (checks.authorizeAgentRun principal requiredModule s, s)
    getAgentInstance := fun principal agentId s =>
      ((s.1.getAgentInstance principal agentId false).map AgentInstanceRow.toAgentInstance, s)
    ensureAgentInstanceReady := fun principal instance_ s =>
      (checks.ensureAgentInstanceReady principal instance_ s, s)
    getChannelConfig := fun principal channelId s =>
      ((s.1.getChannelConfig principal channelId).map fun row => ⟨row.id, row.agentId⟩, s)
    assertDepartmentAccess := fun principal departmentId s =>
      (s.1.assertDepartmentAccess principal departmentId, s) }

/-- `UUID(str(value)) == value`, and the text is there. -/
structure UuidTexts (texts : AgentTexts) : Prop where
  str_text : ∀ value, texts.str (.str value) = value
  uuid_nonempty : ∀ id, texts.uuid id ≠ ""
  uuidOf_uuid : ∀ id, texts.uuidOf (texts.uuid id) = some id

theorem UuidTexts.contextUuid {texts : AgentTexts} (plain : UuidTexts texts) (id : UUID)
    (fieldName : String) : contextUuid texts (.str (texts.uuid id)) fieldName = .ok (some id) := by
  have nonblank : isBlank (.str (texts.uuid id)) = false :=
    beq_eq_false_iff_ne.mpr (plain.uuid_nonempty id)
  simp only [Chat.contextUuid, nonblank, plain.str_text, plain.uuidOf_uuid, Bool.false_eq_true,
    if_false]

def IsFor (texts : AgentTexts) (agentId : UUID) (context : JsonDict) : Prop :=
  context.get "agent_id" = .str (texts.uuid agentId)

structure FillsServerKeys (texts : AgentTexts) (agentId : UUID) (context context' : JsonDict) :
    Prop where
  isFor : IsFor texts agentId context → IsFor texts agentId context'
  distinct : JsonDict.Distinct context → JsonDict.Distinct context'
  lookup : ∀ key, IsConfigured key → context'.lookup key = context.lookup key

namespace FillsServerKeys

variable {texts : AgentTexts} {agentId : UUID} {context context' context'' : JsonDict}

theorem refl : FillsServerKeys texts agentId context context :=
  ⟨fun h => h, fun h => h, fun _ _ => rfl⟩

theorem trans (first : FillsServerKeys texts agentId context context')
    (second : FillsServerKeys texts agentId context' context'') :
    FillsServerKeys texts agentId context context'' :=
  ⟨fun h => second.isFor (first.isFor h), fun h => second.distinct (first.distinct h),
    fun key configured => (second.lookup key configured).trans (first.lookup key configured)⟩

theorem set {key : String} (server : key ∈ serverSetKeys) (value : Json)
    (own : "agent_id" = key → value = .str (texts.uuid agentId)) :
    FillsServerKeys texts agentId context (context.set key value) := by
  refine ⟨fun named => ?_, fun distinct => distinct.set key value, fun other configured => ?_⟩
  · by_cases same : "agent_id" = key
    · rw [IsFor, ← same, get_set_self, own same]
    · rw [IsFor, get_set_of_ne _ _ same]
      exact named
  · rw [lookup_set, if_neg (configured.ne server)]

end FillsServerKeys

variable {base : AgentRuntime (AgentTables × V)} {checks : RunChecks V} {principal : Principal}
  {agentId : UUID} {s s' : AgentTables × V} {context : JsonDict}

theorem answers_canonicalChannel {context' : JsonDict} (plain : UuidTexts base.texts)
    (named : IsFor base.texts agentId context)
    (answered : Answers (canonicalChannel (governedRuntime base checks) principal context) s
      context' s') : s' = s ∧ FillsServerKeys base.texts agentId context context' := by
  obtain ⟨channelId, s₁, read, later⟩ := answers_bind.mp answered
  obtain ⟨_, rfl⟩ := answers_computing.mp read
  cases channelId with
  | none =>
    obtain ⟨rfl, rfl⟩ := answers_pure.mp later
    exact ⟨rfl, .refl⟩
  | some channelId =>
    obtain ⟨channel, s₂, got, last⟩ := answers_bind.mp later
    obtain ⟨_, rfl⟩ := Prod.ext_iff.mp (answers_awaiting.mp got)
    obtain ⟨bound, rfl⟩ := answers_computing.mp last
    refine ⟨rfl, ?_⟩
    rw [channelContext] at bound
    cases agent : channel.agentId with
    | none =>
      rw [agent] at bound
      cases bound
      exact .set (by decide) _ (fun eq => absurd eq (by decide))
    | some other =>
      rw [agent] at bound
      have own := plain.contextUuid agentId "agent_id"
      rw [← named] at own
      obtain ⟨requested, eq, later⟩ := bind_eq_ok.mp bound
      have same := eq.symm.trans own
      cases same
      split at later
      · cases later
      · rename_i agrees
        cases later
        have same : other = agentId := by simpa [eq_comm] using agrees
        subst same
        exact (FillsServerKeys.set (by decide) _ fun _ => rfl).trans
          (.set (by decide) _ fun eq => absurd eq (by decide))

theorem answers_canonicalDepartment (agentId : UUID) {context' : JsonDict}
    (answered : Answers (canonicalDepartment (governedRuntime base checks) principal context) s
      context' s') : s' = s ∧ FillsServerKeys base.texts agentId context context' := by
  obtain ⟨departmentId, s₁, read, later⟩ := answers_bind.mp answered
  obtain ⟨_, rfl⟩ := answers_computing.mp read
  cases departmentId with
  | none =>
    obtain ⟨rfl, rfl⟩ := answers_pure.mp later
    exact ⟨rfl, .refl⟩
  | some departmentId =>
    obtain ⟨_, s₂, got, last⟩ := answers_bind.mp later
    obtain ⟨_, rfl⟩ := Prod.ext_iff.mp (answers_awaiting.mp got)
    obtain ⟨rfl, rfl⟩ := answers_pure.mp last
    exact ⟨rfl, .set (by decide) _ fun eq => absurd eq (by decide)⟩

variable {payload : AgentRunRequest} {payload' : AgentRunRequest}

theorem answers_canonicalize (plain : UuidTexts base.texts)
    (named : IsFor base.texts agentId payload.context) (answered : Answers
      (canonicalizeAgentGovernanceContext (governedRuntime base checks) payload principal) s
      payload' s') :
    s' = s ∧ FillsServerKeys base.texts agentId payload.context payload'.context := by
  obtain ⟨context, s₁, channel, later⟩ := answers_bind.mp answered
  obtain ⟨context', s₂, department, last⟩ := answers_bind.mp later
  obtain ⟨rfl, rfl⟩ := answers_pure.mp last
  obtain ⟨rfl, first⟩ := answers_canonicalChannel plain named channel
  obtain ⟨rfl, second⟩ := answers_canonicalDepartment agentId department
  exact ⟨rfl, first.trans second⟩

theorem lookup_mergedContext {texts : AgentTexts} (instance_ : AgentInstance)
    (distinct : Distinct context) (departmentId : Option UUID) {key : String}
    (configured : IsConfigured key) :
    (mergedContext texts instance_ context departmentId).lookup key =
      (context.lookup key).or (instance_.config.lookup key) := by
  have merged : List.lookup key (merge (merge instance_.config context)
      (instanceIdentity texts.toChatTexts instance_)) =
      (context.lookup key).or (instance_.config.lookup key) := by
    rw [lookup_merge_of_not_mem _ (not_mem_identity _ _ configured),
      distinct.lookup_merge]
  simp only [mergedContext]
  cases departmentId with
  | none => exact merged
  | some departmentId =>
    rw [lookup_set, if_neg (configured.ne (by decide))]
    exact merged

theorem isFor_mergedContext (texts : AgentTexts) (instance_ : AgentInstance) (context : JsonDict)
    (departmentId : Option UUID) :
    IsFor texts instance_.id (mergedContext texts instance_ context departmentId) := by
  have merged : IsFor texts instance_.id
      (merge (merge instance_.config context)
        (instanceIdentity texts.toChatTexts instance_)) := by
    rw [IsFor, JsonDict.get, lookup_merge]
    rfl
  simp only [mergedContext]
  cases departmentId with
  | none => exact merged
  | some departmentId =>
    rw [IsFor, get_set_of_ne _ _ (by decide)]
    exact merged

theorem id_of_getAgentInstance {tables : AgentTables} {requireWrite : Bool} {row : AgentInstanceRow}
    (got : tables.getAgentInstance principal agentId requireWrite = .ok row) :
    row.id = agentId := by
  have found := List.find?_some (found_of_getAgentInstance got)
  simp only [Bool.and_eq_true, beq_iff_eq] at found
  exact found.2

variable {agentKey : String}

theorem answers_applyDefaults {requiredModule : String} (plain : UuidTexts base.texts)
    (named : IsFor base.texts agentId payload.context)
    (distinct : Distinct payload.context) (answered : Answers
      (applyAgentInstanceDefaults (governedRuntime base checks) payload principal agentKey
        requiredModule) s payload' s') :
    s' = s ∧ IsFor base.texts agentId payload'.context ∧
      ∃ current, s.1.getAgentInstance principal agentId false = .ok current ∧
        ∀ key, IsConfigured key → payload'.context.lookup key =
          (payload.context.lookup key).or (current.config.lookup key) := by
  obtain ⟨found, s₁, read, later⟩ := answers_bind.mp answered
  obtain ⟨parsed, rfl⟩ := answers_computing.mp read
  rw [show payload.context.get "agent_id" = .str (base.texts.uuid agentId) from named] at parsed
  cases parsed.symm.trans (plain.contextUuid agentId "agent_id")
  obtain ⟨instance_, s₂, got, later⟩ := answers_bind.mp later
  obtain ⟨current, rfl⟩ := Prod.ext_iff.mp (answers_awaiting.mp got)
  obtain ⟨_, s₃, checked, later⟩ := answers_bind.mp later
  obtain ⟨_, rfl⟩ := answers_computing.mp checked
  obtain ⟨_, s₄, ready, later⟩ := answers_bind.mp later
  obtain ⟨_, rfl⟩ := Prod.ext_iff.mp (answers_awaiting.mp ready)
  obtain ⟨departmentId, s₅, placed, last⟩ := answers_bind.mp later
  obtain ⟨_, rfl⟩ := answers_computing.mp placed
  obtain ⟨rfl, rfl⟩ := answers_pure.mp last
  refine ⟨rfl, ?_⟩
  cases row : s.1.getAgentInstance principal agentId false with
  | error x =>
    simp only [governedRuntime, row, Except.map, reduceCtorEq] at current
  | ok current_ =>
    simp only [governedRuntime, row, Except.map, Except.ok.injEq] at current
    subst current
    refine ⟨?_, current_, rfl, fun key configured =>
      lookup_mergedContext current_.toAgentInstance distinct departmentId configured⟩
    have named' := isFor_mergedContext base.texts current_.toAgentInstance
      payload.context departmentId
    rw [id_of_getAgentInstance row] at named'
    exact named'

/-- What the agent is handed by both pipelines, if they get as far as that. -/
inductive Handed {W : Type} (runtime : AgentRuntime W) (agent : Agent W) (agentKey : String)
    (payload : AgentRunRequest) (principal : Principal) (requestId : Option String) (w : W) :
    AgentRunRequest → Prop
  | intro {settled : AgentRunAuthorization × AgentRunRequest} {enriched : Enriched}
      {request : AgentRunRequest} {w₁ w₂ w₃ w₄ : W}
      (governing : Answers (governed runtime agent agentKey payload principal) w settled w₁)
      (noGreeting : Answers
        (customerServiceGreetingResponse runtime agentKey settled.2 requestId
          agent.requiredModule) w₁ none w₂)
      (enrichment : Answers
        (enrichWithKnowledgeContext runtime settled.2 principal agentKey requestId) w₂ enriched
        w₃)
      (passed : (guardrailOf runtime enriched).triggered = false)
      (mounting : Answers (enrichWithMcpTools runtime enriched.payload principal) w₃ request w₄) :
      Handed runtime agent agentKey payload principal requestId w request

variable {requestId : Option String}

theorem lookup_enriched {W : Type} {runtime : AgentRuntime W} {w w' : W} {enriched : Enriched}
    (answered : Answers
      (enrichWithKnowledgeContext runtime payload principal agentKey requestId) w enriched w')
    {key : String} (configured : IsConfigured key) :
    enriched.payload.context.lookup key = payload.context.lookup key := by
  obtain ⟨baseIds, w₁, _, later⟩ := answers_bind.mp answered
  cases baseIds with
  | nil =>
    cases later.1
    rfl
  | cons id rest =>
    obtain ⟨topK, w₂, _, later⟩ := answers_bind.mp later
    obtain ⟨retrieved, w₃, _, later⟩ := answers_bind.mp later
    cases later.1
    refine lookup_merge_of_not_mem _ fun mem => configured.2 ?_
    simp only [List.map_cons, List.map_nil, List.mem_cons, List.not_mem_nil, or_false] at mem
    simp only [serverSetKeys, List.mem_cons]
    tauto

theorem lookup_handed {request : AgentRunRequest} {agent : Agent (AgentTables × V)}
    (plain : UuidTexts base.texts) (named : IsFor base.texts agentId payload.context)
    (distinct : Distinct payload.context)
    (handed : Handed (governedRuntime base checks) agent agentKey payload principal requestId s
      request) :
    ∃ current, s.1.getAgentInstance principal agentId false = .ok current ∧
      ∀ key, IsConfigured key → request.context.lookup key =
        (payload.context.lookup key).or (current.config.lookup key) := by
  obtain ⟨governing, _, enrichment, _, mounting⟩ := handed
  obtain ⟨authorization, s₁, authorized, later⟩ := answers_bind.mp governing
  obtain ⟨_, rfl⟩ := Prod.ext_iff.mp (answers_awaiting.mp authorized)
  obtain ⟨first, s₂, canonical, later⟩ := answers_bind.mp later
  obtain ⟨second, s₃, merged, later⟩ := answers_bind.mp later
  obtain ⟨third, s₄, again, last⟩ := answers_bind.mp later
  obtain ⟨rfl, rfl⟩ := answers_pure.mp last
  obtain ⟨rfl, fills⟩ := answers_canonicalize plain named canonical
  obtain ⟨rfl, named', current, got, lookups⟩ :=
    answers_applyDefaults plain (fills.isFor named) (fills.distinct distinct) merged
  obtain ⟨rfl, fills'⟩ := answers_canonicalize plain named' again
  obtain ⟨mounted, _, rfl⟩ := answers_enrichWithMcp.mp mounting
  refine ⟨current, got, fun key configured => ?_⟩
  rw [lookup_set, if_neg (configured.ne (by decide)),
    lookup_enriched enrichment configured, fills'.lookup key configured, lookups key configured,
    fills.lookup key configured]

end Handing

def messageIdentity (conversation : ConversationSession) (conversationId : UUID) : JsonDict :=
  [("agent_id", .str ((conversation.agentId.map texts.uuid).getD "None")),
    ("conversation_id", .str (texts.uuid conversationId)),
    ("source", .str conversation.source)]

def messageContext (conversation : ConversationSession) (conversationId : UUID)
    (payload : ChatMessageCreateRequest) : JsonDict :=
  JsonDict.merge
    (JsonDict.merge (sessionContext conversation)
      (safeMessageAgentContext (payload.metadata.get "agent_context")))
    (messageIdentity texts conversation conversationId)

theorem fills_agentRunContext (texts : AgentTexts) (agentId : UUID)
    (conversation : ConversationSession) (conversationId : UUID)
    (payload : ChatMessageCreateRequest) :
    FillsServerKeys texts agentId
      (messageContext texts.toChatTexts conversation conversationId payload)
      (agentRunContext texts.toChatTexts conversation conversationId payload) := by
  have other : ∀ {key : String}, "agent_id" ≠ key → ∀ value : Json, "agent_id" = key →
      value = .str (texts.uuid agentId) := fun ne _ eq => absurd eq ne
  simp only [agentRunContext]
  cases conversation.departmentId with
  | none =>
    cases conversation.channelId with
    | none => exact .refl
    | some channelId => exact .set (by decide) _ (other (by decide) _)
  | some departmentId =>
    cases conversation.channelId with
    | none => exact .set (by decide) _ (other (by decide) _)
    | some channelId =>
      exact (FillsServerKeys.set (by decide) _ (other (by decide) _)).trans
        (.set (by decide) _ (other (by decide) _))

theorem isFor_messageContext (texts : AgentTexts) (bound : conversation.agentId = some agentId)
    (conversationId : UUID) (payload : ChatMessageCreateRequest) :
    IsFor texts agentId
      (messageContext texts.toChatTexts conversation conversationId payload) := by
  rw [IsFor, messageContext, JsonDict.get, lookup_merge, messageIdentity, bound]
  rfl

theorem lookup_messageContext (conversation : ConversationSession) (conversationId : UUID)
    (payload : ChatMessageCreateRequest) (configured : IsConfigured key) :
    (messageContext texts conversation conversationId payload).lookup key =
      (sessionContext conversation).lookup key := by
  rw [messageContext, lookup_merge_of_not_mem,
    lookup_merge_of_not_mem _ (lookup_safe _ configured.1)]
  intro mem
  refine configured.2 ?_
  simp only [messageIdentity, List.map_cons, List.map_nil, List.mem_cons, List.not_mem_nil,
    or_false] at mem
  simp only [serverSetKeys, List.mem_cons]
  tauto

/-- In every run, a message of a bound session hands the agent the configuration its
session was opened with, and for keys that one does not have the configuration the
instance has now; nothing of it comes from the request. -/
theorem message_context_of_run {V : Type} {base : AgentRuntime (AgentTables × V)}
    {checks : RunChecks V} {updates : UpdateChecks} (plain : UuidTexts base.texts)
    {tables : AgentTables} {pins : Pins} (run : Run base.texts.toChatTexts updates tables pins)
    {conversation : ConversationSession} (mem : conversation ∈ tables.conversations)
    {agentId : UUID} (bound : conversation.agentId = some agentId)
    (payload : ChatMessageCreateRequest) (principal : Principal) (requestId : Option String)
    (agent : Agent (AgentTables × V)) (agentKey : String) (v : V) (request : AgentRunRequest)
    (handed : Handed (governedRuntime base checks) agent agentKey
      (agentRunRequest base.texts.toChatTexts conversation conversation.id payload) principal
      requestId (tables, v) request) :
    ∃ current, tables.getAgentInstance principal agentId false = .ok current ∧
      ∀ key, IsConfigured key → request.context.lookup key =
        ((pins conversation.id).lookup key).or (current.config.lookup key) := by
  have kept := keeps_of_run run mem (by rw [bound]; rfl)
  have fills := fills_agentRunContext base.texts agentId conversation conversation.id payload
  have distinct : JsonDict.Distinct
      (messageContext base.texts.toChatTexts conversation conversation.id payload) :=
    (kept.distinct.merge _).merge _
  obtain ⟨current, got, lookups⟩ := lookup_handed plain
    (fills.isFor (isFor_messageContext base.texts bound conversation.id payload))
    (fills.distinct distinct) handed
  refine ⟨current, got, fun key configured => (lookups key configured).trans ?_⟩
  have pinned : (agentRunContext base.texts.toChatTexts conversation conversation.id
      payload).lookup key = (pins conversation.id).lookup key :=
    ((fills.lookup key configured).trans (lookup_messageContext _ _ _ _ configured)).trans
      (kept.lookup key configured)
  exact congrArg (fun found => Option.or found _) pinned

def markTexts : AgentTexts :=
  { plainTexts with
    uuid := fun id => String.ofList ('#' :: List.replicate id '1')
    uuidOf := fun value => some (value.toList.length - 1) }

theorem uuidTexts_mark : UuidTexts markTexts := by
  refine ⟨fun value => rfl, fun id eq => ?_, fun id => ?_⟩
  · have chars := congrArg String.toList eq
    simp [markTexts] at chars
  · simp [markTexts]

def guardrailConfig (mode : String) : JsonDict := [("knowledge_guardrail_mode", .str mode)]

def advisor (mode : String) : AgentInstanceRow :=
  { id := 5, name := "Advisor", slug := "advisor", agentKey := "finance"
    moduleKey := "agent.finance", status := "active", visibility := "tenant"
    departmentId := none, modelKey := none, modelRoutingKey := none
    config := guardrailConfig mode, tenantId := 1, ownerUserId := none, createdBy := some 3
    config_distinct := List.nodup_singleton _ }

def advisorTables : AgentTables :=
  { instances := [advisor "off"]
    channels := []
    departments := []
    userDepartments := []
    conversations := [] }

def adviceRequest : ChatSessionCreateRequest :=
  { agentId := some 5
    metadata := [("agent_context", .obj (guardrailConfig "advisory"))] }

def advisorChecks : UpdateChecks :=
  { authorizeAgentRun := fun _ _ => .ok ()
    validateKnowledgeConfig := fun _ _ => .ok () }

def strictUpdate : AgentInstanceUpdateRequest :=
  { config := some ⟨guardrailConfig "strict", List.nodup_singleton _⟩ }

def administrator : Principal := { userId := 3, tenantId := 1, permissions := [.tenantAdmin] }

def adviceSession : ConversationSession :=
  { id := 7, tenantId := 1, title := "New AgentHive conversation", agentId := some 5
    channelId := none, userId := some 2, departmentId := none, source := "chat_console"
    metadataJson :=
      [("agent_context", .obj (instanceContext markTexts.toChatTexts (advisor "off"))),
        ("agent_key", .str "finance")] }

def strictTables : AgentTables :=
  { advisorTables with
    instances := [advisor "strict"]
    conversations := [adviceSession] }

theorem advisor_run :
    Run markTexts.toChatTexts advisorChecks strictTables
      (Pins.pin (fun _ => []) 7 (guardrailConfig "off")) := by
  have opened : Run markTexts.toChatTexts advisorChecks
      { advisorTables with conversations := [adviceSession] }
      (Pins.pin (fun _ => []) 7 (guardrailConfig "off")) :=
    .sessionOpened (.start rfl)
      (show resolveChatGovernanceContext markTexts.toChatTexts advisorTables builderPrincipal
        adviceRequest = .ok _ from rfl) rfl
  exact .instanceUpdated opened
    (show updateAgentInstance advisorChecks _ administrator 5 strictUpdate = .ok _ from rfl)

def advisorAgent : Agent (AgentTables × Unit) :=
  { agentKey := "finance"
    requiredModule := "agent.finance"
    run := fun _ _ _ s => (.error (.other "Unused" ""), s)
    runStream := none }

def advisorRuntime : AgentRuntime (AgentTables × Unit) :=
  { texts := markTexts
    agents := fun _ => some advisorAgent
    authorizeAgentRun := fun _ _ s => (.error (.other "Unused" ""), s)
    getAgentInstance := fun _ _ s => (.error (.other "Unused" ""), s)
    ensureAgentInstanceReady := fun _ _ s => (.ok (), s)
    getChannelConfig := fun _ _ s => (.error (.other "Unused" ""), s)
    assertDepartmentAccess := fun _ _ s => (.ok (), s)
    retrieveForAgentRun := fun _ _ _ _ _ _ s => (.error (.other "Unused" ""), s)
    mountMcpServers := fun _ _ s => (.ok [], s)
    recordAgentRunAudit := fun _ _ _ s => (.ok (), s)
    uuid4 := fun s => ("0", s) }

def openChecks : RunChecks Unit :=
  { authorizeAgentRun := fun _ _ _ =>
      .ok
        { licenseGate := "enforced", licensed := some true, installed := some true
          enabled := some true, reason := "active_license_and_enabled_module" }
    ensureAgentInstanceReady := fun _ _ _ => .ok () }

theorem greeting_nonempty : "Hello" ≠ "" := by decide

theorem greeting_length : "Hello".length ≤ 12000 := by decide

def advicePayload : ChatMessageCreateRequest :=
  { content := "Hello"
    content_nonempty := greeting_nonempty
    content_length := greeting_length
    maxTokens_bounds := defaultMaxTokens_bounds }

def adviceMessage : AgentRunRequest :=
  agentRunRequest markTexts.toChatTexts adviceSession 7 advicePayload

def settledAdvice : AgentRunRequest :=
  { adviceMessage with
    context :=
      [("knowledge_guardrail_mode", .str "off"),
        ("agent_id", .str (markTexts.uuid 5)), ("module_key", .str "agent.finance"),
        ("agent_instance_slug", .str "advisor"), ("agent_instance_name", .str "Advisor"),
        ("visibility", .str "tenant"), ("conversation_id", .str (markTexts.uuid 7)),
        ("source", .str "chat_console")] }

def advisedRequest : AgentRunRequest :=
  { settledAdvice with context := settledAdvice.context.set "mcp" (.obj (mcpSummary [])) }

theorem advisor_handed :
    Handed (governedRuntime advisorRuntime openChecks) advisorAgent "finance"
      adviceMessage builderPrincipal none (strictTables, ()) advisedRequest := by
  have governing : Answers (governed (governedRuntime advisorRuntime openChecks) advisorAgent
      "finance" adviceMessage builderPrincipal) (strictTables, ())
      (⟨"enforced", some true, some true, some true, "active_license_and_enabled_module"⟩,
        settledAdvice) (strictTables, ()) := ⟨rfl, rfl⟩
  have enrichment : Answers (enrichWithKnowledgeContext (governedRuntime advisorRuntime openChecks)
      settledAdvice builderPrincipal "finance" none) (strictTables, ())
      ⟨settledAdvice, [],
        [("enabled", .bool false), ("reason", .str "no_knowledge_base_context")]⟩
      (strictTables, ()) := ⟨rfl, rfl⟩
  have mounting : Answers (enrichWithMcpTools (governedRuntime advisorRuntime openChecks)
      settledAdvice builderPrincipal) (strictTables, ()) advisedRequest (strictTables, ()) :=
    ⟨rfl, rfl⟩
  exact .intro governing ⟨rfl, rfl⟩ enrichment rfl mounting

theorem advisor_message_pinned :
    ∃ current, strictTables.getAgentInstance builderPrincipal 5 false = .ok current ∧
      ∀ key, IsConfigured key → advisedRequest.context.lookup key =
        (List.lookup key (guardrailConfig "off")).or (current.config.lookup key) :=
  message_context_of_run uuidTexts_mark advisor_run (List.mem_singleton.mpr rfl) rfl
    advicePayload builderPrincipal none advisorAgent "finance" () advisedRequest advisor_handed

theorem outdated_guardrail_handed :
    Run markTexts.toChatTexts advisorChecks strictTables
      (Pins.pin (fun _ => []) 7 (guardrailConfig "off")) ∧
    Handed (governedRuntime advisorRuntime openChecks) advisorAgent "finance"
      adviceMessage builderPrincipal none (strictTables, ()) advisedRequest ∧
    advisedRequest.context.lookup "knowledge_guardrail_mode" = some (.str "off") ∧
    strictTables.getAgentInstance builderPrincipal 5 false = .ok (advisor "strict") ∧
    (advisor "strict").config.lookup "knowledge_guardrail_mode" = some (.str "strict") :=
  ⟨advisor_run, advisor_handed, rfl, rfl, rfl⟩

section Citations

variable (texts : AgentTexts) (results : List (UUID × RetrievalTestResponse))

def retrievedSources : List JsonDict :=
  (results.foldl (fun retrieved result => retrieved.add texts result.1 result.2)
    ({} : Retrieved)).sources

def citationKeys : List (String × Option String × String) :=
  results.flatMap fun result => result.2.results.map fun item =>
    (texts.uuid result.1, item.documentId.map texts.uuid, item.chunkId)

/-- The source with a number in the text is the one at that place of the list. -/
structure CitationsLineUp (context : JsonDict) (final : Except Exc AgentRunResponse) : Prop where
  text : context.get "knowledge_context" =
    .str (formatKnowledgeContext texts (retrievedSources texts results))
  listed : ∃ response : AgentRunResponse, final = .ok response ∧
    (∀ (n : Nat) source, (retrievedSources texts results)[n]? = some source →
      response.sources[n]? = some source) ∧
    ∀ source ∈ retrievedSources texts results, source ∈ response.sources

def echoedRun (payload : AgentRunRequest) (authorization : AgentRunAuthorization)
    (response : AgentRunResponse) (diagnostics : JsonDict) : Except Exc AgentRunResponse :=
  let sources := retrievedSources texts results
  let given := (withKnowledge texts payload sources).context.get "knowledge_sources"
  finalRunResponse texts payload authorization
    ⟨{ response with sources := dictItems given }, sources, diagnostics⟩

def citationKey (source : JsonDict) : List HashKey := ((sourceKey source).toOption).getD []

def hashedKey (key : String × Option String × String) : List HashKey :=
  [.str key.1, (key.2.1.map HashKey.str).getD .none, .str key.2.2]

theorem hashedKey_injective : Function.Injective hashedKey := by
  intro key other same
  obtain ⟨base, document, chunk⟩ := key
  obtain ⟨base', document', chunk'⟩ := other
  simp only [hashedKey, List.cons.injEq, HashKey.str.injEq, and_true] at same
  obtain ⟨rfl, documents, rfl⟩ := same
  cases document with
  | none =>
    cases document' with
    | none => rfl
    | some id => cases documents
  | some id =>
    cases document' with
    | none => cases documents
    | some id' =>
      cases documents
      rfl

theorem sourceKey_retrievedSource (baseId : UUID) (baseName : Json) (rank : Nat)
    (item : RetrievalSource) :
    sourceKey (retrievedSource texts baseId baseName rank item) =
      .ok (hashedKey (texts.uuid baseId, item.documentId.map texts.uuid, item.chunkId)) := by
  cases document : item.documentId with
  | none => simp [sourceKey, retrievedSource, document, optionalUuid, hashedKey]; rfl
  | some id => simp [sourceKey, retrievedSource, document, optionalUuid, hashedKey]; rfl

theorem sourceKey_retrieved :
    (retrievedSources texts results).map sourceKey =
      (citationKeys texts results).map fun key => .ok (hashedKey key) := by
  have added : ∀ retrieved : Retrieved,
      (results.foldl (fun retrieved result => retrieved.add texts result.1 result.2)
        retrieved).sources.map sourceKey = retrieved.sources.map sourceKey ++
          (citationKeys texts results).map fun key => .ok (hashedKey key) := by
    induction results with
    | nil => simp [citationKeys]
    | cons result rest ih =>
      intro retrieved
      have own : (result.2.results.mapIdx fun index item =>
          retrievedSource texts result.1 (result.2.diagnostics.get "knowledge_base_name")
            (retrieved.sources.length + index + 1) item).map sourceKey =
          result.2.results.map fun item => .ok (hashedKey
            (texts.uuid result.1, item.documentId.map texts.uuid, item.chunkId)) := by
        refine List.ext_getElem? fun n => ?_
        simp [sourceKey_retrievedSource, Function.comp_def]
      rw [List.foldl_cons, ih, Retrieved.add, List.map_append, own, List.append_assoc,
        citationKeys, citationKeys, List.flatMap_cons, List.map_append, List.map_map]
      rfl
  exact added {}

theorem citationKey_retrieved :
    (retrievedSources texts results).map citationKey =
      (citationKeys texts results).map hashedKey := by
  have keys := congrArg (List.map fun key : Except Exc (List HashKey) => (key.toOption).getD [])
    (sourceKey_retrieved texts results)
  rwa [List.map_map, List.map_map] at keys

theorem keyed_retrieved : ∀ source ∈ retrievedSources texts results,
    sourceKey source = .ok (citationKey source) := by
  intro source mem
  have listed := List.mem_map_of_mem (f := sourceKey) mem
  rw [sourceKey_retrieved] at listed
  obtain ⟨key, _, eq⟩ := List.mem_map.mp listed
  rw [citationKey, ← eq]
  rfl

theorem dictItems_objects (items : List JsonDict) : dictItems (.arr (items.map .obj)) = items := by
  induction items with
  | nil => rfl
  | cons item rest ih => exact congrArg (item :: ·) ih

theorem given_withKnowledge (payload : AgentRunRequest) (sources : List JsonDict) :
    (withKnowledge texts payload sources).context.get "knowledge_context" =
        .str (formatKnowledgeContext texts sources) ∧
      dictItems ((withKnowledge texts payload sources).context.get "knowledge_sources") =
        sources := by
  refine ⟨?_, ?_⟩
  · rw [withKnowledge, JsonDict.get, lookup_merge]
    rfl
  · rw [withKnowledge, JsonDict.get, lookup_merge]
    exact dictItems_objects sources

variable {texts results} in
theorem echoedRun_sources {listed : List JsonDict}
    (merged : dedupeSources (retrievedSources texts results ++ retrievedSources texts results) =
      .ok listed) (payload : AgentRunRequest) (authorization : AgentRunAuthorization)
    (response : AgentRunResponse) (diagnostics : JsonDict) :
    ∃ answer, echoedRun texts results payload authorization response diagnostics = .ok answer ∧
      answer.sources = listed := by
  unfold echoedRun finalRunResponse
  simp only [(given_withKnowledge texts payload (retrievedSources texts results)).2, merged]
  exact ⟨_, rfl, rfl⟩

/-- Citations line up exactly when no two retrieved chunks have their base, document and chunk
id in common. -/
theorem citations_line_up_iff (payload : AgentRunRequest)
    (authorization : AgentRunAuthorization) (response : AgentRunResponse) (diagnostics : JsonDict) :
    CitationsLineUp texts results
        (withKnowledge texts payload (retrievedSources texts results)).context
        (echoedRun texts results payload authorization response diagnostics) ↔
      (citationKeys texts results).Nodup := by
  have keyed := keyed_retrieved texts results
  have whole : (citationKeys texts results).Nodup ↔
      ((retrievedSources texts results).map citationKey).Nodup := by
    rw [citationKey_retrieved, List.nodup_map_iff hashedKey_injective]
  rw [whole]
  constructor
  · intro lined
    obtain ⟨answer, eq, numbered, _⟩ := lined.listed
    have both : ∀ source ∈ retrievedSources texts results ++ retrievedSources texts results,
        sourceKey source = .ok (citationKey source) := fun source mem =>
      keyed source ((List.mem_append.mp mem).elim id id)
    obtain ⟨listed, merged, distinct, _⟩ := @dedupeFrom_distinct _ _ [] both
    obtain ⟨_, eq', rfl⟩ := echoedRun_sources merged payload authorization response diagnostics
    cases eq.symm.trans eq'
    have initial : retrievedSources texts results <+: answer.sources := by
      refine List.prefix_iff_getElem?.mpr fun n bound => ?_
      exact numbered n _ (List.getElem?_eq_getElem bound)
    exact distinct.sublist (initial.sublist.map citationKey)
  · intro distinct
    obtain ⟨answer, eq, listed⟩ := echoedRun_sources (dedupeSources_twice keyed distinct) payload
      authorization response diagnostics
    refine ⟨(given_withKnowledge texts payload _).1, answer, eq, ?_⟩
    rw [listed]
    exact ⟨fun _ _ at_ => at_, fun _ mem => mem⟩

/-- Two chunks of an engine that names neither chunks nor documents. -/
def unnamedChunks : List (UUID × RetrievalTestResponse) :=
  [(1, { engine := "ragflow", elapsedMs := 0, diagnostics := [], results :=
    [⟨"", none, none, none, "Returns within 14 days.", []⟩,
      ⟨"", none, none, none, "Refunds take a week.", []⟩] })]

theorem second_chunk_is_not_listed :
    ¬ CitationsLineUp markTexts unnamedChunks
      (withKnowledge markTexts adviceMessage (retrievedSources markTexts unnamedChunks)).context
      (echoedRun markTexts unnamedChunks adviceMessage ⟨"", none, none, none, ""⟩
        ⟨"", ⟨0, 0, 0, 0⟩, "", "", [], []⟩ []) := by
  intro lined
  obtain ⟨answer, eq, numbered, _⟩ := lined.listed
  have merged : dedupeSources (retrievedSources markTexts unnamedChunks ++
      retrievedSources markTexts unnamedChunks) =
      .ok [retrievedSource markTexts 1 .null 1
        ⟨"", none, none, none, "Returns within 14 days.", []⟩] := rfl
  obtain ⟨_, eq', listed⟩ := echoedRun_sources merged _ _ _ _
  cases eq.symm.trans eq'
  have second := numbered 1 _ rfl
  rw [listed] at second
  cases second

end Citations

end AgentHive.Chat
