import AgentHive.Services.AgentRuntime
import AgentHive.Services.ChatService
import AgentHive.Services.KnowledgeDocuments

/-!
How chat sessions are opened, and how agent instances are updated.
-/

namespace AgentHive.Chat

open Rag (Json JsonDict)
open KnowledgeService (canAccessBase canWriteBase)

abbrev DistinctDict : Type := { d : JsonDict // JsonDict.Distinct d }

/-- A row of `agent_instances`. -/
structure AgentInstanceRow extends AgentInstance where
  tenantId : UUID
  ownerUserId : Option UUID
  createdBy : Option UUID
  config_distinct : JsonDict.Distinct config

structure ChatChannel where
  id : UUID
  tenantId : UUID
  agentId : Option UUID
  createdBy : Option UUID
  channelType : String
  channelKey : String
  config : JsonDict

structure DepartmentRow where
  id : UUID
  tenantId : UUID

structure AgentTables where
  instances : List AgentInstanceRow
  channels : List ChatChannel
  departments : List DepartmentRow
  userDepartments : List UserDepartment
  conversations : List ConversationSession

def isAgentInstanceOwner (row : AgentInstanceRow) (principal : Principal) : Bool :=
  row.ownerUserId == some principal.userId || row.createdBy == some principal.userId

def inDepartments (row : AgentInstanceRow) (departmentIds : List UUID) : Bool :=
  match row.departmentId with
  | some departmentId => departmentIds.contains departmentId
  | none => false

def canReadAgentInstance (row : AgentInstanceRow) (principal : Principal)
    (departmentIds : List UUID) : Bool :=
  if principal.isTenantAdmin then true
  else if row.visibility = "tenant" then true
  else if row.visibility = "private" then isAgentInstanceOwner row principal
  else if row.visibility = "department" then inDepartments row departmentIds
  else false

def canWriteAgentInstance (row : AgentInstanceRow) (principal : Principal)
    (departmentIds : List UUID) : Bool :=
  if principal.isTenantAdmin then true
  else if isAgentInstanceOwner row principal then true
  else if row.visibility = "department" then inDepartments row departmentIds
  else false

/-- Whoever may change a base or an instance may read it. -/
structure WritersRead (base : KnowledgeBase) (row : AgentInstanceRow) (principal : Principal)
    (departmentIds : List UUID) : Prop where
  ofBase : canWriteBase base principal departmentIds = true →
    canAccessBase base principal departmentIds = true
  ofInstance : canWriteAgentInstance row principal departmentIds = true →
    canReadAgentInstance row principal departmentIds = true

section Access

variable {principal : Principal} {departmentIds : List UUID}

theorem base_writer_reads_iff {base : KnowledgeBase} (plain : principal.isTenantAdmin = false) :
    (canWriteBase base principal departmentIds = true →
        canAccessBase base principal departmentIds = true) ↔
      (base.visibility = .department → base.ownerUserId = some principal.userId →
        principal.userId ∈ base.readUserIds ++ base.writeUserIds ∨
          base.departmentIds.any (departmentIds.contains ·) = true) := by
  unfold canWriteBase canAccessBase
  simp only [plain, List.mem_append]
  by_cases reader : principal.userId ∈ base.readUserIds
  · simp [reader]
  · by_cases writer : principal.userId ∈ base.writeUserIds
    · simp [reader, writer]
    · by_cases owner : base.ownerUserId = some principal.userId
      · cases base.visibility with
        | tenant => simp [owner]
        | private_ => simp [owner]
        | department => simp [reader, writer, owner]
      · cases base.visibility with
        | tenant => simp [owner]
        | private_ => simp [writer, owner]
        | department =>
          refine ⟨fun _ _ same => absurd same owner, fun _ writes => ?_⟩
          simp only [reader, writer, owner, if_true, if_false, Bool.false_eq_true,
            Bool.and_eq_true] at writes ⊢
          exact writes.1

theorem instance_writer_reads_iff {row : AgentInstanceRow}
    (plain : principal.isTenantAdmin = false) :
    (canWriteAgentInstance row principal departmentIds = true →
        canReadAgentInstance row principal departmentIds = true) ↔
      (row.visibility ≠ "tenant" → row.visibility ≠ "private" →
        isAgentInstanceOwner row principal = true →
          row.visibility = "department" ∧ inDepartments row departmentIds = true) := by
  unfold canWriteAgentInstance canReadAgentInstance
  simp only [plain]
  by_cases tenant : row.visibility = "tenant"
  · simp [tenant]
  · by_cases private_ : row.visibility = "private"
    · cases owner : isAgentInstanceOwner row principal with
      | true => simp [private_]
      | false => simp [private_]
    · by_cases department : row.visibility = "department"
      · cases owner : isAgentInstanceOwner row principal with
        | true => simp [department]
        | false => simp [department]
      · cases owner : isAgentInstanceOwner row principal with
        | true => simp [tenant, private_, department]
        | false => simp [department]

end Access

/-- Only owners are left out: of a department's base or instance once they are not among its
members, and of an instance with another visibility. -/
theorem writersRead_iff (base : KnowledgeBase) (row : AgentInstanceRow) (principal : Principal)
    (departmentIds : List UUID) :
    WritersRead base row principal departmentIds ↔ (principal.isTenantAdmin = false →
      (base.visibility = .department → base.ownerUserId = some principal.userId →
        principal.userId ∈ base.readUserIds ++ base.writeUserIds ∨
          base.departmentIds.any (departmentIds.contains ·) = true) ∧
      (row.visibility ≠ "tenant" → row.visibility ≠ "private" →
        isAgentInstanceOwner row principal = true →
          row.visibility = "department" ∧ inDepartments row departmentIds = true)) := by
  cases plain : principal.isTenantAdmin with
  | true =>
    have base_ : canAccessBase base principal departmentIds = true := by
      rw [canAccessBase, if_pos plain]
    have row_ : canReadAgentInstance row principal departmentIds = true := by
      rw [canReadAgentInstance, if_pos plain]
    exact ⟨fun _ other => (Bool.noConfusion other), fun _ => ⟨fun _ => base_, fun _ => row_⟩⟩
  | false =>
    rw [← base_writer_reads_iff plain, ← instance_writer_reads_iff plain]
    exact ⟨fun reads _ => ⟨reads.1, reads.2⟩, fun both => ⟨(both rfl).1, (both rfl).2⟩⟩

def formerMember : Principal := { userId := 1, tenantId := 1, permissions := [] }

def departmentBase : KnowledgeBase :=
  { tenantId := 1, visibility := .department, departmentIds := [7], ownerUserId := some 1 }

def departmentInstance : AgentInstanceRow :=
  { id := 5, name := "Advisor", slug := "advisor", agentKey := "advisor",
    moduleKey := "agent.advisor", status := "active", visibility := "department",
    departmentId := some 7, modelKey := none, modelRoutingKey := none, config := [],
    tenantId := 1, ownerUserId := some 1, createdBy := none, config_distinct := List.nodup_nil }

theorem former_member_only_writes :
    canWriteBase departmentBase formerMember [] = true ∧
      canWriteAgentInstance departmentInstance formerMember [] = true ∧
      canAccessBase departmentBase formerMember [] = false ∧
      canReadAgentInstance departmentInstance formerMember [] = false ∧
      ¬ WritersRead departmentBase departmentInstance formerMember [] := by
  have read : canAccessBase departmentBase formerMember [] = false := by decide
  refine ⟨by decide, by decide, read, by decide, fun reads => ?_⟩
  rw [reads.ofBase (by decide)] at read
  cases read

namespace AgentTables

def principalDepartmentIds (tables : AgentTables) (principal : Principal) : List UUID :=
  if principal.isTenantAdmin then []
  else (tables.userDepartments.filter fun row =>
    row.userId == principal.userId && row.tenantId == principal.tenantId).map
      UserDepartment.departmentId

/-- `_get_agent_instance`; the instance may have to be one the principal can change. -/
def getAgentInstance (tables : AgentTables) (principal : Principal) (agentId : UUID)
    (requireWrite : Bool) : Except Exc AgentInstanceRow :=
  match tables.instances.find? fun row =>
    row.tenantId == principal.tenantId && row.id == agentId with
  | none => .error (.http 404 (.text "Agent instance not found."))
  | some row =>
    let departmentIds := tables.principalDepartmentIds principal
    let allowed := if requireWrite then canWriteAgentInstance row principal departmentIds
      else canReadAgentInstance row principal departmentIds
    if allowed then .ok row
    else .error (.http 403 (.text "Agent instance access denied by visibility policy."))

def getChannelConfig (tables : AgentTables) (principal : Principal) (channelId : UUID) :
    Except Exc ChatChannel :=
  match tables.channels.find? fun row =>
    row.tenantId == principal.tenantId && row.id == channelId with
  | none => .error (.http 404 (.text "Channel not found."))
  | some row => .ok row

def assertDepartmentAccess (tables : AgentTables) (principal : Principal)
    (departmentId : UUID) : Except Exc Unit :=
  if !tables.departments.any fun row =>
      row.tenantId == principal.tenantId && row.id == departmentId then
    .error (.http 404 (.text "Department not found."))
  else if principal.isTenantAdmin then .ok ()
  else if tables.userDepartments.any fun row =>
      row.userId == principal.userId && row.departmentId == departmentId &&
        row.tenantId == principal.tenantId then .ok ()
  else .error (.http 403 (.text "Department access denied."))

end AgentTables

structure ChatSessionCreateRequest where
  title : Option String := none
  agentId : Option UUID := none
  channelId : Option UUID := none
  departmentId : Option UUID := none
  source : String := "chat_console"
  metadata : JsonDict := []

structure ChatGovernanceContext where
  agentId : Option UUID
  channelId : Option UUID
  departmentId : Option UUID
  metadata : JsonDict

def mergeChannelAgentKey (texts : ChatTexts) (metadata : JsonDict) (channel : ChatChannel) :
    JsonDict :=
  if (channel.config.get "agent_key").truthy && !(metadata.get "agent_key").truthy then
    metadata.set "agent_key" (.str (texts.str (channel.config.get "agent_key")))
  else metadata

def mergeChannelMetadata (texts : ChatTexts) (metadata : JsonDict) (channel : ChatChannel) :
    JsonDict :=
  let metadata := mergeChannelAgentKey texts metadata channel
  let channelAgentContext := dictMetadataValue (channel.config.get "agent_context")
  if channelAgentContext.isEmpty then metadata
  else metadata.set "agent_context"
    (.obj (JsonDict.merge channelAgentContext
      (dictMetadataValue (metadata.get "agent_context"))))

def instanceContext (texts : ChatTexts) (row : AgentInstanceRow) : JsonDict :=
  let context := JsonDict.merge row.config (instanceIdentity texts row.toAgentInstance)
  match row.departmentId with
  | some departmentId => context.set "department_id" (.str (texts.uuid departmentId))
  | none => context

def mergeAgentInstanceMetadata (texts : ChatTexts) (metadata : JsonDict)
    (row : AgentInstanceRow) : JsonDict :=
  metadata.set "agent_context"
    (.obj (JsonDict.merge (instanceContext texts row)
      (safeMessageAgentContext (metadata.get "agent_context"))))

/-- `metadata.setdefault("agent_key", agent.agent_key)`. -/
def withAgentKey (metadata : JsonDict) (row : AgentInstanceRow) : JsonDict :=
  match metadata.lookup "agent_key" with
  | some _ => metadata
  | none => metadata.set "agent_key" (.str row.agentKey)

def resolveAgentDepartment (row : AgentInstanceRow) (requested : Option UUID) :
    Except Exc (Option UUID) :=
  match row.departmentId with
  | none => .ok requested
  | some own =>
    if requested.isSome ∧ requested ≠ some own then
      .error (.http 403
        (.text "Chat session department_id does not match the selected Agent instance."))
    else .ok (some own)

def resolveChannel (texts : ChatTexts) (tables : AgentTables) (principal : Principal)
    (payload : ChatSessionCreateRequest) : Except Exc (Option UUID × JsonDict) :=
  match payload.channelId with
  | none => .ok (payload.agentId, payload.metadata)
  | some channelId => do
    let channel ← tables.getChannelConfig principal channelId
    let metadata := mergeChannelMetadata texts payload.metadata channel
    match channel.agentId with
    | none => pure (payload.agentId, metadata)
    | some bound =>
      if payload.agentId.isSome ∧ payload.agentId ≠ some bound then
        .error (.http 409
          (.text "Chat session agent_id does not match the selected channel."))
      else pure (some bound, metadata)

def resolveAgent (texts : ChatTexts) (tables : AgentTables) (principal : Principal)
    (payload : ChatSessionCreateRequest) (agentId : Option UUID) (metadata : JsonDict) :
    Except Exc (Option UUID × JsonDict) :=
  match agentId with
  | none => .ok (payload.departmentId, metadata)
  | some agentId => do
    let row ← tables.getAgentInstance principal agentId false
    let departmentId ← resolveAgentDepartment row payload.departmentId
    pure (departmentId, mergeAgentInstanceMetadata texts (withAgentKey metadata row) row)

def whenGiven {α : Type} (value : Option α) (check : α → Except Exc Unit) : Except Exc Unit :=
  match value with
  | some a => check a
  | none => .ok ()

def resolveChatGovernanceContext (texts : ChatTexts) (tables : AgentTables)
    (principal : Principal) (payload : ChatSessionCreateRequest) :
    Except Exc ChatGovernanceContext := do
  let bound ← resolveChannel texts tables principal payload
  let placed ← resolveAgent texts tables principal payload bound.1 bound.2
  whenGiven placed.1 (tables.assertDepartmentAccess principal)
  pure
    { agentId := bound.1
      channelId := payload.channelId
      departmentId := placed.1
      metadata := placed.2 }

def openedSession (principal : Principal) (payload : ChatSessionCreateRequest)
    (governance : ChatGovernanceContext) (id : UUID) : ConversationSession :=
  { id := id
    tenantId := principal.tenantId
    title := (pyOr payload.title (some "New AgentHive conversation")).getD ""
    agentId := governance.agentId
    channelId := governance.channelId
    userId := some principal.userId
    departmentId := governance.departmentId
    source := payload.source
    metadataJson := governance.metadata }

def AgentTables.insertConversation (tables : AgentTables) (row : ConversationSession) :
    Except Exc AgentTables :=
  if tables.conversations.any fun other => other.id == row.id then
    .error (.sqlAlchemy "IntegrityError" "duplicate key value")
  else .ok { tables with conversations := tables.conversations ++ [row] }

/-- `create_chat_session` over a database that answers. -/
def createChatSession (texts : ChatTexts) (tables : AgentTables) (principal : Principal)
    (payload : ChatSessionCreateRequest) (id : UUID) : Except Exc AgentTables := do
  let governance ← resolveChatGovernanceContext texts tables principal payload
  tables.insertConversation (openedSession principal payload governance id)

def channelSession (channel : ChatChannel) (conversationKey externalUserId title : String)
    (id : UUID) : ConversationSession :=
  { id := id
    tenantId := channel.tenantId
    title := title
    agentId := channel.agentId
    channelId := some channel.id
    userId := channel.createdBy
    departmentId := none
    source := "channel." ++ channel.channelType
    metadataJson :=
      [("conversation_key", .str conversationKey), ("external_user_id", .str externalUserId),
        ("channel_key", .str channel.channelKey)] }

def AgentTables.touch (tables : AgentTables) (conversation : ConversationSession)
    (payload : ChatMessageCreateRequest) (answer : LLMAnswer) (now : String) : AgentTables :=
  { tables with
    conversations := tables.conversations.map fun row =>
      if row.id = conversation.id then touchedConversation row payload answer now else row }

structure AgentInstanceUpdateRequest where
  name : Option String := none
  status : Option String := none
  visibility : Option String := none
  departmentId : Option UUID := none
  ownerUserId : Option UUID := none
  modelRoutingKey : Option String := none
  modelKey : Option String := none
  config : Option DistinctDict := none

/-- What an update asks of the license and of the knowledge bases. -/
structure UpdateChecks where
  authorizeAgentRun : Principal → String → Except Exc Unit
  validateKnowledgeConfig : Principal → JsonDict → Except Exc Unit

def normalizeAgentInstanceDepartment (tables : AgentTables) (principal : Principal)
    (visibility : String) (departmentId : Option UUID) : Except Exc (Option UUID) :=
  if visibility ≠ "department" then .ok none
  else match departmentId with
    | none => .error (.http 422
        (.text "department_id is required for department-visible Agent instances."))
    | some departmentId =>
      if !tables.departments.any fun row =>
          row.tenantId == principal.tenantId && row.id == departmentId then
        .error (.http 404 (.text "Department not found for this tenant."))
      else if !principal.isTenantAdmin &&
          !(tables.principalDepartmentIds principal).contains departmentId then
        .error (.http 403 (.text
          "Cannot assign an Agent instance to a department outside the current user scope."))
      else .ok (some departmentId)

def checkOwner (principal : Principal) (ownerUserId : Option UUID) : Except Exc Unit :=
  if ownerUserId.isSome ∧ !principal.isTenantAdmin ∧ ownerUserId ≠ some principal.userId then
    .error (.http 403
      (.text "Cannot assign an Agent instance owner outside the current user scope."))
  else .ok ()

def nextConfig (row : AgentInstanceRow) (payload : AgentInstanceUpdateRequest) : DistinctDict :=
  payload.config.getD ⟨row.config, row.config_distinct⟩

def updatedInstance (row : AgentInstanceRow) (payload : AgentInstanceUpdateRequest)
    (departmentId : Option UUID) : AgentInstanceRow :=
  { row with
    name := payload.name.getD row.name
    status := payload.status.getD row.status
    visibility := payload.visibility.getD row.visibility
    departmentId := departmentId
    ownerUserId := payload.ownerUserId.orElse fun _ => row.ownerUserId
    modelRoutingKey := payload.modelRoutingKey.orElse fun _ => row.modelRoutingKey
    modelKey := payload.modelKey.orElse fun _ => row.modelKey
    config := (nextConfig row payload).1
    config_distinct := (nextConfig row payload).2 }

def AgentTables.replaceInstance (tables : AgentTables) (row : AgentInstanceRow) : AgentTables :=
  { tables with
    instances := tables.instances.map fun other => if other.id = row.id then row else other }

def whenActive (status : String) (check : Except Exc Unit) : Except Exc Unit :=
  if status = "active" then check else .ok ()

def updateAgentInstance (checks : UpdateChecks) (tables : AgentTables) (principal : Principal)
    (agentId : UUID) (payload : AgentInstanceUpdateRequest) : Except Exc AgentTables := do
  let row ← tables.getAgentInstance principal agentId true
  whenActive (payload.status.getD row.status)
    (checks.authorizeAgentRun principal row.moduleKey)
  let departmentId ← normalizeAgentInstanceDepartment tables principal
    (payload.visibility.getD row.visibility)
    (payload.departmentId.orElse fun _ => row.departmentId)
  checkOwner principal payload.ownerUserId
  whenGiven payload.config fun config => checks.validateKnowledgeConfig principal config.1
  pure (tables.replaceInstance (updatedInstance row payload departmentId))

end AgentHive.Chat
