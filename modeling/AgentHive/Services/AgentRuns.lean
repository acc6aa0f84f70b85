import AgentHive.Services.AgentRuntime

/-!
Runs at once and as a stream, side by side.
-/

namespace AgentHive.Chat

open Process (Delivered Generator)
open Process.Generator (Answers Silent)
open Rag (Json JsonDict)
open Process.Generator (answers_awaiting answers_bind awaiting bind_assoc pure_bind run_bind
  run_bind_of_error run_bind_of_ok run_computing run_pure run_yielding yields_awaiting
  yields_bind yields_computing yields_pure)

variable {W : Type}

def doneResponses (events : List AgentEvent) : List AgentRunResponse :=
  events.filterMap fun event =>
    match event with
    | .done response => response
    | .delta _ => none

def deltaTexts (events : List AgentEvent) : List String :=
  events.filterMap fun event =>
    match event with
    | .delta content => some content
    | .done _ => none

/-- The stream announces the response of the run in one final event, its deltas are the
answer, and it raises when the run does. -/
def Agrees (run : Delivered AgentEvent Exc W AgentRunResponse)
    (stream : Delivered AgentEvent Exc W Unit) : Prop :=
  match run.result with
  | .ok response =>
    stream.result = .ok () ∧ doneResponses stream.values = [response] ∧
      String.join (deltaTexts stream.values) = response.answer
  | .error _ => ∃ x, stream.result = .error x

theorem agrees_bind {α : Type} {g : AgentCall W α} (silent : Silent g)
    {f : α → AgentCall W AgentRunResponse} {h : α → AgentCall W Unit} {w : W} :
    Agrees ((g >>= f).run w) ((g >>= h).run w) ↔
      ∀ a w', Answers g w a w' → Agrees ((f a).run w') ((h a).run w') := by
  cases ended : (g.run w).result with
  | ok a =>
    rw [run_bind_of_ok ended, run_bind_of_ok ended, silent.values_eq]
    constructor
    · intro agrees b w' answered
      obtain ⟨eq, rfl⟩ := answered
      rw [ended] at eq
      cases eq
      exact agrees
    · intro all
      exact all a _ ⟨ended, rfl⟩
  | error x =>
    rw [run_bind_of_error ended, run_bind_of_error ended]
    refine ⟨fun _ b w' answered => ?_, fun _ => ⟨x, rfl⟩⟩
    rw [Answers, ended] at answered
    cases answered.1

section Silence

variable (runtime : AgentRuntime W) (principal : Principal)

theorem silent_canonicalChannel (context : JsonDict) :
    Silent (canonicalChannel runtime principal context) := by
  refine yields_bind (yields_computing _) ?_
  intro channelId
  cases channelId with
  | none => exact yields_pure _
  | some id =>
    exact yields_bind (yields_awaiting _)
      fun channel => yields_computing _

theorem silent_canonicalDepartment (context : JsonDict) :
    Silent (canonicalDepartment runtime principal context) := by
  refine yields_bind (yields_computing _) ?_
  intro departmentId
  cases departmentId with
  | none => exact yields_pure _
  | some id =>
    exact yields_bind (yields_awaiting _) fun _ => yields_pure _

variable (payload : AgentRunRequest)

theorem silent_canonicalize :
    Silent (canonicalizeAgentGovernanceContext runtime payload principal) :=
  yields_bind (silent_canonicalChannel runtime principal _) fun _ =>
    yields_bind (silent_canonicalDepartment runtime principal _) fun _ =>
      yields_pure _

theorem silent_applyDefaults (agentKey requiredModule : String) :
    Silent (applyAgentInstanceDefaults runtime payload principal agentKey requiredModule) := by
  refine yields_bind (yields_computing _) ?_
  intro agentId
  cases agentId with
  | none => exact yields_pure _
  | some id =>
    exact yields_bind (yields_awaiting _) fun _ =>
      yields_bind (yields_computing _) fun _ =>
        yields_bind (yields_awaiting _) fun _ =>
          yields_bind (yields_computing _) fun _ =>
            yields_pure _

theorem silent_requestIdOr (requestId : Option String) (start : String) :
    Silent (requestIdOr runtime requestId start) := by
  intro w event mem
  rw [Generator.run, requestIdOr] at mem
  split at mem
  · cases mem
  · cases mem

theorem silent_greeting (agentKey : String) (payload : AgentRunRequest)
    (requestId : Option String) (requiredModule : String) :
    Silent (customerServiceGreetingResponse runtime agentKey payload requestId
      requiredModule) := by
  rw [customerServiceGreetingResponse]
  split
  · exact yields_pure _
  · exact yields_bind (silent_requestIdOr runtime _ _) fun _ => yields_pure _

theorem silent_guardrail (agentKey : String) (payload : AgentRunRequest)
    (requestId : Option String) (requiredModule : String) (decision : GuardrailDecision)
    (diagnostics : JsonDict) :
    Silent (knowledgeGuardrailResponse runtime agentKey payload requestId requiredModule decision
      diagnostics) :=
  yields_bind (silent_requestIdOr runtime _ _) fun _ => yields_pure _

theorem silent_retrieveBases (topK : Nat) (agentKey : String)
    (requestId : Option String) (retrieved : Retrieved) (baseIds : List UUID) :
    Silent (retrieveBases runtime payload principal topK agentKey requestId retrieved
      baseIds) := by
  induction baseIds generalizing retrieved with
  | nil => exact yields_pure _
  | cons id rest ih =>
    exact yields_bind (yields_computing _) fun _ =>
      yields_bind (yields_awaiting _) fun result => ih _

theorem silent_enrichWithKnowledge (agentKey : String)
    (requestId : Option String) :
    Silent (enrichWithKnowledgeContext runtime payload principal agentKey requestId) := by
  refine yields_bind (yields_computing _) ?_
  intro baseIds
  cases baseIds with
  | nil => exact yields_pure _
  | cons id rest =>
    exact yields_bind (yields_computing _) fun topK =>
      yields_bind (silent_retrieveBases runtime principal _ _ _ _ _ _) fun _ =>
        yields_pure _

theorem silent_enrichWithMcp :
    Silent (enrichWithMcpTools runtime payload principal) :=
  yields_bind (yields_awaiting _) fun _ => yields_pure _

end Silence

def finalResponse (texts : AgentTexts) (response : AgentRunResponse) (context : JsonDict)
    (authorization : AgentRunAuthorization) (diagnostics : JsonDict) (sources : List JsonDict) :
    AgentRunResponse :=
  withRuntimeSummary texts
    { response with
      sources := sources
      metadata := JsonDict.merge response.metadata
        [("license_gate", .str authorization.licenseGate),
          ("license_gate_reason", .str authorization.reason),
          ("licensed", optionalBool authorization.licensed),
          ("installed", optionalBool authorization.installed),
          ("enabled", optionalBool authorization.enabled),
          ("agent_instance", .obj (agentInstanceDiagnosticsFromContext texts context)),
          ("knowledge", .obj diagnostics),
          ("mcp", context.get "mcp")] }

variable (texts : AgentTexts)

theorem finalRunResponse_eq (payload : AgentRunRequest)
    (authorization : AgentRunAuthorization) (outcome : RunOutcome) :
    finalRunResponse texts payload authorization outcome =
      (dedupeSources (outcome.response.sources ++ outcome.knowledgeSources)).map
        (finalResponse texts outcome.response payload.context authorization
          outcome.knowledgeDiagnostics) := by
  rw [finalRunResponse]
  cases dedupeSources (outcome.response.sources ++ outcome.knowledgeSources) with
  | ok sources => rfl
  | error x => rfl

theorem mergeAgentStreamMetadata_eq (response : AgentRunResponse)
    (payload : AgentRunRequest) (authorization : AgentRunAuthorization)
    (sources : List JsonDict) (diagnostics : JsonDict) :
    mergeAgentStreamMetadata texts response payload authorization sources diagnostics =
      (dedupeSources (response.sources ++ sources)).map
        (finalResponse texts response payload.context authorization diagnostics) := by
  rw [mergeAgentStreamMetadata]
  cases dedupeSources (response.sources ++ sources) with
  | ok sources => rfl
  | error x => rfl

theorem mcp_of_augmented (metadata : JsonDict) :
    (augmentRuntimeSummaryWithMcp metadata).get "mcp" = metadata.get "mcp" := by
  rw [augmentRuntimeSummaryWithMcp]
  split
  · exact JsonDict.get_set_of_ne _ _ (by decide)
  · rfl

theorem mcp_of_finalResponse (response : AgentRunResponse)
    (context : JsonDict) (authorization : AgentRunAuthorization) (diagnostics : JsonDict)
    (sources : List JsonDict) :
    (finalResponse texts response context authorization diagnostics sources).metadata.get "mcp" =
      context.get "mcp" := by
  rw [finalResponse, withRuntimeSummary, mcp_of_augmented,
    JsonDict.get_set_of_ne _ _ (by decide), JsonDict.get, JsonDict.lookup_merge]
  rfl

variable {authorization : AgentRunAuthorization}

theorem finalResponse_eq_iff {texts : AgentTexts} {response : AgentRunResponse}
    {context context' : JsonDict} {diagnostics : JsonDict} {sources : List JsonDict}
    (same : agentInstanceDiagnosticsFromContext texts context =
      agentInstanceDiagnosticsFromContext texts context') :
    finalResponse texts response context authorization diagnostics sources =
        finalResponse texts response context' authorization diagnostics sources ↔
      context.get "mcp" = context'.get "mcp" := by
  constructor
  · intro eq
    have shown := congrArg (fun r : AgentRunResponse => JsonDict.get r.metadata "mcp") eq
    simpa only [mcp_of_finalResponse] using shown
  · intro eq
    simp only [finalResponse, same, eq]

theorem instanceDiagnostics_congr {context context' : JsonDict}
    (agentId : context.get "agent_id" = context'.get "agent_id")
    (fields : ∀ field ∈ agentInstanceFields, context.get field.1 = context'.get field.1) :
    agentInstanceDiagnosticsFromContext texts context =
      agentInstanceDiagnosticsFromContext texts context' := by
  have folded : ∀ (items : List (String × String)) (d : JsonDict),
      (∀ field ∈ items, context.get field.1 = context'.get field.1) →
      items.foldl (fun diagnostics field =>
          if isBlank (context.get field.1) then diagnostics
          else diagnostics.set field.2 (.str (texts.str (context.get field.1)))) d =
        items.foldl (fun diagnostics field =>
          if isBlank (context'.get field.1) then diagnostics
          else diagnostics.set field.2 (.str (texts.str (context'.get field.1)))) d := by
    intro items
    induction items with
    | nil => exact fun _ _ => rfl
    | cons field rest ih =>
      intro d same
      rw [List.foldl_cons, List.foldl_cons, same field List.mem_cons_self]
      exact ih _ fun f mem => same f (List.mem_cons_of_mem _ mem)
  simp only [agentInstanceDiagnosticsFromContext, agentId]
  rw [folded _ _ fields]

theorem get_withKnowledge (payload : AgentRunRequest)
    (sources : List JsonDict) {key : String} (first : key ≠ "knowledge_context")
    (second : key ≠ "knowledge_sources") :
    (withKnowledge texts payload sources).context.get key = payload.context.get key := by
  rw [withKnowledge, JsonDict.get_merge_of_not_mem]
  intro entry mem
  simp only [List.mem_cons, List.not_mem_nil, or_false] at mem
  obtain rfl | rfl := mem
  · exact first
  · exact second

variable {runtime : AgentRuntime W} {payload : AgentRunRequest} {principal : Principal}
    {agentKey : String} {requestId : Option String}

theorem get_enriched {w w' : W} {enriched : Enriched} (answered : Answers
      (enrichWithKnowledgeContext runtime payload principal agentKey requestId) w enriched w')
    {key : String} (first : key ≠ "knowledge_context") (second : key ≠ "knowledge_sources") :
    enriched.payload.context.get key = payload.context.get key := by
  obtain ⟨baseIds, w₁, _, later⟩ := answers_bind.mp answered
  cases baseIds with
  | nil =>
    cases later.1
    rfl
  | cons id rest =>
    obtain ⟨topK, w₂, _, later⟩ := answers_bind.mp later
    obtain ⟨retrieved, w₃, _, later⟩ := answers_bind.mp later
    cases later.1
    exact get_withKnowledge _ _ _ first second

theorem instanceDiagnostics_enriched {w w' : W} {enriched : Enriched} (answered : Answers
      (enrichWithKnowledgeContext runtime payload principal agentKey requestId) w enriched w') :
    agentInstanceDiagnosticsFromContext runtime.texts payload.context =
      agentInstanceDiagnosticsFromContext runtime.texts enriched.payload.context := by
  refine instanceDiagnostics_congr _ ?_ fun field mem => ?_
  · exact (get_enriched answered (by decide) (by decide)).symm
  · simp only [agentInstanceFields, List.mem_cons, List.not_mem_nil, or_false] at mem
    obtain rfl | rfl | rfl | rfl | rfl | rfl := mem <;>
      exact (get_enriched answered (by decide) (by decide)).symm

/-- What `run_agent` does once its pipeline has come to an outcome. -/
def finishRun (runtime : AgentRuntime W) (principal : Principal) (agentKey : String)
    (requestId : Option String) (payload : AgentRunRequest)
    (authorization : AgentRunAuthorization) (outcome : RunOutcome) :
    AgentCall W AgentRunResponse := do
  let response ← Generator.computing
    (finalRunResponse runtime.texts payload authorization outcome)
  recordAgentRun runtime principal agentKey requestId response
  pure response

section Finishing

variable {runtime : AgentRuntime W} {principal : Principal} {agentKey : String}
  {requestId : Option String} {payload : AgentRunRequest}
  {authorization : AgentRunAuthorization} {outcome : RunOutcome} {w w' : W}

def auditOf (runtime : AgentRuntime W) (principal : Principal) (agentKey : String)
    (requestId : Option String) (outcome : RunOutcome) (w : W) : Except Exc Unit × W :=
  runtime.recordAgentRunAudit principal agentKey
    (pyOr requestId (some outcome.response.requestId)) w

theorem run_recordFinal (context : JsonDict) (sources : List JsonDict) :
    (recordAgentRun runtime principal agentKey requestId
      (finalResponse runtime.texts outcome.response context authorization
        outcome.knowledgeDiagnostics sources)).run w =
      ⟨[], (auditOf runtime principal agentKey requestId outcome w).2,
        (auditOf runtime principal agentKey requestId outcome w).1⟩ :=
  rfl

theorem run_finishRun_of_ok {sources : List JsonDict}
    (merged : dedupeSources (outcome.response.sources ++ outcome.knowledgeSources) = .ok sources)
    (recorded : auditOf runtime principal agentKey requestId outcome w = (.ok (), w')) :
    (finishRun runtime principal agentKey requestId payload authorization outcome).run w =
      ⟨[], w', .ok (finalResponse runtime.texts outcome.response payload.context authorization
        outcome.knowledgeDiagnostics sources)⟩ := by
  have final := finalRunResponse_eq runtime.texts payload authorization outcome
  rw [merged] at final
  simp only [finishRun, final, Except.map, run_bind, run_computing,
    Delivered.bind, run_recordFinal, recorded, run_pure,
    List.nil_append]

theorem run_announceWhole_of_ok {sources : List JsonDict}
    (merged : dedupeSources (outcome.response.sources ++ outcome.knowledgeSources) = .ok sources)
    (recorded : auditOf runtime principal agentKey requestId outcome w = (.ok (), w')) :
    (announceWhole runtime principal agentKey requestId payload authorization outcome).run w =
      ⟨[.delta outcome.response.answer,
        .done (some (finalResponse runtime.texts outcome.response payload.context authorization
          outcome.knowledgeDiagnostics sources))], w', .ok ()⟩ := by
  have final := mergeAgentStreamMetadata_eq runtime.texts outcome.response payload authorization
    outcome.knowledgeSources outcome.knowledgeDiagnostics
  rw [merged] at final
  simp only [announceWhole, announce, final, Except.map, run_bind,
    run_yielding, run_computing, Delivered.bind,
    run_recordFinal, recorded, List.nil_append, List.cons_append]

variable (payload authorization) in
theorem finish_raises
    (failed : ∀ sources w',
      dedupeSources (outcome.response.sources ++ outcome.knowledgeSources) = .ok sources →
      auditOf runtime principal agentKey requestId outcome w ≠ (.ok (), w')) :
    (∃ x, ((finishRun runtime principal agentKey requestId payload authorization outcome).run
      w).result = .error x) ∧
    ∃ x, ((announceWhole runtime principal agentKey requestId payload authorization outcome).run
      w).result = .error x := by
  have final := finalRunResponse_eq runtime.texts payload authorization outcome
  have streamed := mergeAgentStreamMetadata_eq runtime.texts outcome.response payload
    authorization outcome.knowledgeSources outcome.knowledgeDiagnostics
  cases merged : dedupeSources (outcome.response.sources ++ outcome.knowledgeSources) with
  | error x =>
    rw [merged] at final streamed
    refine ⟨⟨x, ?_⟩, x, ?_⟩
    · rw [finishRun, final, run_bind_of_error rfl]
    · rw [announceWhole, run_bind_of_ok (a := ()) rfl, announce, streamed,
        run_bind_of_error rfl]
  | ok sources =>
    rw [merged] at final streamed
    cases recorded : auditOf runtime principal agentKey requestId outcome w with
    | mk answer w₁ =>
      cases answer with
      | ok u => exact absurd recorded (failed sources w₁ merged)
      | error x =>
        refine ⟨⟨x, ?_⟩, x, ?_⟩
        · simp only [finishRun, final, Except.map, run_bind,
            run_computing, Delivered.bind,
            run_recordFinal, recorded]
        · simp only [announceWhole, announce, streamed, Except.map, run_bind,
            run_yielding, run_computing, Delivered.bind,
            run_recordFinal, recorded]

theorem agrees_finish {payload' : AgentRunRequest}
    (same : agentInstanceDiagnosticsFromContext runtime.texts payload.context =
      agentInstanceDiagnosticsFromContext runtime.texts payload'.context) :
    Agrees
        ((finishRun runtime principal agentKey requestId payload authorization outcome).run w)
        ((announceWhole runtime principal agentKey requestId payload' authorization outcome).run
          w) ↔
      ∀ sources w',
        dedupeSources (outcome.response.sources ++ outcome.knowledgeSources) = .ok sources →
        auditOf runtime principal agentKey requestId outcome w = (.ok (), w') →
        payload.context.get "mcp" = payload'.context.get "mcp" := by
  by_cases finished : ∃ sources w',
      dedupeSources (outcome.response.sources ++ outcome.knowledgeSources) = .ok sources ∧
      auditOf runtime principal agentKey requestId outcome w = (.ok (), w')
  · obtain ⟨sources, w', merged, recorded⟩ := finished
    have whole : Agrees
        ((finishRun runtime principal agentKey requestId payload authorization outcome).run w)
        ((announceWhole runtime principal agentKey requestId payload' authorization outcome).run
          w) ↔ payload.context.get "mcp" = payload'.context.get "mcp" := by
      rw [run_finishRun_of_ok merged recorded, run_announceWhole_of_ok merged recorded,
        ← finalResponse_eq_iff same]
      constructor
      · intro agrees
        exact (List.singleton_inj.mp agrees.2.1).symm
      · intro eq
        refine ⟨rfl, List.singleton_inj.mpr eq.symm, ?_⟩
        exact String.empty_append
    rw [whole]
    exact ⟨fun eq _ _ _ _ => eq, fun all => all sources w' merged recorded⟩
  · have failed : ∀ sources w',
        dedupeSources (outcome.response.sources ++ outcome.knowledgeSources) = .ok sources →
        auditOf runtime principal agentKey requestId outcome w ≠ (.ok (), w') :=
      fun sources w' merged recorded => finished ⟨sources, w', merged, recorded⟩
    obtain ⟨⟨x, raised⟩, _⟩ := finish_raises payload authorization failed
    obtain ⟨_, stopped⟩ := finish_raises payload' authorization failed
    rw [Agrees, raised]
    exact ⟨fun _ sources w' merged recorded => absurd recorded (failed sources w' merged),
      fun _ => stopped⟩

end Finishing

def governed (runtime : AgentRuntime W) (agent : Agent W) (agentKey : String)
    (payload : AgentRunRequest) (principal : Principal) :
    AgentCall W (AgentRunAuthorization × AgentRunRequest) := do
  let authorization ← awaiting
    (runtime.authorizeAgentRun principal agent.requiredModule)
  let payload ← canonicalizeAgentGovernanceContext runtime payload principal
  let payload ← applyAgentInstanceDefaults runtime payload principal agentKey
    agent.requiredModule
  let payload ← canonicalizeAgentGovernanceContext runtime payload principal
  pure (authorization, payload)

theorem silent_governed (runtime : AgentRuntime W) (agent : Agent W) (agentKey : String)
    (payload : AgentRunRequest) (principal : Principal) :
    Silent (governed runtime agent agentKey payload principal) :=
  yields_bind (yields_awaiting _) fun _ =>
    yields_bind (silent_canonicalize runtime principal _) fun _ =>
      yields_bind (silent_applyDefaults runtime principal _ _ _) fun _ =>
        yields_bind (silent_canonicalize runtime principal _) fun _ =>
          yields_pure _

variable {agent : Agent W}

theorem runAgent_eq (known : runtime.agents agentKey = some agent) (payload : AgentRunRequest)
    (principal : Principal) (requestId : Option String) :
    runAgent runtime agentKey payload principal requestId =
      governed runtime agent agentKey payload principal >>= fun settled =>
        runPipeline runtime agent principal agentKey requestId settled.2 >>=
          finishRun runtime principal agentKey requestId settled.2 settled.1 := by
  simp only [runAgent, known, governed, bind_assoc, pure_bind]
  rfl

theorem runAgentStream_eq (known : runtime.agents agentKey = some agent) (payload : AgentRunRequest)
    (principal : Principal) (requestId : Option String) :
    runAgentStream runtime agentKey payload principal requestId =
      governed runtime agent agentKey payload principal >>= fun settled =>
        streamPipeline runtime agent principal agentKey requestId settled.1 settled.2 := by
  simp only [runAgentStream, known, governed, bind_assoc, pure_bind]

section Pipelines

variable (runtime : AgentRuntime W) (agent : Agent W) (principal : Principal)
  (agentKey : String) (requestId : Option String)

def guardrailOf (enriched : Enriched) : GuardrailDecision :=
  knowledgeGuardrailDecision runtime.texts enriched.payload.context enriched.payload.input
    enriched.diagnostics

inductive AgentAnswers (payload : AgentRunRequest) (w : W) (mounted : List MountedServer) : Prop
  | intro {w₀ w₁ w₂ w₃ w₄ : W} {enriched : Enriched} {response : AgentRunResponse}
      {sources : List JsonDict}
      (noGreeting : Answers
        (customerServiceGreetingResponse runtime agentKey payload requestId agent.requiredModule)
        w none w₀)
      (enrichment : Answers
        (enrichWithKnowledgeContext runtime payload principal agentKey requestId) w₀ enriched w₁)
      (passed : (guardrailOf runtime enriched).triggered = false)
      (mounts : runtime.mountMcpServers principal enriched.payload.mcpServerKeys w₁ =
        (.ok mounted, w₂))
      (answered : agent.run
        { enriched.payload with
          context := enriched.payload.context.set "mcp" (.obj (mcpSummary mounted)) }
        principal requestId w₂ = (.ok response, w₃))
      (merged : dedupeSources (response.sources ++ enriched.sources) = .ok sources)
      (recorded : runtime.recordAgentRunAudit principal agentKey
        (pyOr requestId (some response.requestId)) w₃ = (.ok (), w₄))

def MountsShown (payload : AgentRunRequest) (w : W) : Prop :=
  ∀ mounted, AgentAnswers runtime agent principal agentKey requestId payload w mounted →
    payload.context.get "mcp" = .obj (mcpSummary mounted)

theorem diagnostics_set_mcp (texts : AgentTexts) (context : JsonDict) (value : Json) :
    agentInstanceDiagnosticsFromContext texts context =
      agentInstanceDiagnosticsFromContext texts (context.set "mcp" value) := by
  refine instanceDiagnostics_congr _ ?_ fun field mem => ?_
  · exact (JsonDict.get_set_of_ne _ _ (by decide)).symm
  · simp only [agentInstanceFields, List.mem_cons, List.not_mem_nil, or_false] at mem
    obtain rfl | rfl | rfl | rfl | rfl | rfl := mem <;>
      exact (JsonDict.get_set_of_ne _ _ (by decide)).symm

end Pipelines

theorem answers_enrichWithMcp {payload' : AgentRunRequest} {w w' : W} :
    Answers (enrichWithMcpTools runtime payload principal) w payload' w' ↔
      ∃ mounted, runtime.mountMcpServers principal payload.mcpServerKeys w = (.ok mounted, w') ∧
        { payload with context := payload.context.set "mcp" (.obj (mcpSummary mounted)) } =
          payload' := by
  simp only [enrichWithMcpTools, answers_bind, answers_awaiting,
    Generator.answers_pure]
  constructor
  · intro found
    obtain ⟨mounted, w₁, mounts, eq, rfl⟩ := found
    exact ⟨mounted, mounts, eq⟩
  · intro found
    obtain ⟨mounted, mounts, eq⟩ := found
    exact ⟨mounted, w', mounts, eq, rfl⟩

theorem agrees_reached (noStream : agent.runStream = none) {payload' : AgentRunRequest}
    {sources : List JsonDict} {diagnostics : JsonDict} {w : W}
    (same : agentInstanceDiagnosticsFromContext runtime.texts payload.context =
      agentInstanceDiagnosticsFromContext runtime.texts payload'.context) :
    Agrees
        (((awaiting (agent.run payload' principal requestId) >>= fun response =>
            (pure ⟨response, sources, diagnostics⟩ : AgentCall W RunOutcome)) >>=
          finishRun runtime principal agentKey requestId payload authorization).run w)
        ((streamReached runtime agent principal agentKey requestId payload' authorization sources
          diagnostics).run w) ↔
      ∀ response w₁ merged w₂,
        agent.run payload' principal requestId w = (.ok response, w₁) →
        dedupeSources (response.sources ++ sources) = .ok merged →
        runtime.recordAgentRunAudit principal agentKey
          (pyOr requestId (some response.requestId)) w₁ = (.ok (), w₂) →
        payload.context.get "mcp" = payload'.context.get "mcp" := by
  have streamed : streamReached runtime agent principal agentKey requestId payload'
      authorization sources diagnostics =
      awaiting (agent.run payload' principal requestId) >>= fun response =>
        announceWhole runtime principal agentKey requestId payload' authorization
          ⟨response, sources, diagnostics⟩ := by
    rw [streamReached, noStream]
  rw [streamed, bind_assoc, agrees_bind (yields_awaiting _)]
  simp only [answers_awaiting, pure_bind, agrees_finish same, auditOf]
  constructor
  · intro all response w₁ merged w₂ answered
    exact all response w₁ answered merged w₂
  · intro all response w₁ answered merged w₂
    exact all response w₁ merged w₂ answered

theorem agrees_enriched (noStream : agent.runStream = none) {w₀ w₁ : W} {enriched : Enriched}
    (enrichment : Answers
      (enrichWithKnowledgeContext runtime payload principal agentKey requestId) w₀ enriched w₁) :
    Agrees
        ((runEnriched runtime agent principal agentKey requestId enriched >>=
          finishRun runtime principal agentKey requestId payload authorization).run w₁)
        ((streamEnriched runtime agent principal agentKey requestId authorization enriched).run
          w₁) ↔
      ((guardrailOf runtime enriched).triggered = false →
        ∀ mounted w₂ response w₃ sources w₄,
          runtime.mountMcpServers principal enriched.payload.mcpServerKeys w₁ =
            (.ok mounted, w₂) →
          agent.run
            { enriched.payload with
              context := enriched.payload.context.set "mcp" (.obj (mcpSummary mounted)) }
            principal requestId w₂ = (.ok response, w₃) →
          dedupeSources (response.sources ++ enriched.sources) = .ok sources →
          runtime.recordAgentRunAudit principal agentKey
            (pyOr requestId (some response.requestId)) w₃ = (.ok (), w₄) →
          payload.context.get "mcp" = .obj (mcpSummary mounted)) := by
  have kept := instanceDiagnostics_enriched enrichment
  cases triggered : (guardrailOf runtime enriched).triggered with
  | true =>
    have run : runEnriched runtime agent principal agentKey requestId enriched = _ :=
      if_pos triggered
    have streamed : streamEnriched runtime agent principal agentKey requestId authorization
        enriched = _ :=
      if_pos triggered
    rw [run, streamed, bind_assoc, agrees_bind (silent_guardrail runtime _ _ _ _ _ _)]
    refine ⟨fun _ no => ?_, fun _ response w' _ => ?_⟩
    · cases no
    · rw [pure_bind, agrees_finish kept]
      intro _ _ _ _
      exact (get_enriched enrichment (by decide) (by decide)).symm
  | false =>
    have refused : ¬ (guardrailOf runtime enriched).triggered = true := by
      rw [triggered]
      exact Bool.false_ne_true
    have run : runEnriched runtime agent principal agentKey requestId enriched = _ :=
      if_neg refused
    have streamed : streamEnriched runtime agent principal agentKey requestId authorization
        enriched = _ :=
      if_neg refused
    rw [run, streamed, bind_assoc,
      agrees_bind (silent_enrichWithMcp runtime principal _)]
    simp only [answers_enrichWithMcp]
    constructor
    · intro all _ mounted w₂ response w₃ sources w₄ mounts answered merged recorded
      have agrees := all _ w₂ ⟨mounted, mounts, rfl⟩
      rw [agrees_reached noStream (kept.trans (diagnostics_set_mcp _ _ _))] at agrees
      exact (agrees response w₃ sources w₄ answered merged recorded).trans
        (JsonDict.get_set_self _ _ _)
    · intro shown payload' w₂ found
      obtain ⟨mounted, mounts, rfl⟩ := found
      rw [agrees_reached noStream (kept.trans (diagnostics_set_mcp _ _ _))]
      intro response w₃ sources w₄ answered merged recorded
      exact (shown trivial mounted w₂ response w₃ sources w₄ mounts answered merged
        recorded).trans (JsonDict.get_set_self _ _ _).symm

theorem agrees_pipeline (noStream : agent.runStream = none) {w : W} :
    Agrees
        ((runPipeline runtime agent principal agentKey requestId payload >>=
          finishRun runtime principal agentKey requestId payload authorization).run w)
        ((streamPipeline runtime agent principal agentKey requestId authorization payload).run
          w) ↔
      MountsShown runtime agent principal agentKey requestId payload w := by
  rw [runPipeline, streamPipeline, bind_assoc,
    agrees_bind (silent_greeting runtime _ _ _ _)]
  constructor
  · intro all mounted reached
    obtain ⟨noGreeting, enrichment, passed, mounts, answered, merged, recorded⟩ := reached
    have agrees := all none _ noGreeting
    rw [bind_assoc,
      agrees_bind (silent_enrichWithKnowledge runtime _ _ _ _)] at agrees
    exact (agrees_enriched noStream enrichment).mp (agrees _ _ enrichment) passed mounted _ _ _ _
      _ mounts answered merged recorded
  · intro shown greeted w₀ answered
    cases greeted with
    | some response =>
      rw [pure_bind, agrees_finish rfl]
      exact fun _ _ _ _ => rfl
    | none =>
      rw [bind_assoc, agrees_bind (silent_enrichWithKnowledge runtime _ _ _ _)]
      intro enriched w₁ enrichment
      rw [agrees_enriched noStream enrichment]
      intro passed mounted w₂ response w₃ sources w₄ mounts replied merged recorded
      exact shown mounted
        (.intro answered enrichment passed mounts replied merged recorded)

/-- For agents without a stream of their own, both versions agree exactly when no run
gets an answer from its agent whose context does not show the mounted servers already. -/
theorem stream_agrees_iff (runtime : AgentRuntime W) (agentKey : String)
    (payload : AgentRunRequest) (principal : Principal) (requestId : Option String) (w : W)
    (noStream : ∀ agent, runtime.agents agentKey = some agent → agent.runStream = none) :
    Agrees ((runAgent runtime agentKey payload principal requestId).run w)
        ((runAgentStream runtime agentKey payload principal requestId).run w) ↔
      ∀ agent, runtime.agents agentKey = some agent →
        ∀ authorization settled w',
          Answers (governed runtime agent agentKey payload principal) w (authorization, settled)
            w' →
          MountsShown runtime agent principal agentKey requestId settled w' := by
  cases known : runtime.agents agentKey with
  | none =>
    have run : (runAgent runtime agentKey payload principal requestId).run w =
        ⟨[], w, .error (unknownAgent agentKey)⟩ := by
      rw [runAgent, known]
      rfl
    have streamed : (runAgentStream runtime agentKey payload principal requestId).run w =
        ⟨[], w, .error (unknownAgent agentKey)⟩ := by
      rw [runAgentStream, known]
      rfl
    rw [run, streamed]
    refine ⟨fun _ agent eq => ?_, fun _ => ⟨_, rfl⟩⟩
    cases eq
  | some agent =>
    rw [runAgent_eq known, runAgentStream_eq known, agrees_bind (silent_governed _ _ _ _ _)]
    constructor
    · intro all other eq authorization settled w' answered
      cases eq
      have agrees := all (authorization, settled) w' answered
      rw [agrees_pipeline (noStream agent known)] at agrees
      exact agrees
    · intro shown settled w' answered
      rw [agrees_pipeline (noStream agent known)]
      exact shown agent rfl settled.1 settled.2 w' answered

def asciiTable : CharTable :=
  { isSpace := Char.isWhitespace
    isWord := fun c => c.isAlphanum || c == '_'
    isLineEnd := fun c => c == '\n' || c == '\r'
    foldCase := Char.toLower }

def plainTexts : AgentTexts :=
  { str := fun value =>
      match value with
      | .str s => s
      | _ => ""
    uuid := fun id => toString id
    decimal := fun _ => "0"
    chars := asciiTable
    lower := String.toLower
    uuidOf := String.toNat?
    intOf := String.toInt?
    floatOf := fun _ => none
    round6 := fun q => q }

def crmServer : MountedServer :=
  { serverId := "1", serverKey := "crm", endpointUrl := "https://crm", transport := "http"
    toolNames := ["lookup"], error := none }

def builderAgent : Agent Unit :=
  { agentKey := "custom_builder"
    requiredModule := "agent.custom_builder"
    run := fun payload _ _ w =>
      (.ok
        { answer := "You asked: " ++ payload.input, usage := noUsage, modelKey := "mini"
          requestId := "r1", sources := [], metadata := [] }, w)
    runStream := none }

def builderRuntime : AgentRuntime Unit :=
  { texts := plainTexts
    agents := fun key => if key = "custom_builder" then some builderAgent else none
    authorizeAgentRun := fun _ _ w =>
      (.ok
        { licenseGate := "enforced", licensed := some true, installed := some true
          enabled := some true, reason := "active_license_and_enabled_module" }, w)
    getAgentInstance := fun _ _ w => (.error (.http 404 (.text "Agent instance not found.")), w)
    ensureAgentInstanceReady := fun _ _ w => (.ok (), w)
    getChannelConfig := fun _ _ w => (.error (.http 404 (.text "Channel not found.")), w)
    assertDepartmentAccess := fun _ _ w => (.ok (), w)
    retrieveForAgentRun := fun _ _ _ _ _ _ w => (.error (.other "Unused" ""), w)
    mountMcpServers := fun _ _ w => (.ok [crmServer], w)
    recordAgentRunAudit := fun _ _ _ w => (.ok (), w)
    uuid4 := fun w => ("0", w) }

def builderPrincipal : Principal := { userId := 2, tenantId := 1, permissions := [] }

def shownPayload : AgentRunRequest :=
  { input := "Hello", context := [("mcp", .obj (mcpSummary [crmServer]))] }

theorem shown_run_agrees :
    Agrees ((runAgent builderRuntime "custom_builder" shownPayload builderPrincipal none).run ())
      ((runAgentStream builderRuntime "custom_builder" shownPayload builderPrincipal none).run
        ()) := by
  refine (stream_agrees_iff builderRuntime "custom_builder" shownPayload builderPrincipal none ()
    ?_).mpr ?_
  · intro agent known
    cases known
    rfl
  · intro agent known authorization settled w' answered mounted reached
    cases known
    have unchanged : settled = shownPayload := by
      cases answered.1
      rfl
    obtain ⟨noGreeting, enrichment, passed, mounts, rest⟩ := reached
    cases mounts
    rw [unchanged]
    rfl

theorem mounted_server_missing_from_run :
    ¬ Agrees ((runAgent builderRuntime "custom_builder" { input := "Hello" } builderPrincipal
        none).run ())
      ((runAgentStream builderRuntime "custom_builder" { input := "Hello" } builderPrincipal
        none).run ()) := by
  have run : ∃ response, ((runAgent builderRuntime "custom_builder" { input := "Hello" }
      builderPrincipal none).run ()).result = .ok response ∧
      JsonDict.get response.metadata "mcp" = .null := ⟨_, rfl, rfl⟩
  have streamed : ∃ response, doneResponses ((runAgentStream builderRuntime "custom_builder"
      { input := "Hello" } builderPrincipal none).run ()).values = [response] ∧
      JsonDict.get response.metadata "mcp" = .obj (mcpSummary [crmServer]) := ⟨_, rfl, rfl⟩
  intro agrees
  obtain ⟨response, ended, nothing⟩ := run
  obtain ⟨announced, sent, mounted⟩ := streamed
  rw [Agrees, ended] at agrees
  have same : announced = response := List.singleton_inj.mp (sent.symm.trans agrees.2.1)
  rw [same, nothing] at mounted
  cases mounted

end AgentHive.Chat
