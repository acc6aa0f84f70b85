import AgentHive.Process.Generator
import AgentHive.Services.AgentDiagnostics
import AgentHive.Services.OrgAdmin

/-!
Runs of agents, at once and as a stream of events.

What a run asks of the database, of the retrieval engines, of the mounted servers and
of the agents is given by functions of the world, which may raise and change it.
-/

namespace AgentHive.Chat

open Process (Generator)
open Rag (Json JsonDict)
open Process.Generator (awaiting computing forEach raising yielding)

structure AgentRunAuthorization where
  licenseGate : String
  licensed : Option Bool
  installed : Option Bool
  enabled : Option Bool
  reason : String

structure AgentInstance where
  id : UUID
  name : String
  slug : String
  agentKey : String
  moduleKey : String
  status : String
  visibility : String
  departmentId : Option UUID
  modelKey : Option String
  modelRoutingKey : Option String
  config : JsonDict

structure BoundChannel where
  id : UUID
  agentId : Option UUID

structure RetrievalSource where
  chunkId : String
  documentId : Option UUID
  sourceName : Option String
  score : Option ℚ
  text : String
  metadata : JsonDict

structure RetrievalTestResponse where
  engine : String
  elapsedMs : Nat
  results : List RetrievalSource
  diagnostics : JsonDict

structure MountedServer where
  serverId : String
  serverKey : String
  endpointUrl : String
  transport : String
  toolNames : List String
  error : Option String

structure Agent (W : Type) where
  agentKey : String
  requiredModule : String
  run : AgentRunRequest → Principal → Option String → W → Except Exc AgentRunResponse × W
  runStream : Option (AgentRunRequest → Principal → Option String →
    Generator AgentEvent Exc W Unit)

structure AgentRuntime (W : Type) where
  texts : AgentTexts
  agents : String → Option (Agent W)
  authorizeAgentRun : Principal → String → W → Except Exc AgentRunAuthorization × W
  getAgentInstance : Principal → UUID → W → Except Exc AgentInstance × W
  ensureAgentInstanceReady : Principal → AgentInstance → W → Except Exc Unit × W
  getChannelConfig : Principal → UUID → W → Except Exc BoundChannel × W
  assertDepartmentAccess : Principal → UUID → W → Except Exc Unit × W
  retrieveForAgentRun : Principal → AgentRunRequest → UUID → Nat → String → Option String →
    W → Except Exc RetrievalTestResponse × W
  mountMcpServers : Principal → Option (List String) → W →
    Except Exc (List MountedServer) × W
  recordAgentRunAudit : Principal → String → Option String → W → Except Exc Unit × W
  uuid4 : W → String × W

variable {W : Type}

abbrev AgentCall (W α : Type) : Type := Generator AgentEvent Exc W α

def contextUuid (texts : AgentTexts) (value : Json) (fieldName : String) :
    Except Exc (Option UUID) :=
  if isBlank value then .ok none
  else match texts.uuidOf (texts.str value) with
    | some id => .ok (some id)
    | none => .error (.http 422 (.text (fieldName ++ " must be a UUID.")))

def channelContext (texts : AgentTexts) (context : JsonDict) (channel : BoundChannel) :
    Except Exc JsonDict :=
  match channel.agentId with
  | none => .ok (context.set "channel_id" (.str (texts.uuid channel.id)))
  | some bound => do
    let agentId ← contextUuid texts (context.get "agent_id") "agent_id"
    if agentId.isSome ∧ agentId ≠ some bound then
      .error (.http 409 (.text "Agent run agent_id does not match the selected channel."))
    else
      pure ((context.set "agent_id" (.str (texts.uuid bound))).set "channel_id"
        (.str (texts.uuid channel.id)))

def canonicalChannel (runtime : AgentRuntime W) (principal : Principal) (context : JsonDict) :
    AgentCall W JsonDict := do
  match ← computing
    (contextUuid runtime.texts (context.get "channel_id") "channel_id") with
  | none => pure context
  | some channelId => do
    let channel ← awaiting (runtime.getChannelConfig principal channelId)
    computing (channelContext runtime.texts context channel)

def canonicalDepartment (runtime : AgentRuntime W) (principal : Principal)
    (context : JsonDict) : AgentCall W JsonDict := do
  match ← computing
    (contextUuid runtime.texts (context.get "department_id") "department_id") with
  | none => pure context
  | some departmentId => do
    awaiting (runtime.assertDepartmentAccess principal departmentId)
    pure (context.set "department_id" (.str (runtime.texts.uuid departmentId)))

def canonicalizeAgentGovernanceContext (runtime : AgentRuntime W) (payload : AgentRunRequest)
    (principal : Principal) : AgentCall W AgentRunRequest := do
  let context ← canonicalChannel runtime principal payload.context
  let context ← canonicalDepartment runtime principal context
  pure { payload with context := context }

def runnableAgentInstanceStatuses : List String := ["active"]

def checkInstance (instance_ : AgentInstance) (agentKey requiredModule : String) :
    Except Exc Unit :=
  if instance_.agentKey ≠ agentKey then
    .error (.http 409 (.text "Agent instance does not match the requested official Agent."))
  else if instance_.moduleKey ≠ requiredModule then
    .error (.http 409
      (.text "Agent instance module does not match the requested official Agent module."))
  else if runnableAgentInstanceStatuses.contains instance_.status then .ok ()
  else .error (.http 403 (.text "Agent instance must be active before it can run."))

def instanceDepartment (texts : AgentTexts) (context : JsonDict) (instance_ : AgentInstance) :
    Except Exc (Option UUID) := do
  let departmentId ← contextUuid texts (context.get "department_id") "department_id"
  match instance_.departmentId with
  | none => pure departmentId
  | some own =>
    if departmentId.isSome ∧ departmentId ≠ some own then
      .error (.http 403
        (.text "Agent run department_id does not match the selected Agent instance."))
    else pure (some own)

def instanceIdentity (texts : ChatTexts) (instance_ : AgentInstance) : JsonDict :=
  [("agent_id", .str (texts.uuid instance_.id)),
    ("module_key", .str instance_.moduleKey),
    ("agent_instance_slug", .str instance_.slug),
    ("agent_instance_name", .str instance_.name),
    ("visibility", .str instance_.visibility)]

def mergedContext (texts : AgentTexts) (instance_ : AgentInstance) (context : JsonDict)
    (departmentId : Option UUID) : JsonDict :=
  let merged := JsonDict.merge (JsonDict.merge instance_.config context)
    (instanceIdentity texts.toChatTexts instance_)
  match departmentId with
  | some id => merged.set "department_id" (.str (texts.uuid id))
  | none => merged

def applyAgentInstanceDefaults (runtime : AgentRuntime W) (payload : AgentRunRequest)
    (principal : Principal) (agentKey requiredModule : String) :
    AgentCall W AgentRunRequest := do
  match ← computing
    (contextUuid runtime.texts (payload.context.get "agent_id") "agent_id") with
  | none => pure payload
  | some agentId => do
    let instance_ ← awaiting (runtime.getAgentInstance principal agentId)
    computing (checkInstance instance_ agentKey requiredModule)
    awaiting (runtime.ensureAgentInstanceReady principal instance_)
    let departmentId ← computing
      (instanceDepartment runtime.texts payload.context instance_)
    pure
      { payload with
        context := mergedContext runtime.texts instance_ payload.context departmentId
        modelKey := pyOr payload.modelKey instance_.modelKey
        routingKey := pyOr payload.routingKey instance_.modelRoutingKey }

def uniqueBaseIds (texts : AgentTexts) : List UUID → List Json → Except Exc (List UUID)
  | found, [] => .ok found
  | found, value :: rest =>
    match texts.uuidOf (texts.str value) with
    | none => .error (.http 422 (.text "knowledge_base_id must be a UUID."))
    | some id => uniqueBaseIds texts (if found.contains id then found else found ++ [id]) rest

def listItems : Json → List Json
  | .arr items => items
  | _ => []

def knowledgeBaseIdsFromContext (texts : AgentTexts) (context : JsonDict) :
    Except Exc (List UUID) := do
  let single := if (context.get "knowledge_base_id").truthy then
    [context.get "knowledge_base_id"] else []
  let ids ← uniqueBaseIds texts [] (single ++ listItems (context.get "knowledge_base_ids"))
  pure (ids.take 5)

/-- `_context_int(value, default=5, minimum=1, maximum=10)`. -/
def knowledgeTopK (texts : AgentTexts) (value : Json) : Except Exc Nat :=
  if value.isNull then .ok 5
  else match texts.intOf (texts.str value) with
    | some n => .ok (min (max n 1) 10).toNat
    | none => .error (.http 422 (.text "knowledge_top_k must be an integer."))

def retrievalQuery (input : String) : Except Exc String :=
  if input = "" ∨ 4000 < input.length then
    .error (.other "ValidationError" "RetrievalTestRequest")
  else .ok input

def optionalUuid (texts : ChatTexts) : Option UUID → Json
  | some id => .str (texts.uuid id)
  | none => .null

def optionalNumber : Option ℚ → Json
  | some q => .num q
  | none => .null

def retrievedSource (texts : AgentTexts) (baseId : UUID) (baseName : Json) (rank : Nat)
    (item : RetrievalSource) : JsonDict :=
  [("rank", .num rank),
    ("knowledge_base_id", .str (texts.uuid baseId)),
    ("knowledge_base_name", baseName),
    ("chunk_id", .str item.chunkId),
    ("document_id", optionalUuid texts.toChatTexts item.documentId),
    ("source_name", optionalText item.sourceName),
    ("score", optionalNumber item.score),
    ("text", .str item.text),
    ("metadata", .obj item.metadata)]

def perBaseEntry (texts : AgentTexts) (baseId : UUID) (result : RetrievalTestResponse) : JsonDict :=
  [("knowledge_base_id", .str (texts.uuid baseId)),
    ("knowledge_base_name", result.diagnostics.get "knowledge_base_name"),
    ("knowledge_base_visibility", result.diagnostics.get "knowledge_base_visibility"),
    ("engine", .str result.engine),
    ("source_count", .num result.results.length),
    ("elapsed_ms", .num result.elapsedMs)]

structure Retrieved where
  sources : List JsonDict := []
  perBase : List JsonDict := []

def Retrieved.add (texts : AgentTexts) (retrieved : Retrieved) (baseId : UUID)
    (result : RetrievalTestResponse) : Retrieved :=
  { sources := retrieved.sources ++ result.results.mapIdx fun index item =>
      retrievedSource texts baseId (result.diagnostics.get "knowledge_base_name")
        (retrieved.sources.length + index + 1) item
    perBase := retrieved.perBase ++ [perBaseEntry texts baseId result] }

def retrieveBases (runtime : AgentRuntime W) (payload : AgentRunRequest) (principal : Principal)
    (topK : Nat) (agentKey : String) (requestId : Option String) :
    Retrieved → List UUID → AgentCall W Retrieved
  | retrieved, [] => pure retrieved
  | retrieved, baseId :: rest => do
    let _ ← computing (retrievalQuery payload.input)
    let result ← awaiting
      (runtime.retrieveForAgentRun principal payload baseId topK agentKey requestId)
    retrieveBases runtime payload principal topK agentKey requestId
      (retrieved.add runtime.texts baseId result) rest

structure Enriched where
  payload : AgentRunRequest
  sources : List JsonDict
  diagnostics : JsonDict

def knowledgeDiagnostics (texts : AgentTexts) (baseIds : List UUID) (topK : Nat)
    (retrieved : Retrieved) : JsonDict :=
  JsonDict.merge
    [("enabled", .bool true),
      ("knowledge_base_ids", .arr (baseIds.map fun id => .str (texts.uuid id))),
      ("source_count", .num retrieved.sources.length),
      ("top_k", .num topK),
      ("per_base", .arr (retrieved.perBase.map .obj)),
      ("reason",
        .str (if retrieved.sources.isEmpty then "no_matching_sources" else "sources_found"))]
    (knowledgeConfidenceDiagnostics texts retrieved.sources)

def withKnowledge (texts : AgentTexts) (payload : AgentRunRequest) (sources : List JsonDict) :
    AgentRunRequest :=
  { payload with
    context := JsonDict.merge payload.context
      [("knowledge_context", .str (formatKnowledgeContext texts sources)),
        ("knowledge_sources", .arr (sources.map .obj))] }

def enrichWithKnowledgeContext (runtime : AgentRuntime W) (payload : AgentRunRequest)
    (principal : Principal) (agentKey : String) (requestId : Option String) :
    AgentCall W Enriched := do
  let baseIds ← computing (knowledgeBaseIdsFromContext runtime.texts payload.context)
  match baseIds with
  | [] =>
    pure
      { payload := payload
        sources := []
        diagnostics :=
          [("enabled", .bool false), ("reason", .str "no_knowledge_base_context")] }
  | _ :: _ => do
    let topK ← computing
      (knowledgeTopK runtime.texts (payload.context.get "knowledge_top_k"))
    let retrieved ← retrieveBases runtime payload principal topK agentKey requestId {} baseIds
    pure
      { payload := withKnowledge runtime.texts payload retrieved.sources
        sources := retrieved.sources
        diagnostics := knowledgeDiagnostics runtime.texts baseIds topK retrieved }

def MountedServer.toDict (server : MountedServer) : JsonDict :=
  [("server_id", .str server.serverId), ("server_key", .str server.serverKey),
    ("endpoint_url", .str server.endpointUrl), ("transport", .str server.transport),
    ("tool_count", .num server.toolNames.length),
    ("tool_names", .arr (server.toolNames.map .str)),
    ("error", optionalText server.error)]

def mcpSummary (mounted : List MountedServer) : JsonDict :=
  [("mounted", .arr (mounted.map fun server => .obj server.toDict)),
    ("total_tools", .num (mounted.map fun server => server.toolNames.length).sum)]

def enrichWithMcpTools (runtime : AgentRuntime W) (payload : AgentRunRequest)
    (principal : Principal) : AgentCall W AgentRunRequest := do
  let mounted ← awaiting (runtime.mountMcpServers principal payload.mcpServerKeys)
  pure { payload with context := payload.context.set "mcp" (.obj (mcpSummary mounted)) }

def noUsage : LLMUsageResponse := ⟨0, 0, 0, 0⟩

def localRuntimeEvidence (execution agentKey requiredModule modelKey : String)
    (requestId : Option String) (reason localResponse : String) : JsonDict :=
  [("execution", .str execution), ("llm_gateway_called", .bool false),
    ("agent_key", .str agentKey), ("required_module", .str requiredModule),
    ("model_key", .str modelKey), ("provider_key", .str "agenthive-local"),
    ("request_id", optionalText requestId), ("finish_reason", .str localResponse),
    ("reason", .str reason), ("local_response", .str localResponse),
    ("input_tokens", .num 0), ("output_tokens", .num 0), ("total_tokens", .num 0),
    ("cost_usd", .str "0"), ("fallback_attempt_count", .num 0), ("route_attempts", .arr []),
    ("mock_adapter", .bool false)]

/-- `payload.model_key or payload.routing_key or default`. -/
def modelKeyOr (payload : AgentRunRequest) (default : String) : String :=
  (pyOr payload.modelKey (pyOr payload.routingKey (some default))).getD ""

def requestIdOr (runtime : AgentRuntime W) (requestId : Option String) (start : String) :
    AgentCall W String := fun w =>
  if truthy requestId then (pure (requestId.getD "") : AgentCall W String) w
  else (awaiting fun w => (.ok (start ++ (runtime.uuid4 w).1), (runtime.uuid4 w).2)) w

def greetingAnswer : String :=
  "你好，我是电商客服助手。你可以把客户问题、订单状态、商品信息或售后诉求发给我，" ++
    "我会帮你起草可发送给客户的回复，也可以协助查询 SOP、整理升级处理摘要。"

def customerServiceGreetingResponse (runtime : AgentRuntime W) (agentKey : String)
    (payload : AgentRunRequest) (requestId : Option String) (requiredModule : String) :
    AgentCall W (Option AgentRunResponse) := do
  if agentKey ≠ "customer_service" ∨ ¬ isGreetingIntent runtime.texts payload.input then
    pure none
  else do
    let responseId ← requestIdOr runtime requestId "agent-greeting-"
    let modelKey := modelKeyOr payload "agenthive-local-response"
    pure (some
      { answer := greetingAnswer
        usage := noUsage
        modelKey := modelKey
        requestId := responseId
        sources := []
        metadata :=
          [("agent_key", .str agentKey), ("required_module", .str requiredModule),
            ("local_response", .str "greeting_intent"),
            ("runtime_evidence", .obj (localRuntimeEvidence "local_response" agentKey
              requiredModule modelKey requestId "greeting_intent" "greeting_intent"))] })

def knowledgeGuardrailResponse (runtime : AgentRuntime W) (agentKey : String)
    (payload : AgentRunRequest) (requestId : Option String) (requiredModule : String)
    (decision : GuardrailDecision) (diagnostics : JsonDict) :
    AgentCall W AgentRunResponse := do
  let responseId ← requestIdOr runtime requestId "agent-guardrail-"
  let modelKey := modelKeyOr payload "knowledge-guardrail"
  pure
    { answer := knowledgeGuardrailAnswer runtime.texts diagnostics
      usage := noUsage
      modelKey := modelKey
      requestId := responseId
      sources := []
      metadata :=
        [("agent_key", .str agentKey), ("required_module", .str requiredModule),
          ("knowledge_guardrail", .obj decision.toDict),
          ("runtime_evidence", .obj (localRuntimeEvidence "knowledge_guardrail" agentKey
            requiredModule modelKey requestId
            (strOr runtime.texts.toChatTexts decision.reason "knowledge_guardrail")
            "knowledge_guardrail"))] }

def greetingDiagnostics : JsonDict :=
  [("enabled", .bool false), ("reason", .str "greeting_intent"),
    ("guardrail", .obj
      [("mode", .str "off"), ("triggered", .bool false), ("skipped_model_call", .bool true),
        ("reason", .str "greeting_intent")])]

def optionalBool : Option Bool → Json
  | some b => .bool b
  | none => .null

/-- `_augment_runtime_summary_with_mcp`, which changes the summary in place. -/
def augmentRuntimeSummaryWithMcp (metadata : JsonDict) : JsonDict :=
  match metadata.get "mcp", metadata.get "runtime_summary" with
  | .obj mcp, .obj summary =>
    let mounted := listItems (JsonDict.get mcp "mounted")
    let failed := mounted.filterMap fun server =>
      match server with
      | .obj entry => if (JsonDict.get entry "error").truthy then
          some (JsonDict.get entry "server_key") else none
      | _ => none
    JsonDict.set metadata "runtime_summary"
      (.obj (JsonDict.merge summary
        [("mcp_server_count", .num mounted.length),
          ("mcp_tool_count", getOr mcp "total_tools" (.num 0)),
          ("mcp_errors", .arr failed)]))
  | _, _ => metadata

def withRuntimeSummary (texts : AgentTexts) (response : AgentRunResponse) : AgentRunResponse :=
  { response with
    metadata := augmentRuntimeSummaryWithMcp
      (response.metadata.set "runtime_summary" (.obj (agentRunRuntimeSummary texts response))) }

structure RunOutcome where
  response : AgentRunResponse
  knowledgeSources : List JsonDict
  knowledgeDiagnostics : JsonDict

def runEnriched (runtime : AgentRuntime W) (agent : Agent W) (principal : Principal)
    (agentKey : String) (requestId : Option String) (enriched : Enriched) :
    AgentCall W RunOutcome := do
  let decision := knowledgeGuardrailDecision runtime.texts enriched.payload.context
    enriched.payload.input enriched.diagnostics
  let diagnostics := enriched.diagnostics.set "guardrail" (.obj decision.toDict)
  if decision.triggered then do
    let response ← knowledgeGuardrailResponse runtime agentKey enriched.payload requestId
      agent.requiredModule decision diagnostics
    pure ⟨response, enriched.sources, diagnostics⟩
  else do
    let payload ← enrichWithMcpTools runtime enriched.payload principal
    let response ← awaiting (agent.run payload principal requestId)
    pure ⟨response, enriched.sources, diagnostics⟩

def runPipeline (runtime : AgentRuntime W) (agent : Agent W) (principal : Principal)
    (agentKey : String) (requestId : Option String) (payload : AgentRunRequest) :
    AgentCall W RunOutcome := do
  match ← customerServiceGreetingResponse runtime agentKey payload requestId
    agent.requiredModule with
  | some response => pure ⟨response, [], greetingDiagnostics⟩
  | none => do
    let enriched ← enrichWithKnowledgeContext runtime payload principal agentKey requestId
    runEnriched runtime agent principal agentKey requestId enriched

/-- The final response of `run_agent`, from the payload before its enrichment. -/
def finalRunResponse (texts : AgentTexts) (payload : AgentRunRequest)
    (authorization : AgentRunAuthorization) (outcome : RunOutcome) :
    Except Exc AgentRunResponse := do
  let mergedSources ← dedupeSources (outcome.response.sources ++ outcome.knowledgeSources)
  pure (withRuntimeSummary texts
    { outcome.response with
      sources := mergedSources
      metadata := JsonDict.merge outcome.response.metadata
        [("license_gate", .str authorization.licenseGate),
          ("license_gate_reason", .str authorization.reason),
          ("licensed", optionalBool authorization.licensed),
          ("installed", optionalBool authorization.installed),
          ("enabled", optionalBool authorization.enabled),
          ("agent_instance", .obj (agentInstanceDiagnosticsFromContext texts payload.context)),
          ("knowledge", .obj outcome.knowledgeDiagnostics),
          ("mcp", payload.context.get "mcp")] })

def recordAgentRun (runtime : AgentRuntime W) (principal : Principal) (agentKey : String)
    (requestId : Option String) (response : AgentRunResponse) : AgentCall W Unit :=
  awaiting (runtime.recordAgentRunAudit principal agentKey
    (pyOr requestId (some response.requestId)))

def unknownAgent (agentKey : String) : Exc :=
  .http 404 (.text ("Unknown agent: " ++ agentKey))

def runAgent (runtime : AgentRuntime W) (agentKey : String) (payload : AgentRunRequest)
    (principal : Principal) (requestId : Option String) : AgentCall W AgentRunResponse :=
  match runtime.agents agentKey with
  | none => raising (unknownAgent agentKey)
  | some agent => do
    let authorization ← awaiting
      (runtime.authorizeAgentRun principal agent.requiredModule)
    let payload ← canonicalizeAgentGovernanceContext runtime payload principal
    let payload ← applyAgentInstanceDefaults runtime payload principal agentKey
      agent.requiredModule
    let payload ← canonicalizeAgentGovernanceContext runtime payload principal
    let outcome ← runPipeline runtime agent principal agentKey requestId payload
    let response ← computing
      (finalRunResponse runtime.texts payload authorization outcome)
    recordAgentRun runtime principal agentKey requestId response
    pure response

def mergeAgentStreamMetadata (texts : AgentTexts) (response : AgentRunResponse)
    (payload : AgentRunRequest) (authorization : AgentRunAuthorization)
    (knowledgeSources : List JsonDict) (knowledgeDiagnostics : JsonDict) :
    Except Exc AgentRunResponse := do
  let mergedSources ← dedupeSources (response.sources ++ knowledgeSources)
  pure (withRuntimeSummary texts
    { response with
      sources := mergedSources
      metadata := JsonDict.merge response.metadata
        [("license_gate", .str authorization.licenseGate),
          ("license_gate_reason", .str authorization.reason),
          ("licensed", optionalBool authorization.licensed),
          ("installed", optionalBool authorization.installed),
          ("enabled", optionalBool authorization.enabled),
          ("agent_instance", .obj (agentInstanceDiagnosticsFromContext texts payload.context)),
          ("knowledge", .obj knowledgeDiagnostics),
          ("mcp", payload.context.get "mcp")] })

def announce (runtime : AgentRuntime W) (principal : Principal) (agentKey : String)
    (requestId : Option String) (payload : AgentRunRequest)
    (authorization : AgentRunAuthorization) (outcome : RunOutcome) : AgentCall W Unit := do
  let response ← computing (mergeAgentStreamMetadata runtime.texts outcome.response
    payload authorization outcome.knowledgeSources outcome.knowledgeDiagnostics)
  recordAgentRun runtime principal agentKey requestId response
  yielding (.done (some response))

def announceWhole (runtime : AgentRuntime W) (principal : Principal) (agentKey : String)
    (requestId : Option String) (payload : AgentRunRequest)
    (authorization : AgentRunAuthorization) (outcome : RunOutcome) : AgentCall W Unit := do
  yielding (.delta outcome.response.answer)
  announce runtime principal agentKey requestId payload authorization outcome

def onRunStreamEvent (runtime : AgentRuntime W) (principal : Principal) (agentKey : String)
    (requestId : Option String) (payload : AgentRunRequest)
    (authorization : AgentRunAuthorization) (sources : List JsonDict)
    (diagnostics : JsonDict) : AgentEvent → AgentCall W Unit
  | .delta content => yielding (.delta content)
  | .done none => pure ()
  | .done (some base) =>
    announce runtime principal agentKey requestId payload authorization
      ⟨base, sources, diagnostics⟩

def streamReached (runtime : AgentRuntime W) (agent : Agent W) (principal : Principal)
    (agentKey : String) (requestId : Option String) (payload : AgentRunRequest)
    (authorization : AgentRunAuthorization) (sources : List JsonDict)
    (diagnostics : JsonDict) : AgentCall W Unit :=
  match agent.runStream with
  | some runStream =>
    forEach (runStream payload principal requestId)
      (fun _ event => onRunStreamEvent runtime principal agentKey requestId payload
        authorization sources diagnostics event) ()
  | none => do
    let response ← awaiting (agent.run payload principal requestId)
    announceWhole runtime principal agentKey requestId payload authorization
      ⟨response, sources, diagnostics⟩

def streamEnriched (runtime : AgentRuntime W) (agent : Agent W) (principal : Principal)
    (agentKey : String) (requestId : Option String) (authorization : AgentRunAuthorization)
    (enriched : Enriched) : AgentCall W Unit := do
  let decision := knowledgeGuardrailDecision runtime.texts enriched.payload.context
    enriched.payload.input enriched.diagnostics
  let diagnostics := enriched.diagnostics.set "guardrail" (.obj decision.toDict)
  if decision.triggered then do
    let response ← knowledgeGuardrailResponse runtime agentKey enriched.payload requestId
      agent.requiredModule decision diagnostics
    announceWhole runtime principal agentKey requestId enriched.payload authorization
      ⟨response, enriched.sources, diagnostics⟩
  else do
    let payload ← enrichWithMcpTools runtime enriched.payload principal
    streamReached runtime agent principal agentKey requestId payload authorization
      enriched.sources diagnostics

def streamPipeline (runtime : AgentRuntime W) (agent : Agent W) (principal : Principal)
    (agentKey : String) (requestId : Option String) (authorization : AgentRunAuthorization)
    (payload : AgentRunRequest) : AgentCall W Unit := do
  match ← customerServiceGreetingResponse runtime agentKey payload requestId
    agent.requiredModule with
  | some response =>
    announceWhole runtime principal agentKey requestId payload authorization
      ⟨response, [], greetingDiagnostics⟩
  | none => do
    let enriched ← enrichWithKnowledgeContext runtime payload principal agentKey requestId
    streamEnriched runtime agent principal agentKey requestId authorization enriched

def runAgentStream (runtime : AgentRuntime W) (agentKey : String) (payload : AgentRunRequest)
    (principal : Principal) (requestId : Option String) : AgentCall W Unit :=
  match runtime.agents agentKey with
  | none => raising (unknownAgent agentKey)
  | some agent => do
    let authorization ← awaiting
      (runtime.authorizeAgentRun principal agent.requiredModule)
    let payload ← canonicalizeAgentGovernanceContext runtime payload principal
    let payload ← applyAgentInstanceDefaults runtime payload principal agentKey
      agent.requiredModule
    let payload ← canonicalizeAgentGovernanceContext runtime payload principal
    streamPipeline runtime agent principal agentKey requestId authorization payload

end AgentHive.Chat
