import AgentHive.Process.Generator
import AgentHive.Services.ChatSchemas
import AgentHive.Services.OrgAdmin

/-!
A streamed chat turn: the checks, the turn itself behind the concurrency
limiter, the storage of both messages, and the events sent on the way.
-/

namespace AgentHive.Chat

open Process (Generator)
open Rag (Json JsonDict)
open Process.Generator (awaiting computing ensuring forEach onFirst raising yielding)

def providerKeyFromAgentMetadata (metadata : JsonDict) : Json :=
  if (metadata.get "provider_key").truthy then metadata.get "provider_key"
  else match metadata.get "media_generation_job" with
    | .obj mediaJob => JsonDict.get mediaJob "provider_key"
    | _ => .null

def chatRuntimeEvidenceFromAgentResponse (texts : ChatTexts) (response : AgentRunResponse)
    (providerKey : String) : JsonDict :=
  match response.metadata.get "runtime_evidence" with
  | .obj existing => JsonDict.merge existing [("chat_execution", .str "agent_runtime")]
  | _ =>
    [("execution", .str "agent_runtime"),
      ("chat_execution", .str "agent_runtime"),
      ("llm_gateway_called", .bool (providerKey != "agent_runtime")),
      ("provider_key", .str providerKey),
      ("model_key", .str response.modelKey),
      ("request_id", .str response.requestId),
      ("input_tokens", .num response.usage.inputTokens),
      ("output_tokens", .num response.usage.outputTokens),
      ("total_tokens", .num response.usage.totalTokens),
      ("cost_usd", .str (texts.decimal response.usage.costUsd)),
      ("source_count", .num response.sources.length)]

def agentResponseAsLlmResponse (texts : ChatTexts) (response : AgentRunResponse) : LLMAnswer :=
  let providerKey := strOr texts (providerKeyFromAgentMetadata response.metadata) "agent_runtime"
  { content := response.answer
    metadata := JsonDict.merge response.metadata
      [("agent_sources", .arr (response.sources.map .obj)),
        ("chat_execution", .str "agent_runtime"),
        ("runtime_evidence",
          .obj (chatRuntimeEvidenceFromAgentResponse texts response providerKey))]
    modelKey := response.modelKey
    providerKey := providerKey
    requestId := response.requestId
    usage := response.usage }

def agentConcurrencyEvidence (decision : AgentConcurrencyDecision) : JsonDict :=
  [("enabled", .bool decision.enabled),
    ("acquired", .bool decision.acquired),
    ("limits", .obj
      [("tenant", .num decision.tenantLimit), ("user", .num decision.userLimit),
        ("agent", .num decision.agentLimit)]),
    ("active", .obj (decision.active.map fun entry => (entry.1, .num entry.2)))]

def runtimeAdapterMode (execution : String) (gatewayCalled mockAdapter : Bool) : String :=
  if execution = "media_gateway" then "media_gateway"
  else if gatewayCalled then if mockAdapter then "mock_gateway" else "live_gateway"
  else "local_runtime"

def runtimeSummaryStatus (adapterMode : String) : String :=
  if adapterMode = "live_gateway" then "real_model_call"
  else if adapterMode = "mock_gateway" then "mock_model_call"
  else if adapterMode = "media_gateway" then "media_generation_task"
  else "local_runtime"

def runtimeRouteAttempts (value : Json) : List JsonDict := dictItems value

def sourcesFromLlmMetadata (metadata : JsonDict) : List JsonDict :=
  dictItems (metadata.get "agent_sources")

def chatRuntimeSummary (texts : ChatTexts) (answer : LLMAnswer) (metadata evidence : JsonDict) :
    JsonDict :=
  let knowledge := dictMetadataValue (metadata.get "knowledge")
  let gatewayCalled := isTrue (evidence.get "llm_gateway_called")
  let mockAdapter := isTrue (evidence.get "mock_adapter")
  let execution :=
    if (evidence.firstOf ["chat_execution", "execution"]).truthy then
      texts.str (evidence.firstOf ["chat_execution", "execution"])
    else strOr texts (metadata.get "chat_execution") "-"
  let adapterMode := runtimeAdapterMode execution gatewayCalled mockAdapter
  [("status", .str (runtimeSummaryStatus adapterMode)),
    ("adapter_mode", .str adapterMode),
    ("execution", .str execution),
    ("gateway_called", .bool gatewayCalled),
    ("mock_adapter", .bool mockAdapter),
    ("provider_key", .str answer.providerKey),
    ("model_key", .str answer.modelKey),
    ("request_id", .str answer.requestId),
    ("total_tokens", .num answer.usage.totalTokens),
    ("route_attempt_count", .num (runtimeRouteAttempts (evidence.get "route_attempts")).length),
    ("fallback_attempt_count", getOr evidence "fallback_attempt_count" (.num 0)),
    ("selected_route_reason", evidence.get "selected_route_reason"),
    ("knowledge_source_count",
      getOr knowledge "source_count" (.num (sourcesFromLlmMetadata metadata).length)),
    ("knowledge_confidence", knowledge.get "confidence_level"),
    ("requires_human_review", .bool (isTrue (knowledge.get "requires_human_review")))]

def withAgentConcurrencyEvidence (texts : ChatTexts) (answer : LLMAnswer)
    (decision : AgentConcurrencyDecision) : LLMAnswer :=
  let evidence : Json := .obj (agentConcurrencyEvidence decision)
  let runtimeEvidence := JsonDict.merge
    (dictMetadataValue (answer.metadata.get "runtime_evidence")) [("agent_concurrency", evidence)]
  let metadata := (answer.metadata.set "runtime_evidence" (.obj runtimeEvidence)).set
    "agent_concurrency" evidence
  { answer with
    metadata := metadata.set "runtime_summary"
      (.obj (chatRuntimeSummary texts answer metadata runtimeEvidence)) }

def streamedAnswer (payload : ChatMessageCreateRequest) (collected : List String)
    (requestId : String) : LLMAnswer :=
  { content := String.join collected
    metadata :=
      [("streamed", .bool true), ("chat_execution", .str "llm_gateway"),
        ("runtime_evidence", .obj
          [("execution", .str "llm_gateway"), ("chat_execution", .str "llm_gateway"),
            ("llm_gateway_called", .bool true), ("streamed", .bool true)])]
    modelKey := (pyOr payload.modelKey (pyOr payload.routingKey (some "streamed-chat"))).getD ""
    providerKey := "llm_gateway"
    requestId := requestId
    usage := ⟨0, 0, 0, 0⟩ }

def safeMessageAgentContextKeys : List String :=
  ["locale", "surface", "task_id", "task_title", "workflow_key"]

def safeMessageAgentContext (value : Json) : JsonDict :=
  (dictMetadataValue value).filter fun entry => safeMessageAgentContextKeys.contains entry.1

def agentRunContext (texts : ChatTexts) (conversation : ConversationSession)
    (conversationId : UUID) (payload : ChatMessageCreateRequest) : JsonDict :=
  let context := JsonDict.merge
    (JsonDict.merge (dictMetadataValue (conversation.metadataJson.get "agent_context"))
      (safeMessageAgentContext (payload.metadata.get "agent_context")))
    [("agent_id", .str ((conversation.agentId.map texts.uuid).getD "None")),
      ("conversation_id", .str (texts.uuid conversationId)),
      ("source", .str conversation.source)]
  let context := match conversation.departmentId with
    | some departmentId => context.set "department_id" (.str (texts.uuid departmentId))
    | none => context
  match conversation.channelId with
  | some channelId => context.set "channel_id" (.str (texts.uuid channelId))
  | none => context

def agentKeyFromConversation (texts : ChatTexts) (conversation : ConversationSession) : String :=
  match conversation.metadataJson.get "agent_key" with
  | .null => "customer_service"
  | .str "" => "customer_service"
  | value => texts.str value

def agentRunRequest (texts : ChatTexts) (conversation : ConversationSession)
    (conversationId : UUID) (payload : ChatMessageCreateRequest) : AgentRunRequest :=
  { input := payload.content
    context := agentRunContext texts conversation conversationId payload
    modelKey := payload.modelKey
    routingKey := payload.routingKey
    maxTokens := payload.maxTokens }

structure GatewayChatCall where
  request : LLMChatRequest
  metadata : JsonDict
  conversationId : UUID
  departmentId : Option UUID
  agentId : Option UUID
  channelId : Option UUID
  source : String

def gatewayChatCall (texts : ChatTexts) (conversation : ConversationSession)
    (conversationId : UUID) (payload : ChatMessageCreateRequest) (messages : List Message) :
    GatewayChatCall :=
  { request :=
      { modelKey := payload.modelKey
        routingKey := payload.routingKey
        messages := messages
        temperature := payload.temperature
        maxTokens := payload.maxTokens.map Int.ofNat }
    metadata := JsonDict.merge payload.metadata
      [("conversation_id", .str (texts.uuid conversationId))]
    conversationId := conversationId
    departmentId := conversation.departmentId
    agentId := conversation.agentId
    channelId := conversation.channelId
    source := "chat_console" }

structure UserDepartment where
  tenantId : UUID
  userId : UUID
  departmentId : UUID
deriving DecidableEq

structure ChatStore where
  conversations : List ConversationSession
  userDepartments : List UserDepartment
  messages : List ConversationMessage
  memoryMessages : List (UUID × List ChatMessageResponse)

inductive ChatStatement
  | conversationRow
  | departmentIds
  | messageRows
  | auditEvent
  | commit
  | rollback
deriving DecidableEq

inductive StreamStatus
  | accepted
  | runtimeStarted
  | runtimeFailed (requestId : Option String)
  | knowledge (enabled : Bool) (sourceCount confidenceLevel : Json)
  | persisted (messageId : UUID) (requestId : String)

inductive StreamEvent
  | status (status : StreamStatus)
  | delta (content : String)
  | metadata (userMessage : ChatMessageResponse) (requestId providerKey modelKey : String)
      (usage : LLMUsageResponse) (sources : List JsonDict) (metadata : JsonDict)
  | error (statusCode : Nat) (detail : HttpDetail) (requestId : Option String)
  | done (messageId : UUID)

/-- What a turn meets: the statements that raise, the limiter, the agents and
the gateway, the values JSON has no text for, and the identifiers drawn. -/
structure ChatRuntime (W : Type) where
  texts : ChatTexts
  isDevelopmentEnvironment : Bool
  raises : ChatStatement → W → Option Exc × W
  acquire : UUID → UUID → Option UUID → W → Except Exc AgentConcurrencyDecision × W
  release : UUID → UUID → Option UUID → W → Except Exc Unit × W
  runAgentStream : String → AgentRunRequest → Principal → Option String →
    Generator AgentEvent Exc W Unit
  runGatewayChatStream : GatewayChatCall → Principal → Generator String Exc W Unit
  dumps : StreamEvent → Except Exc Unit
  utcNow : String
  newRequestId : UUID
  userMessageId : UUID
  assistantMessageId : UUID
  memoryUserMessageId : UUID
  memoryAssistantMessageId : UUID

variable {W ω : Type}

abbrev ChatSession (W ω α : Type) : Type := Generator ω Exc (W × ChatStore) α

def statement (runtime : ChatRuntime W) (kind : ChatStatement) {α : Type}
    (answer : ChatStore → α) (after : ChatStore → ChatStore) : ChatSession W ω α :=
  awaiting fun s =>
    match runtime.raises kind s.1 with
    | (some x, w) => (.error x, (w, s.2))
    | (none, w) => (.ok (answer s.2), (w, after s.2))

/-- Whether `except (OSError, SQLAlchemyError)` catches it. -/
def isStorageFault : Exc → Bool
  | .os _ _ | .sqlAlchemy _ _ => true
  | _ => false

def principalDepartmentIds (runtime : ChatRuntime W) (principal : Principal) :
    ChatSession W ω (List UUID) :=
  if principal.isTenantAdmin then pure []
  else statement runtime .departmentIds
    (fun store =>
      (store.userDepartments.filter fun row =>
        row.userId == principal.userId && row.tenantId == principal.tenantId).map
          UserDepartment.departmentId)
    id

def canAccessChatSession (conversation : ConversationSession) (principal : Principal)
    (departmentIds : List UUID) : Bool :=
  if conversation.tenantId ≠ principal.tenantId then false
  else if conversation.deletedAt.isSome then false
  else if principal.isTenantAdmin then true
  else if conversation.userId = some principal.userId then true
  else match conversation.departmentId with
    | some departmentId => departmentIds.contains departmentId
    | none => false

def assertAccess (runtime : ChatRuntime W) (principal : Principal)
    (conversation : ConversationSession) : ChatSession W ω ConversationSession := do
  let departmentIds ← principalDepartmentIds runtime principal
  if canAccessChatSession conversation principal departmentIds then pure conversation
  else raising (.http 403 (.text "Chat session access denied."))

def getAccessibleConversationSession (runtime : ChatRuntime W) (principal : Principal)
    (conversationId : UUID) : ChatSession W ω ConversationSession := do
  let row ← statement runtime .conversationRow
    (fun store => store.conversations.find? fun row =>
      row.tenantId == principal.tenantId && row.id == conversationId && row.deletedAt.isNone)
    id
  match row with
  | none => raising (.http 404 (.text "Chat session not found."))
  | some conversation => assertAccess runtime principal conversation

def messageResponse (row : ConversationMessage) : ChatMessageResponse :=
  { id := row.id
    tenantId := row.tenantId
    conversationId := row.conversationId
    role := row.role
    content := row.content
    userId := row.userId
    requestId := row.requestId
    modelKey := row.modelKey
    providerKey := row.providerKey
    inputTokens := row.inputTokens
    outputTokens := row.outputTokens
    totalTokens := row.totalTokens
    costUsd := row.costUsd
    metadata := row.metadataJson }

def memoryOf (store : ChatStore) (conversationId : UUID) : List ChatMessageResponse :=
  (store.memoryMessages.lookup conversationId).getD []

def messageRows (runtime : ChatRuntime W) (principal : Principal) (conversationId : UUID) :
    ChatSession W ω (List ChatMessageResponse) :=
  statement runtime .messageRows
    (fun store =>
      (store.messages.filter fun row =>
        row.tenantId == principal.tenantId && row.conversationId == conversationId).map
          messageResponse)
    id

def listChatMessagesForConversation (runtime : ChatRuntime W) (principal : Principal)
    (conversationId : UUID) : ChatSession W ω (List ChatMessageResponse) :=
  (messageRows runtime principal conversationId).catching fun x =>
    if isStorageFault x then
      some (awaiting fun s => (.ok (memoryOf s.2 conversationId), s))
    else none

/-- `LLMMessageRequest(role=…, content=…)`, with its field constraints. -/
def llmMessageRequest (role content : String) : Except Exc Message :=
  if role = "" ∨ 40 < role.length ∨ content = "" then
    .error (.other "ValidationError" "LLMMessageRequest")
  else .ok { role := role, content := content }

def historyRoles : List String := ["system", "user", "assistant"]

def historyMessages (items : List ChatMessageResponse) (payload : ChatMessageCreateRequest) :
    Except Exc (List Message) := do
  let earlier ← (items.filter fun item => historyRoles.contains item.role).mapM fun item =>
    llmMessageRequest item.role item.content
  let last ← llmMessageRequest "user" payload.content
  pure (earlier ++ [last])

structure AgentTurn where
  collectedChunks : List String := []
  finalAgentResponse : Option AgentRunResponse := none

def onAgentEvent (turn : AgentTurn) : AgentEvent → ChatSession W StreamEvent AgentTurn
  | .delta chunk =>
    if chunk = "" then pure turn
    else do
      yielding (.delta chunk)
      pure { turn with collectedChunks := turn.collectedChunks ++ [chunk] }
  | .done response => pure { turn with finalAgentResponse := response }

def noFinalResponse : Exc :=
  .http 502 (.text "Agent streaming completed without a final response.")

def agentAnswer (texts : ChatTexts) (decision : AgentConcurrencyDecision) (turn : AgentTurn) :
    Except Exc LLMAnswer :=
  match turn.finalAgentResponse with
  | none => .error noFinalResponse
  | some response =>
    .ok (withAgentConcurrencyEvidence texts (agentResponseAsLlmResponse texts response) decision)

def runAgentTurn (runtime : ChatRuntime W) (principal : Principal)
    (conversation : ConversationSession) (conversationId : UUID)
    (payload : ChatMessageCreateRequest) (requestId : Option String)
    (decision : AgentConcurrencyDecision) : ChatSession W StreamEvent LLMAnswer := do
  let turn ← forEach
    (onFirst (runtime.runAgentStream
      (agentKeyFromConversation runtime.texts conversation)
      (agentRunRequest runtime.texts conversation conversationId payload) principal requestId))
    onAgentEvent {}
  computing (agentAnswer runtime.texts decision turn)

def onDelta (collected : List String) (delta : String) : ChatSession W StreamEvent (List String) :=
  if delta = "" then pure collected
  else do
    yielding (.delta delta)
    pure (collected ++ [delta])

def runGatewayTurn (runtime : ChatRuntime W) (principal : Principal)
    (conversation : ConversationSession) (conversationId : UUID)
    (payload : ChatMessageCreateRequest) (messages : List Message) (requestId : Option String)
    (decision : AgentConcurrencyDecision) : ChatSession W StreamEvent LLMAnswer := do
  let collected ← forEach
    (onFirst (runtime.runGatewayChatStream
      (gatewayChatCall runtime.texts conversation conversationId payload messages) principal))
    onDelta []
  pure (withAgentConcurrencyEvidence runtime.texts
    (streamedAnswer payload collected
      ((pyOr requestId (some (runtime.texts.uuid runtime.newRequestId))).getD ""))
    decision)

def acquire (runtime : ChatRuntime W) (principal : Principal)
    (conversation : ConversationSession) : ChatSession W ω AgentConcurrencyDecision :=
  awaiting fun s =>
    let answer := runtime.acquire principal.tenantId principal.userId conversation.agentId s.1
    (answer.1, (answer.2, s.2))

def release (runtime : ChatRuntime W) (principal : Principal)
    (conversation : ConversationSession) (decision : AgentConcurrencyDecision)
    (s : W × ChatStore) : Except Exc Unit × (W × ChatStore) :=
  if decision.enabled && decision.acquired then
    let answer := runtime.release principal.tenantId principal.userId conversation.agentId s.1
    (answer.1, (answer.2, s.2))
  else (.ok (), s)

def runTurn (runtime : ChatRuntime W) (principal : Principal)
    (conversation : ConversationSession) (conversationId : UUID)
    (payload : ChatMessageCreateRequest) (messages : List Message) (requestId : Option String) :
    ChatSession W StreamEvent LLMAnswer := do
  let decision ← acquire runtime principal conversation
  ensuring
    (match conversation.agentId with
      | some _ =>
        runAgentTurn runtime principal conversation conversationId payload requestId decision
      | none =>
        runGatewayTurn runtime principal conversation conversationId payload messages requestId
          decision)
    (release runtime principal conversation decision)

def userRow (principal : Principal) (conversationId : UUID) (payload : ChatMessageCreateRequest)
    (answer : LLMAnswer) (id : UUID) : ConversationMessage :=
  { id := id
    tenantId := principal.tenantId
    conversationId := conversationId
    role := "user"
    content := payload.content
    userId := some principal.userId
    requestId := some answer.requestId
    metadataJson := payload.metadata }

def assistantRow (principal : Principal) (conversationId : UUID) (answer : LLMAnswer)
    (id : UUID) : ConversationMessage :=
  { id := id
    tenantId := principal.tenantId
    conversationId := conversationId
    role := "assistant"
    content := answer.content
    userId := none
    requestId := some answer.requestId
    modelKey := some answer.modelKey
    providerKey := some answer.providerKey
    inputTokens := answer.usage.inputTokens
    outputTokens := answer.usage.outputTokens
    totalTokens := answer.usage.totalTokens
    costUsd := answer.usage.costUsd
    metadataJson := answer.metadata }

def createResponse (userMessage assistantMessage : ChatMessageResponse) (answer : LLMAnswer) :
    ChatMessageCreateResponse :=
  { userMessage := userMessage
    assistantMessage := assistantMessage
    requestId := answer.requestId
    providerKey := answer.providerKey
    modelKey := answer.modelKey
    usage := answer.usage
    sources := sourcesFromLlmMetadata answer.metadata
    metadata := answer.metadata }

def titleFromFirstMessage (currentTitle content : String) : String :=
  if currentTitle ≠ "New AgentHive conversation" then currentTitle
  else if (content.take 80).toString = "" then currentTitle
  else (content.take 80).toString

def asStr? : Json → Option String
  | .str s => some s
  | _ => none

def workflowKeyOf (metadata : JsonDict) : Option String :=
  match metadata.get "workflow_key" with
  | .str s => some s
  | _ => asStr? (JsonDict.get (dictMetadataValue (metadata.get "agent_context")) "workflow_key")

def conversationMetadataWithLastTask (metadata : JsonDict) (payload : ChatMessageCreateRequest)
    (answer : LLMAnswer) (completedAt : String) : JsonDict :=
  JsonDict.merge metadata
    [("last_task", .obj
      [("title", .str (payload.content.take 160).toString),
        ("status", .str "completed"),
        ("workflow_key", optionalText (workflowKeyOf payload.metadata)),
        ("request_id", .str answer.requestId),
        ("model_key", .str answer.modelKey),
        ("provider_key", .str answer.providerKey),
        ("total_tokens", .num answer.usage.totalTokens),
        ("completed_at", .str completedAt)])]

def touchedConversation (conversation : ConversationSession)
    (payload : ChatMessageCreateRequest) (answer : LLMAnswer) (now : String) :
    ConversationSession :=
  { conversation with
    title := titleFromFirstMessage conversation.title payload.content
    metadataJson :=
      conversationMetadataWithLastTask conversation.metadataJson payload answer now }

def ChatStore.withTurn (store : ChatStore) (conversation : ConversationSession)
    (rows : List ConversationMessage) : ChatStore :=
  { store with
    conversations := store.conversations.map fun row =>
      if row.id = conversation.id then conversation else row
    messages := store.messages ++ rows }

def remember : List (UUID × List ChatMessageResponse) → UUID → List ChatMessageResponse →
    List (UUID × List ChatMessageResponse)
  | [], conversationId, pair => [(conversationId, pair)]
  | (id, items) :: rest, conversationId, pair =>
    if id = conversationId then (id, items ++ pair) :: rest
    else (id, items) :: remember rest conversationId pair

/-- `_memory_message_pair`; the stored metadata names the storage. -/
def memoryMessagePair (runtime : ChatRuntime W) (principal : Principal) (conversationId : UUID)
    (payload : ChatMessageCreateRequest) (answer : LLMAnswer) :
    ChatSession W ω (Option ChatMessageCreateResponse) :=
  let userMessage := messageResponse
    (userRow principal conversationId payload answer runtime.memoryUserMessageId)
  let assistantMessage :=
    { messageResponse
        (assistantRow principal conversationId answer runtime.memoryAssistantMessageId) with
      metadata := JsonDict.merge [("storage", .str "memory")] answer.metadata }
  awaiting fun s =>
    (.ok (some (createResponse userMessage assistantMessage answer)),
      (s.1,
        { s.2 with
          memoryMessages :=
            remember s.2.memoryMessages conversationId [userMessage, assistantMessage] }))

def failedEvents (statusCode : Nat) (detail : HttpDetail) (requestId : Option String)
    {α : Type} : ChatSession W StreamEvent (Option α) := do
  yielding (.status (.runtimeFailed requestId))
  yielding (.error statusCode detail requestId)
  pure none

def persistRows (runtime : ChatRuntime W) (principal : Principal)
    (conversation : ConversationSession) (conversationId : UUID)
    (payload : ChatMessageCreateRequest) (answer : LLMAnswer) :
    ChatSession W ω ChatMessageCreateResponse := do
  let userMessage := userRow principal conversationId payload answer runtime.userMessageId
  let assistantMessage := assistantRow principal conversationId answer runtime.assistantMessageId
  statement runtime .auditEvent (fun _ => ()) id
  statement runtime .commit (fun _ => ()) fun store =>
    store.withTurn (touchedConversation conversation payload answer runtime.utcNow)
      [userMessage, assistantMessage]
  pure (createResponse (messageResponse userMessage) (messageResponse assistantMessage) answer)

def onStorageFault (runtime : ChatRuntime W) (principal : Principal) (conversationId : UUID)
    (payload : ChatMessageCreateRequest) (answer : LLMAnswer) (requestId : Option String) :
    ChatSession W StreamEvent (Option ChatMessageCreateResponse) := do
  statement runtime .rollback (fun _ => ()) id
  if runtime.isDevelopmentEnvironment then
    memoryMessagePair runtime principal conversationId payload answer
  else failedEvents 503 (.text "Chat message persistence failed.") requestId

def persist (runtime : ChatRuntime W) (principal : Principal)
    (conversation : ConversationSession) (conversationId : UUID)
    (payload : ChatMessageCreateRequest) (answer : LLMAnswer) (requestId : Option String) :
    ChatSession W StreamEvent (Option ChatMessageCreateResponse) :=
  (persistRows runtime principal conversation conversationId payload answer).attempting fun x =>
    if isStorageFault x then
      some (onStorageFault runtime principal conversationId payload answer requestId)
    else none

def sse (runtime : ChatRuntime W) (event : StreamEvent) : ChatSession W StreamEvent Unit := do
  computing (runtime.dumps event)
  yielding event

def knowledgeStatus (result : ChatMessageCreateResponse) : Option StreamEvent :=
  match result.metadata.get "knowledge" with
  | .obj knowledge =>
    some (.status (.knowledge (JsonDict.get knowledge "enabled").truthy
      (getOr knowledge "source_count" (.num 0)) (JsonDict.get knowledge "confidence_level")))
  | _ => none

def metadataEvent (result : ChatMessageCreateResponse) : StreamEvent :=
  .metadata result.userMessage result.requestId result.providerKey result.modelKey result.usage
    result.sources result.metadata

def reportKnowledge (runtime : ChatRuntime W) (result : ChatMessageCreateResponse) :
    ChatSession W StreamEvent Unit :=
  match knowledgeStatus result with
  | some event => sse runtime event
  | none => pure ()

def report (runtime : ChatRuntime W) (result : ChatMessageCreateResponse) :
    ChatSession W StreamEvent Unit := do
  reportKnowledge runtime result
  yielding (.status (.persisted result.assistantMessage.id result.requestId))
  sse runtime (metadataEvent result)
  yielding (.done result.assistantMessage.id)

/-- A block whose `HTTPException`s end the stream with an error event. -/
def guarded {α : Type} (requestId : Option String) (block : ChatSession W StreamEvent α) :
    ChatSession W StreamEvent (Option α) :=
  block.attempting fun x =>
    match x with
    | .http statusCode detail => some (failedEvents statusCode detail requestId)
    | _ => none

def unlessEnded {α : Type} (block : ChatSession W StreamEvent (Option α))
    (rest : α → ChatSession W StreamEvent Unit) : ChatSession W StreamEvent Unit := do
  match ← block with
  | none => pure ()
  | some a => rest a

def streamTurn (runtime : ChatRuntime W) (principal : Principal)
    (conversation : ConversationSession) (conversationId : UUID)
    (payload : ChatMessageCreateRequest) (requestId : Option String) :
    ChatSession W StreamEvent Unit := do
  let history ← listChatMessagesForConversation runtime principal conversationId
  let messages ← computing (historyMessages history payload)
  unlessEnded
    (guarded requestId
      (runTurn runtime principal conversation conversationId payload messages requestId))
    fun answer =>
      unlessEnded
        (persist runtime principal conversation conversationId payload answer requestId)
        fun result => report runtime result

def streamAccepted (runtime : ChatRuntime W) (principal : Principal) (conversationId : UUID)
    (payload : ChatMessageCreateRequest) (requestId : Option String) :
    ChatSession W StreamEvent Unit :=
  unlessEnded
    (guarded requestId (getAccessibleConversationSession runtime principal conversationId))
    fun conversation =>
      streamTurn runtime principal conversation conversationId payload requestId

def streamChatMessage (runtime : ChatRuntime W) (principal : Principal) (conversationId : UUID)
    (payload : ChatMessageCreateRequest) (requestId : Option String) :
    ChatSession W StreamEvent Unit := do
  yielding (.status .accepted)
  yielding (.status .runtimeStarted)
  streamAccepted runtime principal conversationId payload requestId

end AgentHive.Chat
