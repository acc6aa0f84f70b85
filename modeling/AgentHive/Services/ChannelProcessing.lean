import AgentHive.Services.ChannelOutbound

/-!
The processing of an inbound message: its rows, the run of the agent, and the answer.

The answer is sent before the row of it is committed.
-/

namespace AgentHive

open Rag (Json JsonDict)

structure ChannelProcessingResult where
  routed : Bool
  agentKey : Option String := none
  conversationId : Option UUID := none
  responseText : Option String := none
  outboundDelivery : Option OutboundDeliveryResult := none
  requestId : Option String := none
  modelKey : Option String := none
  runtimeEvidence : JsonDict
  metadata : JsonDict := []
  error : Option String := none

structure InboundDraws where
  conversationId : UUID
  messageId : UUID
  answerId : UUID
  receivedAt : Instant
  answeredAt : Instant

namespace ChannelProcessing

open Process (Action)
open ChannelInbound
open ChannelOutbound (sendOutbound)

def redactedText : String := "[REDACTED]"

def auditSensitiveSubstrings : List String :=
  ["api_key", "apikey", "authorization", "secret", "secret_ref", "password", "private_key",
    "license_key", "activation_code"]

def auditSensitiveKeys : List String :=
  ["token", "access_token", "refresh_token", "id_token", "bearer_token"]

/-- `part in text`. -/
def contains (text part : String) : Bool := decide (part.toList <:+: text.toList)

section Redaction

variable (lib : ChannelLibrary)

/-- `_is_sensitive_key` of the audit log. -/
def isAuditSensitive (key : String) : Bool :=
  let lowered := lib.lower key
  !("_configured".toList.isSuffixOf lowered.toList) &&
    (auditSensitiveKeys.contains lowered || auditSensitiveSubstrings.any (contains lowered))

mutual

def redactAuditDetails : Json → Json
  | .arr items => .arr (redactItems items)
  | .obj entries => .obj (redactEntries entries)
  | value => value

def redactItems : List Json → List Json
  | [] => []
  | item :: rest => redactAuditDetails item :: redactItems rest

def redactEntries : List (String × Json) → List (String × Json)
  | [] => []
  | (key, item) :: rest =>
    (key, if isAuditSensitive lib key then .str redactedText else redactAuditDetails item) ::
      redactEntries rest

end

mutual

/-- The values differ only in what is stored under sensitive keys. -/
def SameUnredacted : Json → Json → Prop
  | .arr items, .arr others => SameUnredactedItems items others
  | .obj entries, .obj others => SameUnredactedEntries entries others
  | value, other => value = other

def SameUnredactedItems : List Json → List Json → Prop
  | item :: rest, other :: others => SameUnredacted item other ∧ SameUnredactedItems rest others
  | items, others => items = others

def SameUnredactedEntries : List (String × Json) → List (String × Json) → Prop
  | (key, item) :: rest, (otherKey, other) :: others =>
    key = otherKey ∧ (isAuditSensitive lib key ∨ SameUnredacted item other) ∧
      SameUnredactedEntries rest others
  | entries, others => entries = others

end

mutual

theorem sameUnredacted_iff (value : Json) : ∀ other : Json, SameUnredacted lib value other ↔
    redactAuditDetails lib value = redactAuditDetails lib other := by
  intro other
  cases value with
  | arr items =>
    cases other with
    | arr others =>
      simpa [SameUnredacted, redactAuditDetails] using sameUnredactedItems_iff items others
    | _ => simp [SameUnredacted, redactAuditDetails]
  | obj entries =>
    cases other with
    | obj others =>
      simpa [SameUnredacted, redactAuditDetails] using sameUnredactedEntries_iff entries others
    | _ => simp [SameUnredacted, redactAuditDetails]
  | _ => cases other <;> simp [SameUnredacted, redactAuditDetails]

theorem sameUnredactedItems_iff (items : List Json) : ∀ others : List Json,
    SameUnredactedItems lib items others ↔ redactItems lib items = redactItems lib others := by
  intro others
  cases items with
  | nil => cases others <;> simp [SameUnredactedItems, redactItems]
  | cons item rest =>
    cases others with
    | nil => simp [SameUnredactedItems, redactItems]
    | cons other others =>
      rw [SameUnredactedItems, redactItems, redactItems, List.cons.injEq,
        sameUnredacted_iff item other, sameUnredactedItems_iff rest others]

theorem sameUnredactedEntries_iff (entries : List (String × Json)) :
    ∀ others : List (String × Json), SameUnredactedEntries lib entries others ↔
      redactEntries lib entries = redactEntries lib others := by
  intro others
  cases entries with
  | nil => cases others <;> simp [SameUnredactedEntries, redactEntries]
  | cons entry rest =>
    obtain ⟨key, item⟩ := entry
    cases others with
    | nil => simp [SameUnredactedEntries, redactEntries]
    | cons other others =>
      obtain ⟨otherKey, other⟩ := other
      rw [SameUnredactedEntries, redactEntries, redactEntries, List.cons.injEq, Prod.mk.injEq,
        and_assoc, sameUnredacted_iff item other, sameUnredactedEntries_iff rest others]
      refine and_congr_right fun key_eq => and_congr_left' ?_
      subst key_eq
      split <;> simp [*]

end

mutual

theorem redactAuditDetails_redactAuditDetails (value : Json) :
    redactAuditDetails lib (redactAuditDetails lib value) = redactAuditDetails lib value := by
  cases value with
  | arr items => simp only [redactAuditDetails, redactItems_redactItems items]
  | obj entries => simp only [redactAuditDetails, redactEntries_redactEntries entries]
  | _ => rfl

theorem redactItems_redactItems (items : List Json) :
    redactItems lib (redactItems lib items) = redactItems lib items := by
  cases items with
  | nil => rfl
  | cons item rest =>
    simp only [redactItems, redactAuditDetails_redactAuditDetails item,
      redactItems_redactItems rest]

theorem redactEntries_redactEntries (entries : List (String × Json)) :
    redactEntries lib (redactEntries lib entries) = redactEntries lib entries := by
  cases entries with
  | nil => rfl
  | cons entry rest =>
    simp only [redactEntries, redactEntries_redactEntries rest]
    split
    · rfl
    · rw [redactAuditDetails_redactAuditDetails entry.2]

end

/-- Redaction keeps exactly what is not under a sensitive key. -/
theorem redactAuditDetails_hides :
    (∀ value other, SameUnredacted lib value other ↔
      redactAuditDetails lib value = redactAuditDetails lib other) ∧
    (∀ value, SameUnredacted lib value (redactAuditDetails lib value)) ∧
    ∀ value, redactAuditDetails lib (redactAuditDetails lib value) = redactAuditDetails lib value :=
  ⟨sameUnredacted_iff lib,
    fun value => (sameUnredacted_iff lib value _).mpr
      (redactAuditDetails_redactAuditDetails lib value).symm,
    redactAuditDetails_redactAuditDetails lib⟩

def recordAuditEvent (action status : String) (requestId : Option String) (details : JsonDict) :
    ChannelAction Unit := do
  let answer : Except Exc Unit ← Action.perform (ChannelCall.audit
    { action := action, status := status, requestId := requestId
      details := redactAuditDetails lib (.obj details) })
  Action.ofExcept answer

end Redaction

/-- The entries of some keys that are not `None`. -/
def presentOf (entries : JsonDict) (keys : List String) : JsonDict :=
  (keys.map fun key => (key, JsonDict.get entries key)).filter fun entry => !entry.2.isNull

def mediaGenerationJobSummary (metadata : JsonDict) : Json :=
  match JsonDict.get metadata "media_generation_job" with
  | .obj mediaJob =>
    let dispatch := match JsonDict.get mediaJob "dispatch" with
      | .obj dispatch => presentOf dispatch ["mode", "queued", "reason", "task_id", "retry_action"]
      | _ => []
    .obj (presentOf mediaJob ["id", "kind", "status", "provider_key", "provider_type", "model_key",
        "routing_key"] ++
      if dispatch.isEmpty then [] else [("dispatch", .obj dispatch)])
  | _ => .null

def dumpDelivery (delivery : OutboundDeliveryResult) : Json :=
  .obj [("attempted", .bool delivery.attempted), ("delivered", .bool delivery.delivered),
    ("mode", .str delivery.mode),
    ("status_code", match delivery.statusCode with
      | some code => .num code
      | none => .null),
    ("target", jsonText delivery.target), ("error", jsonText delivery.error),
    ("details", .obj delivery.details)]

def dumpOptional (delivery : Option OutboundDeliveryResult) : Json :=
  match delivery with
  | some delivery => dumpDelivery delivery
  | none => .null

def firstText (first second : Option String) : Option String := (first.filter (· ≠ "")).or second

variable (lib : ChannelLibrary) (channel : ConfiguredChannel) (normalized : InboundMessage)

structure EvidenceFacts where
  agentKey : Option String := none
  requestId : Option String := none
  modelKey : Option String := none
  metadata : JsonDict := []
  outboundDelivery : Json := .null
  routed : Bool
  error : Option String := none

def channelRuntimeEvidence (facts : EvidenceFacts) : JsonDict :=
  let runtime := match JsonDict.get facts.metadata "runtime_evidence" with
    | .obj entries => entries
    | _ => []
  let mediaJob := mediaGenerationJobSummary facts.metadata
  let runtimeProvider := JsonDict.get runtime "provider_key"
  JsonDict.merge runtime
    [("channel_execution", .str "channel_gateway"),
      ("channel_id", .str (lib.texts.uuid channel.id)),
      ("channel_type", .str channel.channelType.value),
      ("channel_key", .str channel.channelKey),
      ("message_type", .str normalized.messageType),
      ("conversation_key", .str normalized.conversationKey),
      ("signature_checked", .bool normalized.signature.checked),
      ("signature_valid", .bool normalized.signature.valid),
      ("signature_method", jsonText normalized.signature.method),
      ("rotation_previous_secret_used",
        .bool (JsonDict.get normalized.signature.details "rotation_previous_secret_used").truthy),
      ("routed", .bool facts.routed),
      ("agent_key", jsonText facts.agentKey),
      ("request_id", jsonText (firstText facts.requestId normalized.requestId)),
      ("model_key", jsonText facts.modelKey),
      ("provider_key", if runtimeProvider.truthy then runtimeProvider
        else JsonDict.get facts.metadata "provider_key"),
      ("llm_gateway_called", .bool (match runtime.lookup "llm_gateway_called" with
        | some value => value.truthy
        | none => facts.routed && mediaJob.isNull)),
      ("media_generation_job", mediaJob),
      ("outbound_delivery", facts.outboundDelivery),
      ("error", jsonText facts.error)]

def refusal (error : String) : ChannelProcessingResult where
  routed := false
  runtimeEvidence :=
    channelRuntimeEvidence lib channel normalized { routed := false, error := some error }
  error := some error

def agentKeyForChannel (config : JsonDict) : String :=
  match JsonDict.firstOf config ["agent_key", "default_agent"] with
  | .str value => if value ≠ "" ∧ value ≠ "unassigned" then value else "customer_service"
  | _ => "customer_service"

def openConversation (draws : InboundDraws) : ChannelAction ChannelConversation := do
  let found : Except Exc (List ChannelConversation) ← Action.perform ChannelCall.selectConversations
  let conversations ← Action.ofExcept found
  match withKey normalized conversations with
  | some conversation => pure conversation
  | none => do
    let row := newConversation channel.toChannelRecord normalized draws.conversationId
      draws.receivedAt
    let flushed : Except Exc Unit ← Action.perform (ChannelCall.flush row)
    Action.ofExcept flushed
    pure row

def commit (rows : List ChannelMessage) : ChannelAction Unit := do
  let answer : Except Exc Unit ← Action.perform (ChannelCall.commit rows)
  Action.ofExcept answer

variable (requestId : Option String)

def fileQuestion (draws : InboundDraws) : ChannelAction ChannelConversation := do
  let conversation ← openConversation channel normalized draws
  commit [userRow channel.toChannelRecord normalized conversation.id draws.messageId requestId
    draws.receivedAt]
  pure conversation

variable (conversation : Option ChannelConversation)

def agentContext : JsonDict :=
  let configured := match JsonDict.get channel.config "agent_context" with
    | .obj entries => entries
    | _ => []
  let agentId := match channel.agentId with
    | some id => [("agent_id", Json.str (lib.texts.uuid id))]
    | none => []
  JsonDict.merge (JsonDict.merge configured agentId)
    [("channel_id", .str (lib.texts.uuid channel.id)),
      ("conversation_id", jsonText (conversation.map fun s => lib.texts.uuid s.id)),
      ("conversation_key", .str normalized.conversationKey),
      ("external_user_id", jsonText normalized.externalUserId),
      ("source", .str (conversationSource channel.toChannelRecord))]

def checkedRequest (request : Chat.AgentRunRequest) (maxTokens : Int) :
    Except Exc Chat.AgentRunRequest :=
  if 1 ≤ request.input.length ∧ request.input.length ≤ 12000 ∧
      (request.modelKey.getD "").length ≤ 120 ∧ (request.routingKey.getD "").length ≤ 120 ∧
      1 ≤ maxTokens ∧ maxTokens ≤ 8192 then
    .ok { request with maxTokens := some maxTokens.toNat }
  else .error (.other "ValidationError" "1 validation error for AgentRunRequest")

def configuredMaxTokens : Except Exc Int :=
  let value := JsonDict.get channel.config "max_tokens"
  lib.int (if value.truthy then value else .num 512)

def agentRequest : Except Exc Chat.AgentRunRequest := do
  let maxTokens ← configuredMaxTokens lib channel
  checkedRequest
    { input := normalized.text.getD ""
      context := agentContext lib channel normalized conversation
      modelKey := stringOrNone lib.texts (JsonDict.get channel.config "model_key")
      routingKey := stringOrNone lib.texts (JsonDict.get channel.config "routing_key") }
    maxTokens

def runAgent : ChannelAction Chat.AgentRunResponse := do
  let request ← Action.ofExcept (agentRequest lib channel normalized conversation)
  let answer : Except Exc Chat.AgentRunResponse ←
    Action.perform (ChannelCall.runAgent (agentKeyForChannel channel.config) request)
  Action.ofExcept answer

variable (response : Chat.AgentRunResponse)

def buildOutboundMessage : OutboundMessage where
  channelId := channel.id
  channelType := channel.channelType
  channelKey := channel.channelKey
  externalUserId := normalized.externalUserId
  conversationKey := normalized.conversationKey
  text := response.answer
  traceId := normalized.traceId
  requestId := some response.requestId

def routedDetails (delivery : OutboundDeliveryResult) : JsonDict :=
  [("channel_id", .str (lib.texts.uuid channel.id)),
    ("channel_type", .str channel.channelType.value),
    ("agent_key", .str (agentKeyForChannel channel.config)),
    ("model_key", .str response.modelKey),
    ("media_generation_job", mediaGenerationJobSummary response.metadata),
    ("outbound_delivery", dumpDelivery delivery),
    ("total_tokens", .num response.usage.totalTokens)]

def deliverAnswer (conversation : ChannelConversation) (requestId : Option String)
    (response : Chat.AgentRunResponse) (draws : InboundDraws) :
    ChannelAction OutboundDeliveryResult := do
  let delivery ← sendOutbound lib channel.config
    (buildOutboundMessage channel normalized response) (some response.requestId)
  recordAuditEvent lib "channel.message.routed" "success"
    (firstText requestId (some response.requestId)) (routedDetails lib channel response delivery)
  commit [answerRow channel.toChannelRecord lib.texts (agentKeyForChannel channel.config) response
    conversation.id draws.answerId draws.answeredAt]
  pure delivery

def routedResult (delivery : Option OutboundDeliveryResult) :
    ChannelProcessingResult where
  routed := true
  agentKey := some (agentKeyForChannel channel.config)
  conversationId := conversation.map fun s => s.id
  responseText := some response.answer
  outboundDelivery := delivery
  requestId := some response.requestId
  modelKey := some response.modelKey
  runtimeEvidence := channelRuntimeEvidence lib channel normalized
    { agentKey := some (agentKeyForChannel channel.config), requestId := some response.requestId
      modelKey := some response.modelKey, metadata := response.metadata
      outboundDelivery := dumpOptional delivery, routed := true }
  metadata := response.metadata

/-- What is done inside `try`. -/
def routeMessage (dryRun : Bool) (draws : InboundDraws) : ChannelAction ChannelProcessingResult :=
  if dryRun then do
    let response ← runAgent lib channel normalized none
    pure (routedResult lib channel normalized none response none)
  else do
    let conversation ← fileQuestion channel normalized requestId draws
    let response ← runAgent lib channel normalized (some conversation)
    let delivery ← deliverAnswer lib channel normalized conversation requestId response draws
    pure (routedResult lib channel normalized (some conversation) response (some delivery))

/-- `_safe_processing_error` of the text of an exception. -/
def safeProcessingError (text : String) : Option String :=
  if text ∈ ["invalid_signature", "channel_disabled", "unsupported_or_empty_message"] then some text
  else if text ≠ "" then some "processing_exception"
  else none

/-- `str(exc)` of an exception that is caught. -/
def errorText : Exc → String
  | .http _ (.text text) => text
  | .http _ _ => "HTTPException"
  | .os _ message | .sqlAlchemy _ message | .attribute message | .other _ message => message
  | .cancelled | .generatorExit => ""

def failure (x : Exc) : ChannelProcessingResult where
  routed := false
  agentKey := some (agentKeyForChannel channel.config)
  runtimeEvidence := channelRuntimeEvidence lib channel normalized
    { agentKey := some (agentKeyForChannel channel.config), requestId := requestId, routed := false
      error := safeProcessingError (errorText x) }
  error := safeProcessingError (errorText x)

def processInboundMessage (dryRun : Bool) (draws : InboundDraws) :
    ChannelAction ChannelProcessingResult :=
  if channel.status ≠ .active then pure (refusal lib channel normalized "channel_disabled")
  else if normalized.messageType ≠ "text" ∨ orText normalized.text "" = "" then
    pure (refusal lib channel normalized "unsupported_or_empty_message")
  else
    Action.tryCatch (routeMessage lib channel normalized requestId dryRun draws) fun x =>
      if x.isException then do
        let answer : Except Exc Unit ← Action.perform ChannelCall.rollback
        Action.ofExcept answer
        pure (failure lib channel normalized requestId x)
      else Action.throw x

end ChannelProcessing
end AgentHive
