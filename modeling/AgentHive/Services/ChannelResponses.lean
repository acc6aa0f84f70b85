import AgentHive.Services.ChannelProcessing
import AgentHive.Services.ChannelSignatures

/-!
What the channels answer: their listing, the acknowledgement of a webhook, and a message that is
pushed to a recipient.
-/

namespace AgentHive

open Rag (Json JsonDict)

def ChannelStatus.value : ChannelStatus → String
  | .active => "active"
  | .disabled => "disabled"
  | .testing => "testing"
  | .error => "error"

structure ChannelResponse where
  id : UUID
  tenantId : UUID
  name : String
  channelType : ChannelType
  channelKey : String
  agentId : Option UUID
  status : ChannelStatus
  webhookPath : String
  config : JsonDict
  secretConfigured : Bool
  createdAt : Instant
  updatedAt : Instant

structure WebhookAckResponse where
  accepted : Bool
  channelType : ChannelType
  channelKey : String
  tenantId : Option UUID
  channelId : Option UUID
  messageId : Option String
  conversationKey : Option String
  signature : SignatureVerification
  requestId : Option String
  traceId : Option String
  processing : Option ChannelProcessingResult
  message : String

inductive ChannelPushMode
  | direct
  | agent
deriving DecidableEq

def ChannelPushMode.value : ChannelPushMode → String
  | .direct => "direct"
  | .agent => "agent"

structure ChannelPushRequest where
  externalUserId : String
  text : String
  mode : ChannelPushMode := .direct
  conversationKey : Option String := none
  agentKey : Option String := none
  modelKey : Option String := none
  metadata : JsonDict := []

structure ChannelPushResponse where
  channelId : UUID
  channelType : ChannelType
  channelKey : String
  mode : ChannelPushMode
  delivered : Bool
  agentInvoked : Bool := false
  agentKey : Option String := none
  responseText : Option String := none
  conversationKey : String
  outboundDelivery : Option OutboundDeliveryResult := none
  requestId : Option String
  error : Option String
  message : String

namespace ChannelResponses

open Process (Action)
open ChannelInbound (ReadPayload buildMessage orText jsonText)
open ChannelOutbound (sendOutbound)
open ChannelProcessing
open ChannelSignatures (channelSecretConfigured webhookSignature verifySignature codePoints)

section Listing

variable (lib : ChannelLibrary)

/-- `_is_sensitive_key` of the channel service. -/
def isSensitiveKey (key : String) : Bool :=
  let lowered := lib.lower key
  contains lowered "secret" || contains lowered "token" || contains lowered "authorization" ||
    contains lowered "signature" ||
    ["api_key", "apikey", "app_key", "access_key"].contains lowered

def sanitizeConfig (config : JsonDict) : JsonDict :=
  config.map fun entry =>
    if entry.1 = "secret_health" then entry
    else if isSensitiveKey lib entry.1 then (entry.1, .str "***")
    else entry

def toResponse (channel : ConfiguredChannel) : ChannelResponse where
  id := channel.id
  tenantId := channel.tenantId
  name := channel.name
  channelType := channel.channelType
  channelKey := channel.channelKey
  agentId := channel.agentId
  status := channel.status
  webhookPath := "/api/v1/channels/webhook/" ++ channel.channelType.value ++ "/" ++
    channel.channelKey
  config := sanitizeConfig lib channel.config
  secretConfigured := channelSecretConfigured channel.toChannelRecord
  createdAt := channel.createdAt
  updatedAt := channel.updatedAt

/-- What `list_channels_for_tenant` makes of the records that it has read. -/
def listChannels (channels : List ConfiguredChannel) : List ChannelResponse :=
  channels.map (toResponse lib)

end Listing

/-- `sorted`, of texts. -/
def sortedTexts (texts : List String) : List Json :=
  (texts.insertionSort fun a b => codePoints a.toList ≤ codePoints b.toList).map Json.str

def commitAuditBestEffort : ChannelAction Unit :=
  Action.tryCatch (commit []) fun x =>
    match x with
    | .os _ _ | .sqlAlchemy _ _ => do
      let answer : Except Exc Unit ← Action.perform ChannelCall.rollback
      Action.ofExcept answer
    | x => Action.throw x

section Webhook

variable (lib : ChannelLibrary) (channel : ConfiguredChannel) (normalized : InboundMessage)

structure WebhookRequest where
  channelType : ChannelType
  channelKey : String
  payload : JsonDict
  headers : Headers
  requestId : Option String
  read : ReadPayload

variable (request : WebhookRequest)

def receivedDetails : JsonDict :=
  [("channel_type", .str channel.channelType.value),
    ("channel_key", .str channel.channelKey),
    ("channel_status", .str channel.status.value),
    ("message_type", .str normalized.messageType),
    ("conversation_key", .str normalized.conversationKey),
    ("external_message_id_present", .bool normalized.externalMessageId.isSome),
    ("external_user_id_present", .bool normalized.externalUserId.isSome),
    ("text_present", .bool normalized.text.isSome),
    ("attachments_count", .num normalized.attachments),
    ("secret_configured", .bool (channelSecretConfigured channel.toChannelRecord)),
    ("secret_error", jsonText channel.secretError),
    ("signature_checked", .bool normalized.signature.checked),
    ("signature_valid", .bool normalized.signature.valid),
    ("signature_method", jsonText normalized.signature.method),
    ("signature_reason", jsonText normalized.signature.reason),
    ("payload_keys", .arr (sortedTexts (request.payload.map Prod.fst))),
    ("header_keys", .arr (sortedTexts
      ((request.headers.map Prod.fst).filter fun key => !isSensitiveKey lib key)))]

def recordWebhookAudit : ChannelAction Unit :=
  recordAuditEvent lib "channel.webhook.received" "success" request.requestId
    (receivedDetails lib channel normalized request)

def auditedEvidence : List String :=
  ["channel_execution", "llm_gateway_called", "provider_key", "model_key", "request_id",
    "signature_checked", "signature_valid", "routed"]

def processedDetails (processing : ChannelProcessingResult) : JsonDict :=
  [("channel_type", .str channel.channelType.value),
    ("channel_key", .str channel.channelKey),
    ("channel_status", .str channel.status.value),
    ("message_type", .str normalized.messageType),
    ("conversation_key", .str normalized.conversationKey),
    ("external_message_id_present", .bool normalized.externalMessageId.isSome),
    ("external_user_id_present", .bool normalized.externalUserId.isSome),
    ("attachments_count", .num normalized.attachments),
    ("signature_checked", .bool normalized.signature.checked),
    ("signature_valid", .bool normalized.signature.valid),
    ("signature_method", jsonText normalized.signature.method),
    ("routed", .bool processing.routed),
    ("agent_key", jsonText processing.agentKey),
    ("conversation_id", jsonText (processing.conversationId.map lib.texts.uuid)),
    ("model_key", jsonText processing.modelKey),
    ("runtime_evidence", .obj (presentOf processing.runtimeEvidence auditedEvidence)),
    ("media_generation_job", mediaGenerationJobSummary processing.metadata),
    ("response_present", .bool processing.responseText.isSome),
    ("outbound_delivery", dumpOptional processing.outboundDelivery),
    ("error", jsonText (processing.error.bind safeProcessingError))]

def recordWebhookProcessingAudit (requestId : Option String)
    (processing : ChannelProcessingResult) : ChannelAction Unit :=
  recordAuditEvent lib "channel.webhook.processed"
    (if processing.routed then "success" else "failure")
    (firstText requestId processing.requestId)
    (processedDetails lib channel normalized processing)

def processWebhook (requestId : Option String) (draws : InboundDraws) :
    ChannelAction ChannelProcessingResult :=
  if channel.secretError.isSome then
    pure (refusal lib channel normalized "channel_secret_unavailable")
  else if channelSecretConfigured channel.toChannelRecord && !normalized.signature.valid then
    pure (refusal lib channel normalized "invalid_signature")
  else processInboundMessage lib channel normalized requestId false draws

def webhookAckMessage (channel : Option ConfiguredChannel) (signature : SignatureVerification) :
    String :=
  match channel with
  | none => "Webhook received for unknown channel."
  | some channel =>
    if channel.secretError.isSome then
      "Webhook signing secret is unavailable. Save a new channel secret."
    else if channelSecretConfigured channel.toChannelRecord && !signature.valid then
      "Webhook signature verification failed."
    else if channel.status ≠ .active then "Webhook received, but channel is not active."
    else "Webhook received."

def webhookAccepted (channel : ConfiguredChannel) (signature : SignatureVerification) : Bool :=
  decide (channel.status = .active) && channel.secretError.isNone &&
    !(channelSecretConfigured channel.toChannelRecord && !signature.valid)

def webhookAck (channel : Option ConfiguredChannel) (conversationKey : String)
    (signature : SignatureVerification) (processing : Option ChannelProcessingResult) :
    WebhookAckResponse where
  accepted := channel.any fun channel => webhookAccepted channel signature
  channelType := request.channelType
  channelKey := request.channelKey
  tenantId := channel.map fun channel => channel.tenantId
  channelId := channel.map fun channel => channel.id
  messageId := request.read.externalMessageId
  conversationKey := some conversationKey
  signature := signature
  requestId := request.requestId
  traceId := request.read.traceId
  processing := processing
  message := webhookAckMessage channel signature

def handleWebhook (signature : SignatureVerification) (draws : InboundDraws) :
    ChannelAction WebhookAckResponse := do
  let normalized := buildMessage channel.toChannelRecord request.read signature request.requestId
  recordWebhookAudit lib channel normalized request
  commitAuditBestEffort
  let processing ← processWebhook lib channel normalized request.requestId draws
  recordWebhookProcessingAudit lib channel normalized request.requestId processing
  commitAuditBestEffort
  pure (webhookAck request (some channel) normalized.conversationKey signature (some processing))

def unknownConversationKey : String :=
  orText request.read.conversationKey (request.channelType.value ++ ":" ++ request.channelKey ++
    ":" ++ orText request.read.externalUserId "unknown-user")

/-- `receive_channel_webhook`, with the channel that has the key. -/
def receiveChannelWebhook (sig : SignatureLibrary) (channel : Option ConfiguredChannel)
    (request : WebhookRequest) (now : Int) (draws : InboundDraws) :
    ChannelAction WebhookAckResponse :=
  match channel with
  | some channel => do
    let signature ← Action.ofExcept
      (webhookSignature sig channel.toChannelRecord request.payload request.headers now)
    handleWebhook lib channel request signature draws
  | none => do
    let signature ← Action.ofExcept
      (verifySignature sig request.channelType request.payload request.headers none now)
    pure (webhookAck request none (unknownConversationKey request) signature none)

end Webhook

section Push

variable (lib : ChannelLibrary) (channel : ConfiguredChannel) (request : ChannelPushRequest)
variable (requestId : Option String)

def pushConversationKey : String :=
  orText request.conversationKey (channel.channelType.value ++ ":" ++ channel.channelKey ++ ":" ++
    request.externalUserId)

def resolvePushAgentKey : String :=
  orText (request.agentKey.map PolicyValidation.strip) (agentKeyForChannel channel.config)

structure PushOutcome where
  delivered : Bool
  agentInvoked : Bool
  agentKey : Option String := none
  responseText : Option String := none
  error : Option String := none
  outboundDelivery : Option OutboundDeliveryResult := none

variable (outcome : PushOutcome)

def pushDetails : JsonDict :=
  [("channel_type", .str channel.channelType.value),
    ("channel_key", .str channel.channelKey),
    ("channel_status", .str channel.status.value),
    ("push_mode", .str request.mode.value),
    ("conversation_key", .str (pushConversationKey channel request)),
    ("external_user_id_present", .bool (request.externalUserId ≠ "")),
    ("agent_invoked", .bool outcome.agentInvoked),
    ("agent_key", jsonText outcome.agentKey),
    ("response_present", .bool outcome.responseText.isSome),
    ("delivered", .bool outcome.delivered),
    ("outbound_delivery", dumpOptional outcome.outboundDelivery),
    ("error", jsonText outcome.error),
    ("caller_metadata_keys", .arr (sortedTexts (request.metadata.map Prod.fst)))]

def recordPushAudit : ChannelAction Unit :=
  recordAuditEvent lib "channel.push"
    (if outcome.delivered && (outcome.error.filter (· ≠ "")).isNone then "success" else "failure")
    requestId (pushDetails channel request outcome)

def pushResponse (answeredFor : Option String) (message : String) :
    ChannelPushResponse where
  channelId := channel.id
  channelType := channel.channelType
  channelKey := channel.channelKey
  mode := request.mode
  delivered := outcome.delivered
  agentInvoked := outcome.agentInvoked
  agentKey := outcome.agentKey
  responseText := outcome.responseText
  conversationKey := pushConversationKey channel request
  outboundDelivery := outcome.outboundDelivery
  requestId := answeredFor
  error := outcome.error
  message := message

def concludePush (answeredFor : Option String) (message : String) :
    ChannelAction ChannelPushResponse := do
  recordPushAudit lib channel request requestId outcome
  commitAuditBestEffort
  pure (pushResponse channel request outcome answeredFor message)

def pushContext : JsonDict :=
  let configured := match JsonDict.get channel.config "agent_context" with
    | .obj entries => entries
    | _ => []
  let agentId := match channel.agentId with
    | some id => [("agent_id", Json.str (lib.texts.uuid id))]
    | none => []
  JsonDict.merge (JsonDict.merge configured agentId)
    [("channel_id", .str (lib.texts.uuid channel.id)),
      ("channel_type", .str channel.channelType.value),
      ("conversation_key", .str (pushConversationKey channel request)),
      ("external_user_id", .str request.externalUserId),
      ("source", .str ("channel_push." ++ channel.channelType.value)),
      ("push_mode", .str "agent")]

def pushAgentRequest : Except Exc Chat.AgentRunRequest := do
  let maxTokens ← configuredMaxTokens lib channel
  checkedRequest
    { input := request.text
      context := pushContext lib channel request
      modelKey := firstText request.modelKey
        (ChannelInbound.stringOrNone lib.texts (JsonDict.get channel.config "model_key"))
      routingKey := ChannelInbound.stringOrNone lib.texts
        (JsonDict.get channel.config "routing_key") }
    maxTokens

/-- What is done inside `try`. -/
def askPushAgent : ChannelAction Chat.AgentRunResponse := do
  let agentRequest ← Action.ofExcept (pushAgentRequest lib channel request)
  let answer : Except Exc Chat.AgentRunResponse ← Action.perform
    (ChannelCall.runAgent (resolvePushAgentKey channel request) agentRequest)
  Action.ofExcept answer

def runPushAgent : ChannelAction (Except (Option String) Chat.AgentRunResponse) :=
  Action.tryCatch
    (do
      let response ← askPushAgent lib channel request
      pure (.ok response))
    fun x =>
      if x.isException then do
        let answer : Except Exc Unit ← Action.perform ChannelCall.rollback
        Action.ofExcept answer
        pure (.error (safeProcessingError (errorText x)))
      else Action.throw x

def pushMessage (text : String) (sentFor : Option String) : OutboundMessage where
  channelId := channel.id
  channelType := channel.channelType
  channelKey := channel.channelKey
  externalUserId := some request.externalUserId
  conversationKey := pushConversationKey channel request
  text := text
  traceId := none
  requestId := sentFor

def deliverPush (text : String) (sentFor : Option String) (outcome : PushOutcome) :
    ChannelAction ChannelPushResponse := do
  let delivery ← sendOutbound lib channel.config (pushMessage channel request text sentFor) sentFor
  concludePush lib channel request requestId
    { outcome with delivered := delivery.delivered, outboundDelivery := some delivery } sentFor
    (if delivery.delivered then "Message delivered." else "Outbound attempted but not delivered.")

def pushByAgent : ChannelAction ChannelPushResponse := do
  let agentKey := resolvePushAgentKey channel request
  let answer ← runPushAgent lib channel request
  match answer with
  | .ok response =>
    deliverPush lib channel request requestId response.answer (some response.requestId)
      { delivered := false, agentInvoked := true, agentKey := some agentKey
        responseText := some response.answer }
  | .error error =>
    concludePush lib channel request requestId
      { delivered := false, agentInvoked := true, agentKey := some agentKey, error := error }
      requestId "Agent runtime failed; no outbound delivery attempted."

/-- `push_to_channel_for_tenant`, with the channel that has the id. -/
def pushToChannel : ChannelAction ChannelPushResponse :=
  if channel.status ≠ .active then
    concludePush lib channel request requestId
      { delivered := false, agentInvoked := false, error := some "channel_disabled" } requestId
      "Channel is not active."
  else
    match request.mode with
    | .agent => pushByAgent lib channel request requestId
    | .direct =>
      deliverPush lib channel request requestId request.text requestId
        { delivered := false, agentInvoked := false }

end Push

end ChannelResponses
end AgentHive
