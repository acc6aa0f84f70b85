import AgentHive.Process.Machine
import AgentHive.Services.ChannelPoll

/-!
The rows that an inbound message leaves, and the answer to it.
-/

namespace AgentHive

open Rag (Json JsonDict)

def ChannelType.value : ChannelType → String
  | .wecom => "wecom"
  | .dingtalk => "dingtalk"
  | .feishu => "feishu"
  | .webWidget => "web_widget"
  | .restApi => "rest_api"

structure SignatureVerification where
  checked : Bool := false
  valid : Bool := false
  method : Option String := none
  reason : Option String := none
  details : JsonDict := []

structure InboundMessage where
  externalUserId : Option String
  externalMessageId : Option String
  conversationKey : String
  messageType : String
  text : Option String
  attachments : Nat
  signature : SignatureVerification
  traceId : Option String
  requestId : Option String

namespace ChannelInbound

open ChannelPoll (isText)

structure ReadPayload where
  externalUserId : Option String
  externalMessageId : Option String
  conversationKey : Option String
  messageType : String
  text : Option String
  attachments : Nat
  traceId : Option String

/-- `value or other`, of texts. -/
def orText (value : Option String) (other : String) : String :=
  (value.filter (· ≠ "")).getD other

def buildMessage (channel : ChannelRecord) (read : ReadPayload) (signature : SignatureVerification)
    (requestId : Option String) : InboundMessage where
  externalUserId := read.externalUserId
  externalMessageId := read.externalMessageId
  conversationKey := orText read.conversationKey (channel.channelType.value ++ ":" ++
    channel.channelKey ++ ":" ++ orText read.externalUserId "unknown-user")
  messageType := read.messageType
  text := read.text
  attachments := read.attachments
  signature := signature
  traceId := read.traceId
  requestId := requestId

variable (channel : ChannelRecord) (normalized : InboundMessage)

def conversationSource : String := "channel." ++ channel.channelType.value

variable (tables : ConversationTables)

def channelConversations : List ChannelConversation :=
  ((tables.sessions.filter fun s =>
    s.tenantId == channel.tenantId && s.channelId == some channel.id &&
      s.source == conversationSource channel && s.deletedAt.isNone).insertionSort
        fun a b => b.updatedAt ≤ a.updatedAt).take 50

def withKey (conversations : List ChannelConversation) : Option ChannelConversation :=
  conversations.find? fun s =>
    isText normalized.conversationKey (JsonDict.get s.metadataJson "conversation_key")

def findConversation : Option ChannelConversation :=
  withKey normalized (channelConversations channel tables)

def sliceTo (n : Nat) (text : String) : String := String.ofList (text.toList.take n)

def conversationTitle : String :=
  sliceTo 160 (orText normalized.externalUserId normalized.conversationKey ++ ": " ++
    sliceTo 80 (orText normalized.text "Channel conversation"))

/-- A text, or `None`. -/
def jsonText (text : Option String) : Json :=
  match text with
  | some text => .str text
  | none => .null

def conversationMetadata (key : String) (externalUserId : Option String) : JsonDict :=
  [("conversation_key", .str key), ("external_user_id", jsonText externalUserId),
    ("channel_key", .str channel.channelKey)]

variable (id : UUID) (now : Instant)

def newConversation : ChannelConversation where
  id := id
  tenantId := channel.tenantId
  title := conversationTitle normalized
  agentId := channel.agentId
  channelId := some channel.id
  userId := channel.createdBy
  departmentId := none
  source := conversationSource channel
  metadataJson := conversationMetadata channel normalized.conversationKey normalized.externalUserId
  updatedAt := now

def systemUserId : UUID := 0x00000000000040008000000000000001

def userRow (conversationId id : UUID) (requestId : Option String) (now : Instant) :
    ChannelMessage where
  id := id
  tenantId := channel.tenantId
  conversationId := conversationId
  role := "user"
  content := normalized.text.getD ""
  userId := some (channel.createdBy.getD systemUserId)
  requestId := requestId
  metadataJson :=
    [("source", .str "channel"), ("channel_type", .str channel.channelType.value),
      ("channel_key", .str channel.channelKey),
      ("external_user_id", jsonText normalized.externalUserId),
      ("external_message_id", jsonText normalized.externalMessageId),
      ("conversation_key", .str normalized.conversationKey)]
  createdAt := now

/-- `_string_or_none` of the service: an empty text is none either. -/
def stringOrNone (texts : Chat.ChatTexts) (value : Json) : Option String :=
  match value with
  | .null => none
  | .str "" => none
  | value => some (texts.str value)

def answerRow (texts : Chat.ChatTexts) (agentKey : String) (response : Chat.AgentRunResponse)
    (conversationId id : UUID) (now : Instant) : ChannelMessage where
  id := id
  tenantId := channel.tenantId
  conversationId := conversationId
  role := "assistant"
  content := response.answer
  userId := none
  requestId := some response.requestId
  modelKey := some response.modelKey
  providerKey := stringOrNone texts (JsonDict.get response.metadata "provider_key")
  inputTokens := response.usage.inputTokens
  outputTokens := response.usage.outputTokens
  totalTokens := response.usage.totalTokens
  costUsd := response.usage.costUsd
  metadataJson := JsonDict.merge response.metadata
    [("source", .str "channel"), ("agent_key", .str agentKey)]
  createdAt := now

theorem nodup_concat {α β : Type} {rows : List α} {row : α} {key : α → β}
    (distinct : (rows.map key).Nodup) (fresh : key row ∉ rows.map key) :
    ((rows ++ [row]).map key).Nodup := by
  rw [List.map_append, List.map_singleton, ← List.concat_eq_append]
  exact distinct.concat fresh

def insertSession (row : ChannelConversation) : ConversationTables :=
  if fresh : row.id ∉ tables.sessions.map fun s => s.id then
    { tables with
      sessions := tables.sessions ++ [row]
      keyed := nodup_concat tables.keyed fresh }
  else tables

def insertMessage (row : ChannelMessage) : ConversationTables :=
  if fresh : row.id ∉ tables.messages.map fun r => r.id then
    { tables with
      messages := tables.messages ++ [row]
      distinct := nodup_concat tables.distinct fresh }
  else tables

def touchSession (s : ChannelConversation) : ChannelConversation :=
  if s.id = id then { s with updatedAt := now } else s

theorem touchSession_same (s : ChannelConversation) :
    (touchSession id now s).toConversationSession = s.toConversationSession := by
  unfold touchSession
  split <;> rfl

theorem touched_ids (sessions : List ChannelConversation) :
    ((sessions.map (touchSession id now)).map fun s => s.id) = sessions.map fun s => s.id := by
  rw [List.map_map]
  refine List.map_congr_left fun s _ => ?_
  exact congrArg Chat.ConversationSession.id (touchSession_same id now s)

theorem touched_keyed : ((tables.sessions.map (touchSession id now)).map fun s => s.id).Nodup := by
  rw [touched_ids]
  exact tables.keyed

def touch : ConversationTables :=
  { tables with
    sessions := tables.sessions.map (touchSession id now)
    keyed := touched_keyed tables id now }

def conversationFor : ChannelConversation :=
  (findConversation channel normalized tables).getD (newConversation channel normalized id now)

/-- `_get_or_create_channel_conversation`, as the tables are after it. -/
def getOrCreateChannelConversation : ConversationTables :=
  match findConversation channel normalized tables with
  | some _ => tables
  | none => insertSession tables (newConversation channel normalized id now)

end ChannelInbound
end AgentHive
