import AgentHive.Services.ChannelService
import AgentHive.Services.ChatSchemas
import AgentHive.Store.CursorPages

/-!
The poll of a channel's answers by a client that is not pushed any.
-/

namespace AgentHive

open Rag (Json JsonDict)

structure ChannelConversation extends Chat.ConversationSession where
  updatedAt : Instant

structure ChannelMessage extends Chat.ConversationMessage where
  createdAt : Instant

structure ConversationTables where
  sessions : List ChannelConversation
  messages : List ChannelMessage
  keyed : (sessions.map fun s => s.id).Nodup
  distinct : (messages.map fun r => r.id).Nodup

structure ChannelPollMessage where
  messageId : UUID
  conversationId : UUID
  conversationKey : String
  role : String
  content : String
  createdAt : Instant
  requestId : Option String
  modelKey : Option String
deriving DecidableEq

structure ChannelPollResponse where
  channelId : UUID
  channelType : ChannelType
  externalUserId : String
  conversationKey : String
  messages : List ChannelPollMessage
  nextCursor : Option UUID
  hasMore : Bool
deriving DecidableEq

structure PollFaults where
  load : Option StorageFault := none
  sessions : Option StorageFault := none
  messages : Option StorageFault := none
deriving DecidableEq

namespace ChannelPoll

open ChannelService

def pollRoles : List String := ["assistant", "agent"]

def isText (text : String) : Json → Bool
  | .str s => s == text
  | _ => false

variable (tables : ConversationTables)

def selectSessions (tenantId channelId : UUID) : List ChannelConversation :=
  ((tables.sessions.filter fun s =>
    s.tenantId == tenantId && s.channelId == some channelId && s.deletedAt.isNone).insertionSort
      fun a b => b.updatedAt ≤ a.updatedAt).take 100

def Earlier (a b : ChannelMessage) : Prop :=
  a.createdAt < b.createdAt ∨ a.createdAt = b.createdAt ∧ a.id ≤ b.id

instance (a b : ChannelMessage) : Decidable (Earlier a b) :=
  inferInstanceAs (Decidable (_ ∨ _))

def orderedMessages : List ChannelMessage :=
  tables.messages.insertionSort Earlier

def answersIn (tenantId : UUID) (ids : List UUID) : List ChannelMessage :=
  (orderedMessages tables).filter fun r =>
    r.tenantId == tenantId && decide (r.conversationId ∈ ids) && decide (r.role ∈ pollRoles)

def selectMessages (tenantId : UUID) (ids : List UUID) (after : Option UUID) (limit : Nat) :
    List ChannelMessage :=
  (CursorPages.remaining (fun r => r.id) (answersIn tables tenantId ids) after).take (limit + 1)

def matchesUser (externalUserId : String) (conversationKey : Option String)
    (conv : ChannelConversation) : Bool :=
  isText externalUserId (JsonDict.get conv.metadataJson "external_user_id") &&
    match conversationKey with
    | none => true
    | some key => isText key (JsonDict.get conv.metadataJson "conversation_key")

def selectMatchingSessions (sessions : List ChannelConversation) (externalUserId : String)
    (conversationKey : Option String) : List UUID × Option Json :=
  let found := sessions.filter (matchesUser externalUserId conversationKey)
  (found.map fun conv => conv.id,
    (conversationKey.map Json.str).or
      ((found.map fun conv => JsonDict.get conv.metadataJson "conversation_key").find?
        Json.truthy))

def buildSessionKeyMap (sessions : List ChannelConversation) : List (UUID × Json) :=
  sessions.map fun conv =>
    let key := JsonDict.get conv.metadataJson "conversation_key"
    (conv.id, if key.truthy then key else .str "")

def readText : Json → Except Exc String
  | .str s => .ok s
  | _ => .error (.other "ValidationError" "")

def sessionKey (sessionKeyMap : List (UUID × Json)) (conversationId : UUID) : Json :=
  (sessionKeyMap.lookup conversationId).getD (.str "")

def pollMessage (sessionKeyMap : List (UUID × Json)) (r : ChannelMessage) :
    Except Exc ChannelPollMessage := do
  let key ← readText (sessionKey sessionKeyMap r.conversationId)
  pure
    { messageId := r.id, conversationId := r.conversationId, conversationKey := key
      role := r.role, content := r.content, createdAt := r.createdAt
      requestId := r.requestId, modelKey := r.modelKey }

def pageOf (rows : List ChannelMessage) (matchingSessionIds : List UUID) (after : Option UUID)
    (limit : Nat) : List ChannelMessage × Bool :=
  let filtered := CursorPages.remaining (fun r : ChannelMessage => r.id)
    (rows.filter fun r => r.conversationId ∈ matchingSessionIds) after
  if filtered.length > limit then (filtered.take limit, true) else (filtered, false)

def paginateMessages (rows : List ChannelMessage) (matchingSessionIds : List UUID)
    (after : Option UUID) (limit : Nat) (sessionKeyMap : List (UUID × Json)) :
    Except Exc (List ChannelPollMessage × Bool × Option UUID) := do
  let page := pageOf rows matchingSessionIds after limit
  let messages ← page.1.mapM (pollMessage sessionKeyMap)
  pure (messages, page.2,
    if page.2 then messages.getLast?.map ChannelPollMessage.messageId else none)

section Poll

variable (lib : SecretLibrary) (faults : PollFaults) (store : ChannelStore)
  (tables : ConversationTables) (tenantId channelId : UUID) (externalUserId : String)
  (conversationKey : Option String) (after : Option UUID) (limit : Int)

def pageSize (limit : Int) : Nat := (max 1 (min limit 200)).toNat

def sessionsRead : List ChannelConversation :=
  if faults.sessions = none then selectSessions tables tenantId channelId else []

def messagesRead (ids : List UUID) : List ChannelMessage :=
  if ids ≠ [] ∧ faults.messages = none then
    selectMessages tables tenantId ids after (pageSize limit)
  else []

/-- `resolved_conversation_key or conversation_key or ""`. -/
def responseKey (conversationKey : Option String) (resolved : Option Json) : Json :=
  (resolved.filter Json.truthy).getD (.str (conversationKey.getD ""))

def answerPoll (channel : ChannelRecord) : Except Exc ChannelPollResponse := do
  let sessions := sessionsRead faults tables tenantId channelId
  let found := selectMatchingSessions sessions externalUserId conversationKey
  let rows := messagesRead faults tables tenantId after limit found.1
  let page ← paginateMessages rows found.1 after (pageSize limit) (buildSessionKeyMap sessions)
  let key ← readText (responseKey conversationKey found.2)
  pure
    { channelId := channelId, channelType := channel.channelType
      externalUserId := externalUserId, conversationKey := key
      messages := page.1, nextCursor := page.2.2, hasMore := page.2.1 }

def pollChannelMessagesForTenant : Except Exc ChannelPollResponse × ChannelStore :=
  match getTenantChannel lib faults.load store tenantId channelId with
  | (.error x, store') => (.error x, store')
  | (.ok channel, store') =>
    (answerPoll faults tables tenantId channelId externalUserId conversationKey after limit
      channel, store')

end Poll

end ChannelPoll
end AgentHive
