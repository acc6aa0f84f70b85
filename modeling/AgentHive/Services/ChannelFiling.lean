import AgentHive.Services.PollReach

/-!
Who the answers of a channel reach, over the messages that come in one after another.
-/

namespace AgentHive.ChannelFiling

open ChannelService ChannelPoll ChannelInbound
open Rag (Json JsonDict)

structure Inbound where
  payload : ReadPayload
  signature : SignatureVerification
  requestId : Option String
  response : Chat.AgentRunResponse
  conversationId : UUID
  messageId : UUID
  answerId : UUID
  receivedAt : Instant
  answeredAt : Instant

def Inbound.normalized (channel : ChannelRecord) (i : Inbound) : InboundMessage :=
  buildMessage channel i.payload i.signature i.requestId

variable (texts : Chat.ChatTexts) (agentKey : String) (channel : ChannelRecord)

def filedIn (tables : ConversationTables) (i : Inbound) : ChannelConversation :=
  conversationFor channel (i.normalized channel) tables i.conversationId i.receivedAt

def answerTo (tables : ConversationTables) (i : Inbound) : ChannelMessage :=
  answerRow channel texts agentKey i.response (filedIn channel tables i).id i.answerId i.answeredAt

def routeMessage (tables : ConversationTables) (i : Inbound) : ConversationTables :=
  let normalized := i.normalized channel
  let conversation := filedIn channel tables i
  let opened := getOrCreateChannelConversation channel normalized tables i.conversationId
    i.receivedAt
  let asked := insertMessage opened
    (userRow channel normalized conversation.id i.messageId i.requestId i.receivedAt)
  let answered := insertMessage asked (answerTo texts agentKey channel tables i)
  touch answered conversation.id i.answeredAt

def filingMachine : Process.Machine ConversationTables Inbound Unit where
  step tables i := ((), routeMessage texts agentKey channel tables i)

structure DrawsFresh (tables : ConversationTables) (i : Inbound) : Prop where
  conversation : i.conversationId ∉ tables.sessions.map fun s => s.id
  message : i.messageId ∉ tables.messages.map fun r => r.id
  answer : i.answerId ∉ tables.messages.map fun r => r.id
  apart : i.messageId ≠ i.answerId

def FiledForOwner (tables : ConversationTables) (i : Inbound) (externalUserId : String) : Prop :=
  ∀ s, findConversation channel (i.normalized channel) tables = some s →
    isText externalUserId (JsonDict.get s.metadataJson "external_user_id") = true

structure Grows (tables tables' : ConversationTables) : Prop where
  messages : tables.messages ⊆ tables'.messages
  sessions : ∀ s ∈ tables.sessions, ∃ s' ∈ tables'.sessions,
    s'.toConversationSession = s.toConversationSession

variable {texts agentKey channel} {tables tables' tables'' : ConversationTables}

theorem Grows.refl (tables : ConversationTables) : Grows tables tables :=
  ⟨List.Subset.refl _, fun s mem => ⟨s, mem, rfl⟩⟩

theorem Grows.trans (first : Grows tables tables') (second : Grows tables' tables'') :
    Grows tables tables'' := by
  refine ⟨fun r mem => second.messages (first.messages mem), fun s mem => ?_⟩
  obtain ⟨s', mem', same⟩ := first.sessions s mem
  obtain ⟨s'', mem'', same'⟩ := second.sessions s' mem'
  exact ⟨s'', mem'', same'.trans same⟩

theorem insertSession_grows (tables : ConversationTables) (row : ChannelConversation) :
    Grows tables (insertSession tables row) := by
  unfold insertSession
  split
  · exact ⟨List.Subset.refl _, fun s mem => ⟨s, List.mem_append_left _ mem, rfl⟩⟩
  · exact .refl tables

theorem insertMessage_grows (tables : ConversationTables) (row : ChannelMessage) :
    Grows tables (insertMessage tables row) := by
  unfold insertMessage
  split
  · exact ⟨List.subset_append_left _ _, fun s mem => ⟨s, mem, rfl⟩⟩
  · exact .refl tables

theorem touch_grows (tables : ConversationTables) (id : UUID) (now : Instant) :
    Grows tables (touch tables id now) := by
  refine ⟨List.Subset.refl _, fun s mem => ?_⟩
  exact ⟨_, List.mem_map_of_mem mem, touchSession_same id now s⟩

theorem getOrCreate_grows (tables : ConversationTables) (normalized : InboundMessage) (id : UUID)
    (now : Instant) :
    Grows tables (getOrCreateChannelConversation channel normalized tables id now) := by
  unfold getOrCreateChannelConversation
  split
  · exact .refl tables
  · exact insertSession_grows tables _

theorem routeMessage_grows (tables : ConversationTables) (i : Inbound) :
    Grows tables (routeMessage texts agentKey channel tables i) :=
  (getOrCreate_grows _ _ _ _).trans ((insertMessage_grows _ _).trans
    ((insertMessage_grows _ _).trans (touch_grows _ _ _)))

theorem after_grows (tables : ConversationTables) (messages : List Inbound) :
    Grows tables ((filingMachine texts agentKey channel).after tables messages) := by
  induction messages generalizing tables with
  | nil => exact .refl tables
  | cons i rest ih => exact (routeMessage_grows tables i).trans (ih _)

section

variable (own : OwnConversations channel tables)

include own

theorem getOrCreate_own (normalized : InboundMessage)
    (id : UUID) (now : Instant) :
    OwnConversations channel (getOrCreateChannelConversation channel normalized tables id now) := by
  unfold getOrCreateChannelConversation
  split
  · exact own
  · unfold insertSession
    split
    · intro s mem ofChannel
      rcases List.mem_append.mp mem with old | new
      · exact own s old ofChannel
      · rw [List.mem_singleton.mp new]
        exact ⟨_, _, rfl, rfl, rfl⟩
    · exact own

theorem insertMessage_own (row : ChannelMessage) :
    OwnConversations channel (insertMessage tables row) := by
  unfold insertMessage
  split
  · exact own
  · exact own

theorem touch_own (id : UUID) (now : Instant) :
    OwnConversations channel (touch tables id now) := by
  intro s mem ofChannel
  obtain ⟨s', mem', rfl⟩ := List.mem_map.mp mem
  have same := touchSession_same id now s'
  have channels := congrArg Chat.ConversationSession.channelId same
  obtain ⟨key, user, metadata, tenant, alive⟩ := own s' mem' (channels.symm.trans ofChannel)
  exact ⟨key, user, (congrArg Chat.ConversationSession.metadataJson same).trans metadata,
    (congrArg Chat.ConversationSession.tenantId same).trans tenant,
    (congrArg Chat.ConversationSession.deletedAt same).trans alive⟩

theorem routeMessage_own (i : Inbound) :
    OwnConversations channel (routeMessage texts agentKey channel tables i) :=
  touch_own (insertMessage_own (insertMessage_own (getOrCreate_own own _ _ _) _) _) _ _

omit own in
theorem after_own (texts : Chat.ChatTexts) (agentKey : String)
    (own : OwnConversations channel tables) (messages : List Inbound) :
    OwnConversations channel ((filingMachine texts agentKey channel).after tables messages) :=
  Process.Machine.after_of_step (m := filingMachine texts agentKey channel)
    (P := OwnConversations channel) (fun _ i own => routeMessage_own own i) own messages

omit own in
theorem findConversation_some {normalized : InboundMessage} {s : ChannelConversation}
    (found : findConversation channel normalized tables = some s) :
    s ∈ tables.sessions ∧ s.channelId = some channel.id ∧
      JsonDict.get s.metadataJson "conversation_key" = .str normalized.conversationKey := by
  have named := List.find?_some found
  have kept := List.mem_of_mem_take (List.mem_of_find?_eq_some found)
  rw [(List.perm_insertionSort _ _).mem_iff, List.mem_filter] at kept
  obtain ⟨stored, fits⟩ := kept
  simp only [Bool.and_eq_true, beq_iff_eq] at fits
  exact ⟨stored, fits.1.1.2, isText_iff.mp named⟩

theorem filedIn_metadata (i : Inbound) {user : String}
    (sender : i.payload.externalUserId = some user) : ∃ owner,
      (filedIn channel tables i).metadataJson = conversationMetadata channel
        (i.normalized channel).conversationKey owner ∧
      (owner = some user ↔ FiledForOwner channel tables i user) := by
  unfold filedIn conversationFor FiledForOwner
  cases found : findConversation channel (i.normalized channel) tables with
  | none =>
    exact ⟨some user, by simp [newConversation, Inbound.normalized, buildMessage, sender], by simp⟩
  | some s =>
    obtain ⟨stored, ofChannel, named⟩ := findConversation_some found
    obtain ⟨key, owner, metadata, _⟩ := own s stored ofChannel
    rw [metadata, get_conversationKey] at named
    refine ⟨owner, by rw [Option.getD_some, metadata, Json.str.inj named], ?_⟩
    constructor
    · intro ofUser s' same
      cases same
      rw [metadata, get_externalUserId]
      exact isText_jsonText.mpr ofUser
    · intro filed
      have ofUser := filed s rfl
      rw [metadata, get_externalUserId] at ofUser
      exact isText_jsonText.mp ofUser

end

theorem getOrCreate_messages (normalized : InboundMessage) (id : UUID) (now : Instant) :
    (getOrCreateChannelConversation channel normalized tables id now).messages =
      tables.messages := by
  unfold getOrCreateChannelConversation insertSession
  split
  · rfl
  · split
    · rfl
    · rfl

theorem insertMessage_of_fresh (tables : ConversationTables) (row : ChannelMessage)
    (fresh : row.id ∉ tables.messages.map fun r => r.id) :
    (insertMessage tables row).messages = tables.messages ++ [row] := by
  unfold insertMessage
  rw [dif_pos fresh]

theorem routeMessage_rows (texts : Chat.ChatTexts) (agentKey : String) (channel : ChannelRecord)
    {i : Inbound} (fresh : DrawsFresh tables i) :
    answerTo texts agentKey channel tables i ∈
        (routeMessage texts agentKey channel tables i).messages ∧
      ∃ s ∈ (routeMessage texts agentKey channel tables i).sessions,
        s.toConversationSession = (filedIn channel tables i).toConversationSession := by
  have opened : ∃ s ∈ (getOrCreateChannelConversation channel (i.normalized channel) tables
      i.conversationId i.receivedAt).sessions,
        s.toConversationSession = (filedIn channel tables i).toConversationSession := by
    unfold getOrCreateChannelConversation filedIn conversationFor
    cases found : findConversation channel (i.normalized channel) tables with
    | some s => exact ⟨s, (findConversation_some found).1, rfl⟩
    | none =>
      simp only [insertSession]
      rw [dif_pos (by exact fresh.conversation)]
      exact ⟨_, List.mem_append_right _ List.mem_cons_self, rfl⟩
  constructor
  · have asked := insertMessage_of_fresh
      (getOrCreateChannelConversation channel (i.normalized channel) tables
        i.conversationId i.receivedAt)
      (userRow channel (i.normalized channel) (filedIn channel tables i).id i.messageId
        i.requestId i.receivedAt)
      (by
        rw [getOrCreate_messages]
        exact fresh.message)
    rw [getOrCreate_messages] at asked
    change _ ∈ (insertMessage _ _).messages
    rw [insertMessage_of_fresh]
    · exact List.mem_append_right _ List.mem_cons_self
    · rw [asked, List.map_append, List.mem_append]
      intro taken
      rcases taken with old | own
      · exact fresh.answer old
      · exact fresh.apart (List.mem_singleton.mp own).symm
  · obtain ⟨s, mem, same⟩ := opened
    have grows := (insertMessage_grows (getOrCreateChannelConversation channel
      (i.normalized channel) tables i.conversationId i.receivedAt)
        (userRow channel (i.normalized channel) (filedIn channel tables i).id i.messageId
          i.requestId i.receivedAt)).trans ((insertMessage_grows _
            (answerTo texts agentKey channel tables i)).trans
              (touch_grows _ (filedIn channel tables i).id i.answeredAt))
    obtain ⟨s', mem', same'⟩ := grows.sessions s mem
    exact ⟨s', mem', same'.trans same⟩

/-- Over every run of messages on a channel, an answer can be polled for by the user that it is for,
and by no one else, just where its message was filed in the user's own conversation and a poll still
reaches it. -/
theorem answers_reach_their_user_iff {lib : SecretLibrary} {store : ChannelStore}
    {record : ChannelRecord} {start : ConversationTables} {before later : List Inbound}
    {i : Inbound}
    {user : String}
    (found : (getTenantChannel lib none store channel.tenantId channel.id).1 = .ok record)
    (unused : ∀ s ∈ start.sessions, s.channelId ≠ some channel.id)
    (fresh : (filingMachine texts agentKey channel).Along DrawsFresh start (before ++ i :: later))
    (sender : i.payload.externalUserId = some user) :
    (Returned lib store channel ((filingMachine texts agentKey channel).after start
          (before ++ i :: later)) user i.answerId ∧
        ∀ user', user' ≠ user → ¬ Returned lib store channel
          ((filingMachine texts agentKey channel).after start (before ++ i :: later)) user'
            i.answerId) ↔
      FiledForOwner channel ((filingMachine texts agentKey channel).after start before) i user ∧
        Reachable channel
        ((filingMachine texts agentKey channel).after start (before ++ i :: later))
          user (i.normalized channel).conversationKey
          (answerTo texts agentKey channel ((filingMachine texts agentKey channel).after start before)
            i) := by
  rw [Process.Machine.along_append] at fresh
  have ownStart : OwnConversations channel start :=
    fun s mem ofChannel => absurd ofChannel (unused s mem)
  have ownThere := after_own texts agentKey ownStart before
  have ownFinal := after_own texts agentKey ownStart (before ++ i :: later)
  rw [Process.Machine.after_append, Process.Machine.after_cons] at *
  generalize (filingMachine texts agentKey channel).after start before = there at *
  obtain ⟨answer, conversation, mem, same⟩ :=
    routeMessage_rows texts agentKey channel fresh.2.1
  have grows : Grows (routeMessage texts agentKey channel there i)
      ((filingMachine texts agentKey channel).after
        ((filingMachine texts agentKey channel).next there i) later) := after_grows _ later
  generalize (filingMachine texts agentKey channel).after
    ((filingMachine texts agentKey channel).next there i) later = final at *
  obtain ⟨s, stored, same'⟩ := grows.sessions conversation mem
  have whole := same'.trans same
  obtain ⟨owner, metadata, owned⟩ := filedIn_metadata ownThere i sender
  have returned : ∀ user', Returned lib store channel final user' i.answerId ↔
      owner = some user' ∧ Reachable channel final user' (i.normalized channel).conversationKey
        (answerTo texts agentKey channel there i) := fun user' =>
    returned_iff (a := answerTo texts agentKey channel there i) (s := s) found ownFinal
      (grows.messages answer) rfl List.mem_cons_self stored
      (congrArg Chat.ConversationSession.id whole).symm
      ((congrArg Chat.ConversationSession.metadataJson whole).trans metadata)
  rw [← owned]
  constructor
  · intro ⟨reaches, _⟩
    exact (returned user).mp reaches
  · intro ⟨ofUser, reachable⟩
    refine ⟨(returned user).mpr ⟨ofUser, reachable⟩, fun user' other reaches => ?_⟩
    have ofOther := ((returned user').mp reaches).1
    rw [ofUser] at ofOther
    exact other (Option.some.inj ofOther).symm

def shop : ChannelRecord := recordFromRow plainSecrets 2 shopChannel

def sampleTexts : Chat.ChatTexts := ⟨fun _ => "", fun _ => "", fun _ => ""⟩

def sampleResponse : Chat.AgentRunResponse where
  answer := "Hello"
  usage := ⟨1, 1, 2, 0⟩
  modelKey := "m"
  requestId := "r"
  sources := []
  metadata := []

/-- A message of a user under a key, with the ids from `n` on. -/
def inbound (user key : String) (n : Nat) : Inbound where
  payload := ⟨some user, none, some key, "text", some "Hi", 0, none⟩
  signature := {}
  requestId := none
  response := sampleResponse
  conversationId := n
  messageId := n + 1
  answerId := n + 2
  receivedAt := n
  answeredAt := n + 1

def noRows : ConversationTables where
  sessions := []
  messages := []
  keyed := List.nodup_nil
  distinct := List.nodup_nil

abbrev shopMachine : Process.Machine ConversationTables Inbound Unit :=
  filingMachine sampleTexts "customer_service" shop

theorem answer_reaches_the_other :
    ¬ ∀ (lib : SecretLibrary) (store : ChannelStore) (channel record : ChannelRecord)
      (texts : Chat.ChatTexts) (agentKey : String) (start : ConversationTables)
      (before later : List Inbound) (i : Inbound) (user : String),
      (getTenantChannel lib none store channel.tenantId channel.id).1 = .ok record →
      (∀ s ∈ start.sessions, s.channelId ≠ some channel.id) →
      (filingMachine texts agentKey channel).Along DrawsFresh start (before ++ i :: later) →
      i.payload.externalUserId = some user →
      Returned lib store channel ((filingMachine texts agentKey channel).after start
          (before ++ i :: later)) user i.answerId ∧
        ∀ user', user' ≠ user → ¬ Returned lib store channel
          ((filingMachine texts agentKey channel).after start (before ++ i :: later)) user'
            i.answerId := by
  intro claimed
  have reached := (claimed plainSecrets shopStore shop shop sampleTexts "customer_service" noRows
    [inbound "ann" "k" 10] [] (inbound "bob" "k" 20) "bob" rfl (by simp [noRows])
    ⟨⟨by decide +kernel, by decide +kernel, by decide +kernel, by decide +kernel⟩,
      ⟨by decide +kernel, by decide +kernel, by decide +kernel, by decide +kernel⟩, trivial⟩ rfl).2
  exact reached "ann" (by decide) ⟨some "k", none, 50, _, rfl, _, .tail _ (.head _), rfl⟩

theorem answer_reaches_its_user :
    Returned plainSecrets shopStore shop (shopMachine.after noRows
        ([inbound "ann" "k" 10] ++ inbound "bob" "l" 20 :: [])) "bob" 22 ∧
      ∀ user', user' ≠ "bob" → ¬ Returned plainSecrets shopStore shop (shopMachine.after noRows
        ([inbound "ann" "k" 10] ++ inbound "bob" "l" 20 :: [])) user' 22 := by
  have fresh : shopMachine.Along DrawsFresh noRows
      ([inbound "ann" "k" 10] ++ inbound "bob" "l" 20 :: []) :=
    ⟨⟨by decide +kernel, by decide +kernel, by decide +kernel, by decide +kernel⟩,
      ⟨by decide +kernel, by decide +kernel, by decide +kernel, by decide +kernel⟩, trivial⟩
  have found : (getTenantChannel plainSecrets none shopStore shop.tenantId shop.id).1 = .ok shop :=
    rfl
  refine (answers_reach_their_user_iff found (by simp [noRows]) fresh rfl).mpr ⟨?_, ?_, ?_⟩
  · intro s found
    cases found
  · decide +kernel
  · decide +kernel

end AgentHive.ChannelFiling
