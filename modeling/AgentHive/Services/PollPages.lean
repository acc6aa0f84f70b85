import AgentHive.Services.ChannelPoll
import Mathlib.Data.Prod.Lex

/-!
All the answers of a user, read page by page.
-/

namespace AgentHive.ChannelPoll

open ChannelService CursorPages
open Process (Fallible.bind_ok Fallible.mapM_ok_iff Fallible.map_of_mapM)
open Process.Fallible (bind_ok mapM_ok_iff)

inductive FollowsCursor (fetch : Option UUID → Except Exc ChannelPollResponse) :
    Option UUID → List ChannelPollResponse → Prop
  | last {after : Option UUID} {r : ChannelPollResponse} (read : fetch after = .ok r)
      (ends : r.hasMore = false) : FollowsCursor fetch after [r]
  | more {after : Option UUID} {r : ChannelPollResponse} {rest : List ChannelPollResponse}
      (read : fetch after = .ok r) (more : r.hasMore = true)
      (later : FollowsCursor fetch r.nextCursor rest) : FollowsCursor fetch after (r :: rest)

structure ReadWhole (responses : List ChannelPollResponse) (expected : List ChannelMessage) :
    Prop where
  once : ((responses.flatMap fun r => r.messages).map fun m => m.messageId).Perm
    (expected.map fun r => r.id)
  ordered : (responses.flatMap fun r => r.messages).Pairwise fun a b => a.createdAt ≤ b.createdAt

variable (tables : ConversationTables) (tenantId channelId : UUID) (externalUserId : String)
  (conversationKey : Option String)

def namedConversations : List ChannelConversation :=
  tables.sessions.filter fun s =>
    s.tenantId == tenantId && s.channelId == some channelId && s.deletedAt.isNone &&
      matchesUser externalUserId conversationKey s

def addressedMessages : List ChannelMessage :=
  answersIn tables tenantId
    ((namedConversations tables tenantId channelId externalUserId conversationKey).map
      fun s => s.id)

def selected : List UUID × Option Rag.Json :=
  selectMatchingSessions (selectSessions tables tenantId channelId) externalUserId conversationKey

def KeyReadable (conversationId : UUID) : Prop :=
  ∃ key, readText (sessionKey (buildSessionKeyMap (selectSessions tables tenantId channelId))
    conversationId) = .ok key

/-- The conversations with answers to the user are among those read, the ids of the answers are
in order at each end of a page, and keys are texts. -/
structure PollsWhole (limit : Int) : Prop where
  recent : ∀ r ∈ addressedMessages tables tenantId channelId externalUserId conversationKey,
    r.conversationId ∈ (selected tables tenantId channelId externalUserId conversationKey).1
  splits : Splits (fun r : ChannelMessage => r.id) (pageSize limit)
    (addressedMessages tables tenantId channelId externalUserId conversationKey)
  readable : ∀ r ∈ addressedMessages tables tenantId channelId externalUserId conversationKey,
    KeyReadable tables tenantId channelId r.conversationId
  resolved : ∃ key, readText (responseKey conversationKey
    (selected tables tenantId channelId externalUserId conversationKey).2) = .ok key

def reachable : List ChannelMessage :=
  answersIn tables tenantId (selected tables tenantId channelId externalUserId conversationKey).1

section Page

variable {tables tenantId channelId externalUserId conversationKey} {after : Option UUID}
  {limit : Int} {channel : ChannelRecord}

theorem pageSize_pos : 0 < pageSize limit := by
  rw [pageSize]
  omega

theorem pageOf_messagesRead (ids : List UUID) :
    pageOf (messagesRead {} tables tenantId after limit ids) ids after (pageSize limit) =
      ((remaining (fun r => r.id) (answersIn tables tenantId ids) after).take (pageSize limit),
        decide (pageSize limit <
          (remaining (fun r => r.id) (answersIn tables tenantId ids) after).length)) := by
  have read : messagesRead {} tables tenantId after limit ids =
      (remaining (fun r => r.id) (answersIn tables tenantId ids) after).take
        (pageSize limit + 1) := by
    by_cases none : ids = []
    · subst none
      have nothing : answersIn tables tenantId [] = [] := by
        simp [answersIn]
      rw [nothing]
      cases after <;> simp [messagesRead, remaining]
    · simp [messagesRead, none, selectMessages]
  have within : ∀ r ∈ remaining (fun r : ChannelMessage => r.id) (answersIn tables tenantId ids)
      after, r.conversationId ∈ ids := by
    intro r mem
    have answer : r ∈ answersIn tables tenantId ids := by
      cases after with
      | none => exact mem
      | some c => exact (List.mem_filter.mp mem).1
    simp only [answersIn, List.mem_filter, Bool.and_eq_true, decide_eq_true_eq] at answer
    exact answer.2.1.2
  have again : remaining (fun r : ChannelMessage => r.id)
      ((messagesRead {} tables tenantId after limit ids).filter fun r => r.conversationId ∈ ids)
      after = messagesRead {} tables tenantId after limit ids := by
    rw [read, List.filter_eq_self.mpr]
    · cases after with
      | none => rfl
      | some c =>
        rw [remaining, List.filter_eq_self]
        intro r mem
        exact (List.mem_filter.mp (List.mem_of_mem_take mem)).2
    · intro r mem
      exact decide_eq_true (within r (List.mem_of_mem_take mem))
  rw [pageOf]
  simp only [again]
  rw [read]
  generalize remaining (fun r : ChannelMessage => r.id) (answersIn tables tenantId ids) after = rows
  by_cases long : pageSize limit < rows.length
  · rw [if_pos (by rw [List.length_take]; omega), List.take_take, decide_eq_true long]
    rw [Nat.min_eq_left (Nat.le_succ _)]
  · rw [if_neg (by rw [List.length_take]; omega), decide_eq_false long]
    rw [List.take_of_length_le (by omega), List.take_of_length_le (by omega)]

structure Shows (rows : List ChannelMessage) (more : Bool) (r : ChannelPollResponse) : Prop where
  stamps : (r.messages.map fun m => (m.messageId, m.createdAt)) =
    rows.map fun r => (r.id, r.createdAt)
  hasMore : r.hasMore = more
  cursor : r.nextCursor = if more then rows.getLast?.map fun r => r.id else none

variable {keys : List (UUID × Rag.Json)} {row : ChannelMessage}

theorem pollMessage_stamp {m : ChannelPollMessage} (made : pollMessage keys row = .ok m) :
    (m.messageId, m.createdAt) = (row.id, row.createdAt) := by
  obtain ⟨key, _, eq⟩ := bind_ok.mp made
  cases eq
  rfl

theorem exists_pollMessage :
    (∃ m, pollMessage keys row = .ok m) ↔
      ∃ key, readText (sessionKey keys row.conversationId) = .ok key := by
  constructor
  · intro ⟨m, made⟩
    obtain ⟨key, read, _⟩ := bind_ok.mp made
    exact ⟨key, read⟩
  · intro ⟨key, read⟩
    exact ⟨_, bind_ok.mpr ⟨key, read, rfl⟩⟩

abbrev page (tables : ConversationTables) (tenantId channelId : UUID) (externalUserId : String)
    (conversationKey : Option String) (after : Option UUID) (limit : Int) : List ChannelMessage :=
  (remaining (fun r => r.id)
    (reachable tables tenantId channelId externalUserId conversationKey) after).take (pageSize limit)

theorem answerPoll_ok {r : ChannelPollResponse}
    (answered : answerPoll {} tables tenantId channelId externalUserId conversationKey after limit
      channel = .ok r) :
    Shows (page tables tenantId channelId externalUserId conversationKey after limit)
        (pageSize limit < (remaining (fun r => r.id)
          (reachable tables tenantId channelId externalUserId conversationKey) after).length) r ∧
      (∀ row ∈ page tables tenantId channelId externalUserId conversationKey after limit,
        KeyReadable tables tenantId channelId row.conversationId) ∧
      ∃ key, readText (responseKey conversationKey
        (selected tables tenantId channelId externalUserId conversationKey).2) = .ok key := by
  obtain ⟨shown, paged, rest⟩ := bind_ok.mp answered
  obtain ⟨key, read, eq⟩ := bind_ok.mp rest
  cases eq
  rw [paginateMessages, pageOf_messagesRead] at paged
  obtain ⟨messages, made, eq⟩ := bind_ok.mp paged
  cases eq
  have stamps := Fallible.map_of_mapM made fun _ _ => pollMessage_stamp
  refine ⟨⟨stamps, rfl, ?_⟩, fun row mem => ?_, key, read⟩
  · have last := congrArg (fun l => (l.getLast?).map Prod.fst) stamps
    simp only [List.getLast?_map, Option.map_map] at last
    by_cases more : pageSize limit < (remaining (fun r : ChannelMessage => r.id)
        (reachable tables tenantId channelId externalUserId conversationKey) after).length
    · exact (if_pos (decide_eq_true more)).trans (last.trans (if_pos (decide_eq_true more)).symm)
    · have short := Bool.eq_false_iff.mp (decide_eq_false more)
      exact (if_neg short).trans (if_neg short).symm
  · exact exists_pollMessage.mp (mapM_ok_iff.mp ⟨messages, made⟩ row mem)

theorem exists_answerPoll (channel : ChannelRecord)
    (readable : ∀ row ∈ page tables tenantId channelId externalUserId conversationKey after limit,
      KeyReadable tables tenantId channelId row.conversationId)
    (resolved : ∃ key, readText (responseKey conversationKey
      (selected tables tenantId channelId externalUserId conversationKey).2) = .ok key) :
    ∃ r, answerPoll {} tables tenantId channelId externalUserId conversationKey after limit
      channel = .ok r := by
  obtain ⟨key, read⟩ := resolved
  obtain ⟨messages, made⟩ := mapM_ok_iff.mpr fun row mem =>
    exists_pollMessage.mpr (readable row mem)
  have paged : ∃ shown, paginateMessages
      (messagesRead {} tables tenantId after limit
        (selected tables tenantId channelId externalUserId conversationKey).1)
      (selected tables tenantId channelId externalUserId conversationKey).1 after (pageSize limit)
      (buildSessionKeyMap (selectSessions tables tenantId channelId)) = .ok shown := by
    rw [paginateMessages, pageOf_messagesRead]
    exact ⟨_, bind_ok.mpr ⟨messages, made, rfl⟩⟩
  obtain ⟨shown, paged⟩ := paged
  exact ⟨_, bind_ok.mpr ⟨shown, paged, bind_ok.mpr ⟨key, read, rfl⟩⟩⟩

theorem FollowsCursor.walk {responses : List ChannelPollResponse}
    (follows : FollowsCursor (fun after => answerPoll {} tables tenantId channelId externalUserId
      conversationKey after limit channel) after responses) :
    ∃ pages, Walk (fun r => r.id)
        (reachable tables tenantId channelId externalUserId conversationKey) (pageSize limit) after
        pages ∧
      ((responses.flatMap fun r => r.messages).map fun m => (m.messageId, m.createdAt)) =
        (pages.flatten.map fun r => (r.id, r.createdAt)) ∧
      (∀ row ∈ pages.flatten, KeyReadable tables tenantId channelId row.conversationId) ∧
      ∃ key, readText (responseKey conversationKey
        (selected tables tenantId channelId externalUserId conversationKey).2) = .ok key := by
  induction follows with
  | last read ends =>
    obtain ⟨shows, readable, resolved⟩ := answerPoll_ok read
    have short := of_decide_eq_false (shows.hasMore.symm.trans ends)
    have whole := List.take_of_length_le (Nat.le_of_not_lt short)
    rw [page, whole] at shows readable
    refine ⟨_, .last (Nat.le_of_not_lt short), ?_, ?_, resolved⟩
    · simpa using shows.stamps
    · simpa using readable
  | @more after r rest read more later ih =>
    obtain ⟨shows, readable, resolved⟩ := answerPoll_ok read
    have long := shows.hasMore.symm.trans more
    obtain ⟨pages, walk, stamps, readable', _⟩ := ih
    rw [shows.cursor, if_pos long] at walk
    cases ends : (page tables tenantId channelId externalUserId conversationKey after
        limit).getLast? with
    | none =>
      have size := congrArg List.length (List.getLast?_eq_none_iff.mp ends)
      have pos : 0 < pageSize limit := pageSize_pos
      have long := of_decide_eq_true long
      rw [List.length_take, List.length_nil] at size
      omega
    | some last =>
      rw [ends] at walk
      refine ⟨_, .more (of_decide_eq_true long) ends walk, ?_, ?_, resolved⟩
      · rw [List.flatMap_cons, List.map_append, shows.stamps, stamps, List.flatten_cons,
          List.map_append]
      · intro row mem
        rw [List.flatten_cons] at mem
        rcases List.mem_append.mp mem with first | later
        · exact readable row first
        · exact readable' row later

theorem exists_followsCursor (channel : ChannelRecord) {pages : List (List ChannelMessage)}
    (walk : Walk (fun r => r.id)
      (reachable tables tenantId channelId externalUserId conversationKey) (pageSize limit) after
      pages)
    (readable : ∀ row ∈ reachable tables tenantId channelId externalUserId conversationKey,
      KeyReadable tables tenantId channelId row.conversationId)
    (resolved : ∃ key, readText (responseKey conversationKey
      (selected tables tenantId channelId externalUserId conversationKey).2) = .ok key) :
    ∃ responses, FollowsCursor (fun after => answerPoll {} tables tenantId channelId externalUserId
      conversationKey after limit channel) after responses := by
  have onPage : ∀ after, ∀ row ∈ page tables tenantId channelId externalUserId conversationKey after
      limit, KeyReadable tables tenantId channelId row.conversationId :=
    fun after row mem => readable row (remaining_subset (List.mem_of_mem_take mem))
  induction walk with
  | @last after short =>
    obtain ⟨r, read⟩ := exists_answerPoll channel (onPage after) resolved
    have more := (answerPoll_ok read).1.hasMore
    rw [decide_eq_false (Nat.not_lt.mpr short)] at more
    exact ⟨[r], .last read more⟩
  | @more after a pages long ends rest ih =>
    obtain ⟨r, read⟩ := exists_answerPoll channel (onPage after) resolved
    have shows := (answerPoll_ok read).1
    have cursor := shows.cursor
    rw [if_pos (decide_eq_true long), ends] at cursor
    have next : r.nextCursor = some a.id := cursor
    obtain ⟨responses, later⟩ := ih
    rw [← next] at later
    exact ⟨r :: responses, .more read (shows.hasMore.trans (decide_eq_true long)) later⟩

theorem mem_answersIn {ids : List UUID} :
    row ∈ answersIn tables tenantId ids ↔
      row ∈ tables.messages ∧ row.tenantId = tenantId ∧ row.conversationId ∈ ids ∧
        row.role ∈ pollRoles := by
  simp [answersIn, orderedMessages, and_assoc]

theorem nodup_answersIn (ids : List UUID) : (answersIn tables tenantId ids).Nodup := by
  refine List.Nodup.filter _ ?_
  rw [orderedMessages, (List.perm_insertionSort _ _).nodup_iff]
  exact tables.distinct.of_map _

theorem earlier_iff {a b : ChannelMessage} :
    Earlier a b ↔ toLex (a.createdAt, a.id) ≤ toLex (b.createdAt, b.id) := by
  rw [Prod.Lex.toLex_le_toLex]
  rfl

instance : Std.Total Earlier := ⟨fun a b => by simpa [earlier_iff] using le_total _ _⟩

instance : IsTrans ChannelMessage Earlier :=
  ⟨fun a b c => by simpa [earlier_iff] using fun first second => le_trans first second⟩

theorem answersIn_ordered (ids : List UUID) :
    (answersIn tables tenantId ids).Pairwise fun a b => a.createdAt ≤ b.createdAt := by
  refine ((List.pairwise_insertionSort Earlier tables.messages).filter _).imp fun earlier => ?_
  rcases earlier with before | same
  · exact before.le
  · exact same.1.le

theorem reachable_subset :
    reachable tables tenantId channelId externalUserId conversationKey ⊆
      addressedMessages tables tenantId channelId externalUserId conversationKey := by
  intro row mem
  obtain ⟨stored, own, within, role⟩ := mem_answersIn.mp mem
  refine mem_answersIn.mpr ⟨stored, own, ?_, role⟩
  obtain ⟨conv, named, same⟩ := List.mem_map.mp within
  obtain ⟨read, names⟩ := List.mem_filter.mp named
  have kept := List.mem_of_mem_take read
  rw [(List.perm_insertionSort _ _).mem_iff, List.mem_filter] at kept
  refine List.mem_map.mpr ⟨conv, List.mem_filter.mpr ⟨kept.1, ?_⟩, same⟩
  rw [Bool.and_eq_true]
  exact ⟨kept.2, names⟩

theorem reachable_eq
    (recent : ∀ r ∈ addressedMessages tables tenantId channelId externalUserId conversationKey,
      r.conversationId ∈ (selected tables tenantId channelId externalUserId conversationKey).1) :
    reachable tables tenantId channelId externalUserId conversationKey =
      addressedMessages tables tenantId channelId externalUserId conversationKey := by
  refine List.filter_congr fun row stored => ?_
  rw [orderedMessages, (List.perm_insertionSort _ _).mem_iff] at stored
  have iff : row ∈ reachable tables tenantId channelId externalUserId conversationKey ↔
      row ∈ addressedMessages tables tenantId channelId externalUserId conversationKey := by
    refine ⟨fun mem => reachable_subset mem, fun mem => ?_⟩
    obtain ⟨_, own, _, role⟩ := mem_answersIn.mp mem
    exact mem_answersIn.mpr ⟨stored, own, recent row mem, role⟩
  rw [reachable, addressedMessages, mem_answersIn, mem_answersIn] at iff
  simp only [stored, true_and] at iff
  rw [Bool.eq_iff_iff]
  simpa [and_assoc] using iff

theorem perm_of_ids {rows : List ChannelMessage} {ids ids' : List UUID}
    (within : rows ⊆ answersIn tables tenantId ids)
    (perm : (rows.map fun r => r.id).Perm ((answersIn tables tenantId ids').map fun r => r.id)) :
    rows.Perm (answersIn tables tenantId ids') := by
  have distinct : ((rows.map fun r => r.id)).Nodup := by
    rw [perm.nodup_iff]
    have whole := ((List.perm_insertionSort Earlier tables.messages).map fun r => r.id).nodup_iff
    exact (whole.mpr tables.distinct).sublist (List.filter_sublist.map _)
  refine (List.perm_ext_iff_of_nodup (distinct.of_map _) (nodup_answersIn ids')).mpr fun row => ?_
  have one : ∀ {row row' : ChannelMessage}, row ∈ tables.messages → row' ∈ tables.messages →
      row.id = row'.id → row = row' :=
    fun mem mem' same => List.inj_on_of_nodup_map tables.distinct mem mem' same
  constructor
  · intro mem
    have listed := perm.mem_iff.mp (List.mem_map_of_mem mem)
    obtain ⟨row', mem', same⟩ := List.mem_map.mp listed
    rwa [← one (mem_answersIn.mp mem').1 (mem_answersIn.mp (within mem)).1 same]
  · intro mem
    have listed := perm.mem_iff.mpr (List.mem_map_of_mem mem)
    obtain ⟨row', mem', same⟩ := List.mem_map.mp listed
    rwa [← one (mem_answersIn.mp (within mem')).1 (mem_answersIn.mp mem).1 same]

end Page

section Whole

variable (lib : SecretLibrary) (store : ChannelStore) (limit : Int)

def ReadsWhole : Prop :=
  ∃ responses, FollowsCursor (fun after => (pollChannelMessagesForTenant lib {} store tables
      tenantId channelId externalUserId conversationKey after limit).1) none responses ∧
    ReadWhole responses
      (addressedMessages tables tenantId channelId externalUserId conversationKey)

variable {tables tenantId channelId externalUserId conversationKey lib store limit}
  {channel : ChannelRecord}

section

variable (found : (getTenantChannel lib none store tenantId channelId).1 = .ok channel)

include found

theorem fetch_eq :
    (fun after => (pollChannelMessagesForTenant lib {} store tables tenantId channelId
      externalUserId conversationKey after limit).1) = fun after =>
        answerPoll {} tables tenantId channelId externalUserId conversationKey after limit
          channel := by
  funext after
  rw [pollChannelMessagesForTenant]
  split
  · rename_i looked
    rw [looked] at found
    cases found
  · rename_i looked
    rw [looked] at found
    cases found
    rfl

theorem ReadsWhole.pollsWhole
    (reads : ReadsWhole tables tenantId channelId externalUserId conversationKey lib store limit) :
    PollsWhole tables tenantId channelId externalUserId conversationKey limit := by
  rw [ReadsWhole, fetch_eq found] at reads
  obtain ⟨responses, follows, whole⟩ := reads
  obtain ⟨pages, walk, stamps, readable, resolved⟩ := follows.walk
  have ids := congrArg (List.map Prod.fst) stamps
  simp only [List.map_map, Function.comp_def] at ids
  have once := whole.once
  rw [ids] at once
  have perm := perm_of_ids walk.subset once
  have recent : ∀ r ∈ addressedMessages tables tenantId channelId externalUserId conversationKey,
      r.conversationId ∈ (selected tables tenantId channelId externalUserId conversationKey).1 :=
    fun r mem => (mem_answersIn.mp (walk.subset (perm.mem_iff.mpr mem))).2.2.1
  rw [reachable_eq recent] at walk
  exact
    { recent := recent
      splits := walk.splits_of_perm pageSize_pos (nodup_answersIn _) perm
      readable := fun r mem => readable r (perm.mem_iff.mpr mem)
      resolved := resolved }

theorem PollsWhole.readsWhole
    (whole : PollsWhole tables tenantId channelId externalUserId conversationKey limit) :
    ReadsWhole tables tenantId channelId externalUserId conversationKey lib store limit := by
  rw [ReadsWhole, fetch_eq found]
  have all := reachable_eq whole.recent
  have readable := whole.readable
  have splits := whole.splits
  rw [← all] at readable splits
  have walks : ∃ pages, Walk (fun r : ChannelMessage => r.id)
      (reachable tables tenantId channelId externalUserId conversationKey) (pageSize limit) none
      pages := Walk.exists pageSize_pos none
  obtain ⟨pages, walk⟩ := walks
  obtain ⟨responses, follows⟩ := exists_followsCursor channel walk readable whole.resolved
  obtain ⟨pages', walk', stamps, _⟩ := follows.walk
  rw [walk'.flatten_eq splits] at stamps
  have ids := congrArg (List.map Prod.fst) stamps
  have times := congrArg (List.map Prod.snd) stamps
  simp only [List.map_map, Function.comp_def, remaining] at ids times
  rw [all] at ids times
  refine ⟨responses, follows, ?_, ?_⟩
  · rw [ids]
  · have ordered : (addressedMessages tables tenantId channelId externalUserId
        conversationKey).Pairwise fun a b => a.createdAt ≤ b.createdAt := answersIn_ordered _
    rw [← List.pairwise_map (f := fun r : ChannelMessage => r.createdAt)] at ordered
    rw [← List.pairwise_map (f := fun m : ChannelPollMessage => m.createdAt), times]
    exact ordered

end

/-- The answers to a user are all read just where the ids of the messages are in order at each end
of a page, and their conversations are among those that were changed last. -/
theorem reads_whole_iff {channel : ChannelRecord}
    (found : (getTenantChannel lib none store tenantId channelId).1 = .ok channel) :
    ReadsWhole tables tenantId channelId externalUserId conversationKey lib store limit ↔
      PollsWhole tables tenantId channelId externalUserId conversationKey limit :=
  ⟨fun reads => reads.pollsWhole found, fun whole => whole.readsWhole found⟩

end Whole

def shopChannel : ChannelConfig where
  tenantId := 1
  name := "Shop"
  channelType := .webWidget
  channelKey := "shop"

def shopStore : ChannelStore :=
  { emptyChannels with rows := OrderedDict.empty.set 2 shopChannel }

def annConversation : ChannelConversation where
  id := 3
  tenantId := 1
  title := "ann: Hello"
  agentId := none
  channelId := some 2
  userId := none
  departmentId := none
  source := "channel.web_widget"
  metadataJson := [("conversation_key", .str "k"), ("external_user_id", .str "ann")]
  updatedAt := 9

def answer (id : UUID) (createdAt : Instant) : ChannelMessage where
  id := id
  tenantId := 1
  conversationId := 3
  role := "assistant"
  content := "Hello"
  userId := none
  requestId := none
  metadataJson := []
  createdAt := createdAt

theorem answers_distinct {first second : UUID} (ne : first ≠ second) :
    ([answer first 7, answer second 8].map fun r => r.id).Nodup := by
  simpa [answer] using ne

def twoAnswers (first second : UUID) (ne : first ≠ second) : ConversationTables where
  sessions := [annConversation]
  messages := [answer first 7, answer second 8]
  keyed := List.nodup_singleton _
  distinct := answers_distinct ne

theorem one_ne_two : (1 : UUID) ≠ 2 := by decide

theorem twoAnswers_addressed (first second : UUID) (ne : first ≠ second) :
    addressedMessages (twoAnswers first second ne) 1 2 "ann" (some "k") =
      [answer first 7, answer second 8] := by
  rfl

theorem answer_is_skipped :
    ¬ ReadsWhole (twoAnswers 2 1 one_ne_two.symm) 1 2 "ann" (some "k") plainSecrets shopStore 1 := by
  intro reads
  have splits := (reads.pollsWhole rfl).splits
  rw [twoAnswers_addressed] at splits
  have above := (splits 1 (answer 2 7) (by decide) rfl).2 (answer 1 8) List.mem_cons_self
  exact absurd above (by decide)

theorem twoAnswers_conversation {first second : UUID} {r : ChannelMessage}
    (mem : r ∈ [answer first 7, answer second 8]) : r.conversationId = 3 := by
  simp only [List.mem_cons, List.not_mem_nil, or_false] at mem
  rcases mem with same | same
  · rw [same]
    rfl
  · rw [same]
    rfl

theorem both_answers_are_read :
    ReadsWhole (twoAnswers 1 2 one_ne_two) 1 2 "ann" (some "k") plainSecrets shopStore 1 := by
  refine (reads_whole_iff rfl).mpr ⟨?_, ?_, ?_, "k", rfl⟩
  · rw [twoAnswers_addressed]
    intro r mem
    rw [twoAnswers_conversation mem]
    exact List.mem_cons_self
  · rw [twoAnswers_addressed]
    intro k a long ends
    change 1 * k < 2 at long
    rw [show pageSize 1 = 1 from rfl] at ends ⊢
    match k with
    | 0 => cases ends
    | 1 =>
      cases ends
      simp [answer]
    | k + 2 => omega
  · rw [twoAnswers_addressed]
    intro r mem
    rw [twoAnswers_conversation mem]
    exact ⟨"k", rfl⟩

end AgentHive.ChannelPoll
