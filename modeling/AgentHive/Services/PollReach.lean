import AgentHive.Services.ChannelInbound
import AgentHive.Services.PollPages

/-!
Which answers the polls for a user can return.
-/

namespace AgentHive.ChannelPoll

open ChannelService CursorPages ChannelInbound
open Rag (Json JsonDict)

def OwnConversations (channel : ChannelRecord) (tables : ConversationTables) : Prop :=
  ∀ s ∈ tables.sessions, s.channelId = some channel.id → ∃ key user,
    s.metadataJson = conversationMetadata channel key user ∧ s.tenantId = channel.tenantId ∧
      s.deletedAt = none

def Returned (lib : SecretLibrary) (store : ChannelStore) (channel : ChannelRecord)
    (tables : ConversationTables) (externalUserId : String) (id : UUID) : Prop :=
  ∃ (key : Option String) (after : Option UUID) (limit : Int) (r : ChannelPollResponse),
    (pollChannelMessagesForTenant lib {} store tables channel.tenantId channel.id externalUserId key
      after limit).1 = .ok r ∧ ∃ m ∈ r.messages, m.messageId = id

/-- The conversation of the message is among those read, and fewer than two hundred answers in the
user's conversations of that key are older and have a higher id. -/
structure Reachable (channel : ChannelRecord) (tables : ConversationTables)
    (externalUserId key : String) (a : ChannelMessage) : Prop where
  visible : a.conversationId ∈ (selectSessions tables channel.tenantId channel.id).map fun s => s.id
  few : ((answersIn tables channel.tenantId (selected tables channel.tenantId channel.id
    externalUserId (some key)).1).filter fun r => Earlier r a ∧ a.id < r.id).length < 200

variable {lib : SecretLibrary} {store : ChannelStore} {channel record : ChannelRecord}
  {tables : ConversationTables} {externalUserId key : String}

theorem isText_iff {text : String} {value : Json} : isText text value = true ↔ value = .str text := by
  cases value with
  | str s => simp [isText]
  | _ =>
    constructor
    · intro h
      cases h
    · intro h
      cases h

theorem isText_jsonText {text : String} {user : Option String} :
    isText text (jsonText user) = true ↔ user = some text := by
  rw [isText_iff]
  cases user with
  | none => simp [jsonText]
  | some user => simp [jsonText]

theorem get_conversationKey (channel : ChannelRecord) (key : String) (user : Option String) :
    JsonDict.get (conversationMetadata channel key user) "conversation_key" = .str key := rfl

theorem get_externalUserId (channel : ChannelRecord) (key : String) (user : Option String) :
    JsonDict.get (conversationMetadata channel key user) "external_user_id" = jsonText user := rfl

theorem mem_selectSessions {tenantId channelId : UUID} {s : ChannelConversation}
    (read : s ∈ selectSessions tables tenantId channelId) :
    s ∈ tables.sessions ∧ s.tenantId = tenantId ∧ s.channelId = some channelId ∧
      s.deletedAt = none := by
  have kept := List.mem_of_mem_take read
  rw [(List.perm_insertionSort _ _).mem_iff, List.mem_filter] at kept
  simpa [and_assoc] using kept

theorem OwnConversations.readable (own : OwnConversations channel tables) (id : UUID) :
    KeyReadable tables channel.tenantId channel.id id := by
  have texts : ∀ s ∈ selectSessions tables channel.tenantId channel.id, ∃ key,
      JsonDict.get s.metadataJson "conversation_key" = .str key := by
    intro s read
    obtain ⟨stored, _, ofChannel, _⟩ := mem_selectSessions read
    obtain ⟨key, user, metadata, _⟩ := own s stored ofChannel
    exact ⟨key, by rw [metadata, get_conversationKey]⟩
  unfold KeyReadable sessionKey buildSessionKeyMap
  generalize selectSessions tables channel.tenantId channel.id = sessions at texts
  induction sessions with
  | nil => exact ⟨"", rfl⟩
  | cons s rest ih =>
    obtain ⟨key, text⟩ := texts s List.mem_cons_self
    by_cases same : id = s.id
    · by_cases empty : key = ""
      · exact ⟨"", by simp [same, text, empty, Json.truthy, readText]⟩
      · exact ⟨key, by simp [same, text, empty, Json.truthy, readText]⟩
    · have other : (id == s.id) = false := beq_eq_false_iff_ne.mpr same
      simp only [List.map_cons, List.lookup_cons, other]
      exact ih fun s' mem => texts s' (List.mem_cons_of_mem s mem)

theorem responseKey_given (key : String) (found : Option Json) :
    responseKey (some key) ((some (.str key)).or found) = .str key := by
  rw [responseKey, Option.some_or, Option.filter_some]
  split <;> rfl

theorem poll_eq (found : (getTenantChannel lib none store channel.tenantId channel.id).1 = .ok record)
    (key : Option String) (after : Option UUID) (limit : Int) :
    (pollChannelMessagesForTenant lib {} store tables channel.tenantId channel.id externalUserId key
      after limit).1 = answerPoll {} tables channel.tenantId channel.id externalUserId key after
        limit record :=
  congrFun (fetch_eq found) after

theorem ids_of_answer {tenantId channelId : UUID} {key : Option String} {after : Option UUID}
    {limit : Int} {r : ChannelPollResponse}
    (answered : answerPoll {} tables tenantId channelId externalUserId key after limit record =
      .ok r) :
    (r.messages.map fun m => m.messageId) =
      (page tables tenantId channelId externalUserId key after limit).map fun r => r.id := by
  have stamps := congrArg (List.map Prod.fst) (answerPoll_ok answered).1.stamps
  simpa only [List.map_map, Function.comp_def] using stamps

section Message

variable {s : ChannelConversation} {a : ChannelMessage}

theorem answersIn_strict (tenantId : UUID) (ids : List UUID) :
    (answersIn tables tenantId ids).Pairwise fun a b => Earlier a b ∧ a.id ≠ b.id := by
  have ordered : (orderedMessages tables).Pairwise Earlier := List.pairwise_insertionSort _ _
  have distinct : (orderedMessages tables).Pairwise fun a b => a.id ≠ b.id := by
    rw [← List.pairwise_map (f := fun r : ChannelMessage => r.id)]
    exact ((List.perm_insertionSort Earlier tables.messages).map _).nodup_iff.mpr tables.distinct
  exact (ordered.and distinct).filter _

theorem earlier_asymm {a b : ChannelMessage} (first : Earlier a b ∧ a.id ≠ b.id) :
    ¬ (Earlier b a ∧ b.id ≠ a.id) := by
  intro second
  have le := earlier_iff.mp first.1
  have ge := earlier_iff.mp second.1
  exact first.2 (Prod.ext_iff.mp (toLex.injective (le_antisymm le ge))).2

theorem mem_page {tenantId channelId : UUID} {key : Option String} {after : Option UUID}
    {limit : Int}
    (mem : a ∈ remaining (fun r => r.id) (reachable tables tenantId channelId externalUserId key)
      after) :
    a ∈ page tables tenantId channelId externalUserId key after limit ↔
      ((remaining (fun r => r.id) (reachable tables tenantId channelId externalUserId key)
        after).filter fun r => Earlier r a ∧ r.id ≠ a.id).length < pageSize limit := by
  have strict : (remaining (fun r => r.id) (reachable tables tenantId channelId externalUserId key)
      after).Pairwise fun a b => Earlier a b ∧ a.id ≠ b.id := by
    cases after with
    | none => exact answersIn_strict _ _
    | some c => exact (answersIn_strict _ _).filter _
  exact mem_take_iff strict (fun a _ b _ first => earlier_asymm first) mem

theorem one_message {r : ChannelMessage} (mem : r ∈ tables.messages) (stored : a ∈ tables.messages)
    (same : r.id = a.id) : r = a :=
  List.inj_on_of_nodup_map tables.distinct mem stored same

theorem one_session {s' : ChannelConversation} (mem : s' ∈ tables.sessions)
    (stored : s ∈ tables.sessions) (same : s'.id = s.id) : s' = s :=
  List.inj_on_of_nodup_map tables.keyed mem stored same

theorem mem_selected {tenantId channelId : UUID} {key : Option String} {id : UUID} :
    id ∈ (selected tables tenantId channelId externalUserId key).1 ↔
      ∃ s ∈ selectSessions tables tenantId channelId, matchesUser externalUserId key s = true ∧
        s.id = id := by
  simp only [selected, selectMatchingSessions, List.mem_map, List.mem_filter, and_assoc]

theorem mem_remaining {rows : List ChannelMessage} {after : Option UUID} {r : ChannelMessage} :
    r ∈ remaining (fun r => r.id) rows after ↔ r ∈ rows ∧ ∀ c ∈ after, c < r.id := by
  cases after with
  | none => simp [remaining]
  | some c => simp [remaining]

theorem nodup_remaining {tenantId : UUID} {ids : List UUID} {after : Option UUID} :
    (remaining (fun r : ChannelMessage => r.id) (answersIn tables tenantId ids) after).Nodup := by
  cases after with
  | none => exact nodup_answersIn ids
  | some c => exact (nodup_answersIn ids).filter _

theorem pageSize_le (limit : Int) : pageSize limit ≤ 200 := by
  rw [pageSize]
  omega

theorem matchesUser_iff {user : Option String} {key' : Option String}
    (metadata : s.metadataJson = conversationMetadata channel key user) :
    matchesUser externalUserId key' s = true ↔ user = some externalUserId ∧
      ∀ text ∈ key', text = key := by
  unfold matchesUser
  rw [Bool.and_eq_true, metadata, get_externalUserId, get_conversationKey, isText_jsonText]
  cases key' with
  | none => simp
  | some text =>
    refine and_congr_right fun _ => ?_
    simp only [isText_iff, Json.str.injEq, Option.mem_def, Option.some.injEq, forall_eq']
    exact eq_comm

theorem returned_iff {user : Option String}
    (found : (getTenantChannel lib none store channel.tenantId channel.id).1 = .ok record)
    (own : OwnConversations channel tables) (stored : a ∈ tables.messages)
    (ofTenant : a.tenantId = channel.tenantId) (role : a.role ∈ pollRoles)
    (mem : s ∈ tables.sessions) (within : a.conversationId = s.id)
    (metadata : s.metadataJson = conversationMetadata channel key user) :
    Returned lib store channel tables externalUserId a.id ↔
      user = some externalUserId ∧ Reachable channel tables externalUserId key a := by
  constructor
  · intro ⟨key', after, limit, r, answered, m, shown, same⟩
    rw [poll_eq found] at answered
    have listed : a.id ∈ r.messages.map fun m => m.messageId := List.mem_map.mpr ⟨m, shown, same⟩
    rw [ids_of_answer answered] at listed
    obtain ⟨a', paged, same'⟩ := List.mem_map.mp listed
    have left := List.mem_of_mem_take paged
    obtain ⟨reached, above⟩ := mem_remaining.mp left
    have here := one_message (mem_answersIn.mp reached).1 stored same'
    rw [here] at paged left reached above
    obtain ⟨s', read, named, ofConversation⟩ := mem_selected.mp (mem_answersIn.mp reached).2.2.1
    have there := one_session (mem_selectSessions read).1 mem (ofConversation.trans within)
    rw [there] at read named
    obtain ⟨ofUser, ofKey⟩ := (matchesUser_iff metadata).mp named
    refine ⟨ofUser, List.mem_map.mpr ⟨s, read, within.symm⟩, ?_⟩
    have before := (mem_page left).mp paged
    refine Nat.lt_of_le_of_lt ?_ (before.trans_le (pageSize_le limit))
    refine (List.subperm_of_subset ((nodup_answersIn _).filter _) fun row kept => ?_).length_le
    obtain ⟨answer, older⟩ := List.mem_filter.mp kept
    obtain ⟨earlier, higher⟩ := of_decide_eq_true older
    obtain ⟨rowStored, rowTenant, rowWithin, rowRole⟩ := mem_answersIn.mp answer
    refine List.mem_filter.mpr ⟨mem_remaining.mpr ⟨?_, fun c isAfter => ?_⟩, ?_⟩
    · refine mem_answersIn.mpr ⟨rowStored, rowTenant, mem_selected.mpr ?_, rowRole⟩
      obtain ⟨s'', read'', named'', same''⟩ := mem_selected.mp rowWithin
      obtain ⟨key'', user'', metadata'', _⟩ := own s'' (mem_selectSessions read'').1
        (mem_selectSessions read'').2.2.1
      obtain ⟨ofUser'', ofKey''⟩ := (matchesUser_iff metadata'').mp named''
      refine ⟨s'', read'', (matchesUser_iff metadata'').mpr ⟨ofUser'', fun text given => ?_⟩, same''⟩
      exact (ofKey text given).trans (ofKey'' key rfl)
    · exact (above c isAfter).trans higher
    · exact decide_eq_true ⟨earlier, Nat.ne_of_gt higher⟩
  · intro ⟨ofUser, visible, few⟩
    obtain ⟨s', read, same⟩ := List.mem_map.mp visible
    have there := one_session (mem_selectSessions read).1 mem (same.trans within)
    rw [there] at read
    have named : matchesUser externalUserId (some key) s = true :=
      (matchesUser_iff metadata).mpr ⟨ofUser, fun text given => (Option.some.inj given).symm⟩
    have reached : a ∈ reachable tables channel.tenantId channel.id externalUserId (some key) :=
      mem_answersIn.mpr ⟨stored, ofTenant, mem_selected.mpr ⟨s, read, named, within.symm⟩, role⟩
    obtain ⟨after, low⟩ : ∃ after : Option UUID, ∀ id, (∀ c ∈ after, c < id) ↔ a.id ≤ id := by
      cases eq : a.id with
      | zero => exact ⟨none, fun id => by simp⟩
      | succ c => exact ⟨some c, fun id => by simp [Nat.succ_le_iff]⟩
    have left := mem_remaining.mpr ⟨reached, (low a.id).mpr (Nat.le_refl _)⟩
    have paged : a ∈ page tables channel.tenantId channel.id externalUserId (some key) after 200 := by
      refine (mem_page left).mpr (Nat.lt_of_le_of_lt ?_ few)
      refine (List.subperm_of_subset (nodup_remaining.filter _) fun row kept => ?_).length_le
      obtain ⟨answer, older⟩ := List.mem_filter.mp kept
      obtain ⟨earlier, other⟩ := of_decide_eq_true older
      obtain ⟨isAnswer, above⟩ := mem_remaining.mp answer
      have higher := Nat.lt_of_le_of_ne ((low row.id).mp above) (Ne.symm other)
      exact List.mem_filter.mpr ⟨isAnswer, decide_eq_true ⟨earlier, higher⟩⟩
    have resolved : ∃ text, readText (responseKey (some key) (selected tables channel.tenantId
        channel.id externalUserId (some key)).2) = .ok text := ⟨key, by
      rw [selected, selectMatchingSessions, Option.map_some, responseKey_given]
      rfl⟩
    have answers : ∃ r, answerPoll {} tables channel.tenantId channel.id externalUserId (some key)
        after 200 record = .ok r :=
      exists_answerPoll record (fun row _ => own.readable row.conversationId) resolved
    obtain ⟨r, answered⟩ := answers
    refine ⟨some key, after, 200, r, (poll_eq found _ _ _).trans answered, ?_⟩
    have listed : a.id ∈ r.messages.map fun m => m.messageId := by
      rw [ids_of_answer answered]
      exact List.mem_map_of_mem paged
    obtain ⟨m, shown, same'⟩ := List.mem_map.mp listed
    exact ⟨m, shown, same'⟩

end Message

end AgentHive.ChannelPoll
