import AgentHive.Process.Assigning
import AgentHive.Services.ChannelFiling

/-!
The conversations that the messages of all channels are filed in.
-/

namespace AgentHive.ConversationKeys

open ChannelService ChannelPoll ChannelInbound ChannelFiling
open Rag (Json JsonDict)

structure Channels where
  record : UUID → ChannelRecord
  record_id : ∀ id, (record id).id = id

inductive Outcome
  | refused
  | unanswered
  | answered
  deriving DecidableEq

structure Handled where
  channelId : UUID
  agentKey : String
  inbound : Inbound
  outcome : Outcome

section Model

variable (texts : Chat.ChatTexts) (channels : Channels)

def keyOf (m : Handled) : String :=
  (m.inbound.normalized (channels.record m.channelId)).conversationKey

def storeQuestion (tables : ConversationTables) (m : Handled) : ConversationTables :=
  let channel := channels.record m.channelId
  let normalized := m.inbound.normalized channel
  insertMessage
    (getOrCreateChannelConversation channel normalized tables m.inbound.conversationId
      m.inbound.receivedAt)
    (userRow channel normalized (filedIn channel tables m.inbound).id m.inbound.messageId
      m.inbound.requestId m.inbound.receivedAt)

def handle (tables : ConversationTables) (m : Handled) :
    Option ((UUID × String) × UUID) × ConversationTables :=
  let filed := ((m.channelId, keyOf channels m),
    (filedIn (channels.record m.channelId) tables m.inbound).id)
  match m.outcome with
  | .refused => (none, tables)
  | .unanswered => (some filed, storeQuestion channels tables m)
  | .answered => (some filed,
      ChannelFiling.routeMessage texts m.agentKey (channels.record m.channelId) tables m.inbound)

def handlingMachine :
    Process.Machine ConversationTables Handled (Option ((UUID × String) × UUID)) where
  step := handle texts channels

def DrawsNew (tables : ConversationTables) (m : Handled) : Prop :=
  m.inbound.conversationId ∉ tables.sessions.map fun s => s.id

/-- The conversation of a message, where there is one, is among those that are looked at: fewer
than fifty of its channel come before it in the order of their last change. -/
def InWindow (tables : ConversationTables) (m : Handled) : Prop :=
  m.outcome = .refused ∨ ∀ s ∈ tables.sessions, s.channelId = some m.channelId →
    JsonDict.get s.metadataJson "conversation_key" = .str (keyOf channels m) →
    s ∈ channelConversations (channels.record m.channelId) tables

end Model

def rowOf (s : Chat.ConversationSession) : Option ((UUID × String) × UUID) :=
  match s.channelId, JsonDict.get s.metadataJson "conversation_key" with
  | some channelId, .str key => some ((channelId, key), s.id)
  | _, _ => none

def statics (tables : ConversationTables) : List Chat.ConversationSession :=
  tables.sessions.map fun s => s.toConversationSession

def keyedRows (tables : ConversationTables) : List ((UUID × String) × UUID) :=
  (statics tables).filterMap rowOf

def Kept (channels : Channels) (tables : ConversationTables) : Prop :=
  ∀ s ∈ statics tables, ∀ channelId, s.channelId = some channelId →
    s.tenantId = (channels.record channelId).tenantId ∧
    s.source = conversationSource (channels.record channelId) ∧ s.deletedAt = none ∧
    ∃ key, JsonDict.get s.metadataJson "conversation_key" = .str key

variable {texts : Chat.ChatTexts} {channels : Channels} {tables : ConversationTables}
variable {m : Handled} {channel : ChannelRecord}

theorem rowOf_eq_some {s : Chat.ConversationSession} {e : (UUID × String) × UUID} :
    rowOf s = some e ↔ s.channelId = some e.1.1 ∧
      JsonDict.get s.metadataJson "conversation_key" = .str e.1.2 ∧ s.id = e.2 := by
  obtain ⟨⟨channelId, key⟩, id⟩ := e
  unfold rowOf
  constructor
  · intro row
    split at row
    · rename_i channelId' key' ofChannel named
      cases row
      exact ⟨ofChannel, named, rfl⟩
    · cases row
  · intro ⟨ofChannel, named, same⟩
    rw [ofChannel, named]
    exact congrArg (fun id => some ((channelId, key), id)) same

theorem mem_keyedRows {e : (UUID × String) × UUID} :
    e ∈ keyedRows tables ↔ ∃ s ∈ tables.sessions, s.channelId = some e.1.1 ∧
      JsonDict.get s.metadataJson "conversation_key" = .str e.1.2 ∧ s.id = e.2 := by
  simp only [keyedRows, statics, List.filterMap_map, List.mem_filterMap, Function.comp_apply,
    rowOf_eq_some]

theorem statics_touch (tables : ConversationTables) (id : UUID) (now : Instant) :
    statics (touch tables id now) = statics tables := by
  unfold statics touch
  rw [List.map_map]
  exact List.map_congr_left fun s _ => touchSession_same id now s

theorem statics_insertMessage (tables : ConversationTables) (row : ChannelMessage) :
    statics (insertMessage tables row) = statics tables := by
  unfold insertMessage
  split <;> rfl

theorem statics_getOrCreate {normalized : InboundMessage} {id : UUID} {now : Instant}
    (fresh : id ∉ tables.sessions.map fun s => s.id) :
    statics (getOrCreateChannelConversation channel normalized tables id now) =
      match findConversation channel normalized tables with
      | some _ => statics tables
      | none =>
        statics tables ++ [(newConversation channel normalized id now).toConversationSession] := by
  unfold getOrCreateChannelConversation
  cases findConversation channel normalized tables with
  | some s => rfl
  | none =>
    dsimp only [insertSession]
    rw [dif_pos (by exact fresh)]
    simp only [statics, List.map_append, List.map_cons, List.map_nil]

theorem statics_routeMessage (texts : Chat.ChatTexts) (agentKey : String)
    (tables : ConversationTables) (i : Inbound) :
    statics (ChannelFiling.routeMessage texts agentKey channel tables i) =
      statics (getOrCreateChannelConversation channel (i.normalized channel) tables
        i.conversationId i.receivedAt) := by
  unfold ChannelFiling.routeMessage
  rw [statics_touch, statics_insertMessage, statics_insertMessage]

theorem statics_handle (stored : m.outcome ≠ .refused) :
    statics (handle texts channels tables m).2 =
      statics (getOrCreateChannelConversation (channels.record m.channelId)
        (m.inbound.normalized (channels.record m.channelId)) tables m.inbound.conversationId
        m.inbound.receivedAt) := by
  unfold handle
  cases ended : m.outcome with
  | refused => exact absurd ended stored
  | unanswered => exact statics_insertMessage _ _
  | answered => exact statics_routeMessage texts m.agentKey tables m.inbound

theorem handle_refused (refused : m.outcome = .refused) :
    handle texts channels tables m = (none, tables) := by
  unfold handle
  rw [refused]

theorem handle_stored (stored : m.outcome ≠ .refused) :
    (handle texts channels tables m).1 = some ((m.channelId, keyOf channels m),
      (filedIn (channels.record m.channelId) tables m.inbound).id) := by
  unfold handle
  cases ended : m.outcome with
  | refused => exact absurd ended stored
  | unanswered => rfl
  | answered => rfl

theorem rowOf_newConversation (channels : Channels) (m : Handled) :
    rowOf (newConversation (channels.record m.channelId)
        (m.inbound.normalized (channels.record m.channelId)) m.inbound.conversationId
        m.inbound.receivedAt).toConversationSession =
      some ((m.channelId, keyOf channels m), m.inbound.conversationId) := by
  rw [rowOf_eq_some]
  refine ⟨congrArg some (channels.record_id m.channelId), ?_, rfl⟩
  exact get_conversationKey _ _ _

theorem handle_assigns (fresh : DrawsNew tables m) :
    (handlingMachine texts channels).Assigns keyedRows tables m := by
  unfold Process.Machine.Assigns Process.Machine.next handlingMachine
  dsimp only
  by_cases refused : m.outcome = .refused
  · rw [handle_refused refused]
  · rw [handle_stored refused]
    have rows : keyedRows (handle texts channels tables m).2 =
        (statics (handle texts channels tables m).2).filterMap rowOf := rfl
    rw [rows, statics_handle refused, statics_getOrCreate fresh]
    unfold filedIn conversationFor
    cases found : findConversation (channels.record m.channelId)
        (m.inbound.normalized (channels.record m.channelId)) tables with
    | some s =>
      obtain ⟨stored, ofChannel, named⟩ := findConversation_some found
      rw [channels.record_id] at ofChannel
      exact .inl ⟨mem_keyedRows.mpr ⟨s, stored, ofChannel, named, rfl⟩, rfl⟩
    | none =>
      refine .inr ?_
      rw [List.filterMap_append, List.filterMap_cons, rowOf_newConversation]
      rfl

theorem kept_handle (kept : Kept channels tables) (fresh : DrawsNew tables m) :
    Kept channels (handle texts channels tables m).2 := by
  by_cases refused : m.outcome = .refused
  · rw [handle_refused refused]
    exact kept
  · unfold Kept
    rw [statics_handle refused, statics_getOrCreate fresh]
    split
    · exact kept
    · intro s mem channelId ofChannel
      cases List.mem_append.mp mem with
      | inl old => exact kept s old channelId ofChannel
      | inr new =>
        rw [List.mem_singleton.mp new] at ofChannel ⊢
        have same : m.channelId = channelId :=
          (channels.record_id m.channelId).symm.trans (Option.some.inj ofChannel)
        subst same
        exact ⟨rfl, rfl, rfl, _, get_conversationKey _ _ _⟩

theorem mem_channelConversations {s : ChannelConversation}
    (mem : s ∈ channelConversations channel tables) :
    s ∈ tables.sessions ∧ s.channelId = some channel.id := by
  have kept := List.mem_of_mem_take mem
  rw [(List.perm_insertionSort _ _).mem_iff, List.mem_filter] at kept
  simp only [Bool.and_eq_true, beq_iff_eq] at kept
  exact ⟨kept.1, kept.2.1.1.2⟩

theorem eq_of_id {s s' : ChannelConversation} (mem : s ∈ tables.sessions)
    (mem' : s' ∈ tables.sessions) (same : s.id = s'.id) : s = s' :=
  List.inj_on_of_nodup_map tables.keyed mem mem' same

theorem agrees_iff (fresh : DrawsNew tables m)
    (single : Process.Machine.Functional (keyedRows tables)) :
    (handlingMachine texts channels).Agrees keyedRows tables m ↔ InWindow channels tables m := by
  have answer : ((handlingMachine texts channels).step tables m).1 =
      (handle texts channels tables m).1 := rfl
  unfold Process.Machine.Agrees InWindow
  rw [answer]
  by_cases refused : m.outcome = .refused
  · rw [handle_refused refused]
    refine ⟨fun _ => .inl refused, fun _ e none => ?_⟩
    cases none
  · rw [handle_stored refused, or_iff_right refused]
    unfold filedIn conversationFor
    constructor
    · intro agrees s mem ofChannel named
      have same := agrees _ rfl s.id (mem_keyedRows.mpr ⟨s, mem, ofChannel, named, rfl⟩)
      cases found : findConversation (channels.record m.channelId)
          (m.inbound.normalized (channels.record m.channelId)) tables with
      | some s' =>
        rw [found] at same
        have looked := List.mem_of_find?_eq_some found
        rw [eq_of_id mem (mem_channelConversations looked).1 same]
        exact looked
      | none =>
        rw [found] at same
        exact absurd (List.mem_map.mpr ⟨s, mem, same⟩) fresh
    · intro inWindow e filed w row
      cases filed
      obtain ⟨s, mem, ofChannel, named, same⟩ := mem_keyedRows.mp row
      have looked := inWindow s mem ofChannel named
      cases found : findConversation (channels.record m.channelId)
          (m.inbound.normalized (channels.record m.channelId)) tables with
      | some s' =>
        obtain ⟨stored, ofChannel', named'⟩ := findConversation_some found
        rw [channels.record_id] at ofChannel'
        have row' : ((m.channelId, keyOf channels m), s'.id) ∈ keyedRows tables :=
          mem_keyedRows.mpr ⟨s', stored, ofChannel', named', rfl⟩
        exact single _ row _ row' rfl
      | none =>
        have passed := List.find?_eq_none.mp found s looked
        exact absurd (isText_iff.mpr named) passed

theorem inWindow_of_few (kept : Kept channels tables)
    (few : tables.sessions.countP (fun s => s.channelId == some m.channelId) ≤ 50) :
    InWindow channels tables m := by
  refine .inr fun s mem ofChannel _ => ?_
  unfold channelConversations
  rw [List.take_of_length_le]
  · rw [(List.perm_insertionSort _ _).mem_iff, List.mem_filter]
    obtain ⟨ofTenant, source, alive, _⟩ := kept _ (List.mem_map_of_mem mem) _ ofChannel
    refine ⟨mem, ?_⟩
    simp only [Bool.and_eq_true, beq_iff_eq, channels.record_id]
    exact ⟨⟨⟨ofTenant, ofChannel⟩, source⟩, Option.isNone_iff_eq_none.mpr alive⟩
  · rw [List.length_insertionSort, ← List.countP_eq_length_filter]
    refine (List.countP_mono_left fun s _ looked => ?_).trans few
    simp only [Bool.and_eq_true, channels.record_id] at looked
    exact looked.1.1.2

def OneConversation (texts : Chat.ChatTexts) (channels : Channels) (start : ConversationTables)
    (messages : List Handled) : Prop :=
  Process.Machine.Functional ((handlingMachine texts channels).assigned start messages) ∧
    Process.Machine.Functional (keyedRows ((handlingMachine texts channels).after start messages))

/-- Over every run of messages on any channels, a key has one conversation exactly when each
message finds that of its key, if there is one, among the fifty changed last. -/
theorem one_conversation_iff {start : ConversationTables} {messages : List Handled}
    (unused : ∀ s ∈ start.sessions, s.channelId = none)
    (fresh : (handlingMachine texts channels).Along DrawsNew start messages) :
    OneConversation texts channels start messages ↔
      (handlingMachine texts channels).Along (InWindow channels) start messages := by
  have kept : Kept channels start := by
    intro s mem channelId ofChannel
    obtain ⟨s', mem', rfl⟩ := List.mem_map.mp mem
    rw [unused s' mem'] at ofChannel
    cases ofChannel
  have empty : keyedRows start = [] := by
    apply List.eq_nil_iff_forall_not_mem.mpr
    intro e mem
    obtain ⟨s, stored, ofChannel, _⟩ := mem_keyedRows.mp mem
    rw [unused s stored] at ofChannel
    cases ofChannel
  exact Process.Machine.functional_iff_along
    (fun _ _ _ fresh => handle_assigns fresh)
    (fun _ _ kept fresh => kept_handle kept fresh)
    (fun _ _ _ fresh single => agrees_iff fresh single) kept fresh empty

def shops : Channels where
  record id := { shop with id := id }
  record_id _ := rfl

/-- A message under the key of a number, with the ids from `n` on. -/
def message (key n : Nat) : Handled where
  channelId := 2
  agentKey := "customer_service"
  inbound := inbound "ann" (String.ofList (Nat.toDigits 10 key)) n
  outcome := .unanswered

def busyRun : List Handled :=
  (List.range 51).map (fun key => message key (10 * key)) ++ [message 0 510]

theorem second_conversation_opened :
    ¬ ∀ (texts : Chat.ChatTexts) (channels : Channels) (start : ConversationTables)
      (messages : List Handled), (∀ s ∈ start.sessions, s.channelId = none) →
      (handlingMachine texts channels).Along DrawsNew start messages →
      OneConversation texts channels start messages := by
  intro claimed
  have fresh : (handlingMachine sampleTexts shops).Along DrawsNew noRows busyRun := by
    unfold DrawsNew
    decide +kernel
  have single := (claimed sampleTexts shops noRows busyRun (by simp [noRows]) fresh).1
  have ends : (((handlingMachine sampleTexts shops).assigned noRows busyRun).head?,
      ((handlingMachine sampleTexts shops).assigned noRows busyRun).getLast?) =
        (some ((2, "0"), 0), some ((2, "0"), 510)) := by decide +kernel
  obtain ⟨first, last⟩ := Prod.mk.inj ends
  exact absurd (single _ (List.mem_of_head? first) _ (List.mem_of_getLast? last) rfl) (by decide)

theorem kept_noRows : Kept channels noRows := fun _ mem => absurd mem List.not_mem_nil

theorem two_messages_share :
    OneConversation sampleTexts shops noRows [message 7 0, message 7 10] := by
  have fresh : (handlingMachine sampleTexts shops).Along DrawsNew noRows
      [message 7 0, message 7 10] := by
    unfold DrawsNew
    decide +kernel
  refine (one_conversation_iff (by simp [noRows]) fresh).mpr ⟨?_, ?_, trivial⟩
  · exact inWindow_of_few kept_noRows (by decide +kernel)
  · exact inWindow_of_few (kept_handle kept_noRows fresh.1) (by decide +kernel)

end AgentHive.ConversationKeys
