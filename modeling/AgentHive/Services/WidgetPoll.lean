import AgentHive.Process.Machine
import AgentHive.Services.PollPages

/-!
The web widget's loop of polls.

The widget keeps a cursor, and shows what a poll returns. The last page comes without a cursor,
so the widget asks for it again.
-/

namespace AgentHive.WidgetPoll

open ChannelPoll CursorPages

structure WidgetState where
  cursor : Option UUID := none
  hasMore : Bool := false
  polling : Bool := false
  pollTimer : Bool := false
  isOpen : Bool := false
  shown : List ChannelPollMessage := []

inductive Flight
  | idle
  | asked (after : Option UUID)
  | answered (data : ChannelPollResponse)

structure WidgetSystem where
  tables : ConversationTables
  widget : WidgetState := {}
  flight : Flight := .idle

/-- The rows of the server may change to others with `stored`. -/
inductive WidgetEvent
  | toggled
  | sent
  | timer
  | served
  | delivered
  | failed
  | stored (tables : ConversationTables)

structure WidgetConfig where
  lib : SecretLibrary
  store : ChannelStore
  tenantId : UUID
  channelId : UUID
  externalUserId : String
  conversationKey : String
  pollLimit : Int

namespace WidgetState

def schedulePoll (w : WidgetState) : WidgetState := { w with pollTimer := true }

def toggleOpen (w : WidgetState) : WidgetState :=
  if w.isOpen then { w with isOpen := false, pollTimer := false }
  else { w with isOpen := true }.schedulePoll

def receive (w : WidgetState) (data : ChannelPollResponse) : WidgetState :=
  { w with
    shown := w.shown ++ data.messages
    cursor := data.nextCursor.or w.cursor
    hasMore := data.hasMore }

def settle (w : WidgetState) : WidgetState :=
  let done := { w with polling := false }
  if done.isOpen then done.schedulePoll else done

end WidgetState

variable (config : WidgetConfig)

def WidgetConfig.key : Option String :=
  if config.conversationKey = "" then none else some config.conversationKey

def fetch (tables : ConversationTables) (after : Option UUID) : Except Exc ChannelPollResponse :=
  (pollChannelMessagesForTenant config.lib {} config.store tables config.tenantId config.channelId
    config.externalUserId config.key after config.pollLimit).1

def poll (s : WidgetSystem) : WidgetSystem :=
  if s.widget.polling || !s.widget.isOpen then s
  else { s with widget := { s.widget with polling := true }, flight := .asked s.widget.cursor }

def next (s : WidgetSystem) : WidgetEvent → WidgetSystem
  | .toggled => { s with widget := s.widget.toggleOpen }
  | .sent => { s with widget := s.widget.schedulePoll }
  | .timer =>
    if s.widget.pollTimer then poll { s with widget := { s.widget with pollTimer := false } }
    else s
  | .served =>
    match s.flight with
    | .asked after =>
      match fetch config s.tables after with
      | .ok data => { s with flight := .answered data }
      | .error _ => s
    | _ => s
  | .delivered =>
    match s.flight with
    | .answered data => { s with widget := (s.widget.receive data).settle, flight := .idle }
    | _ => s
  | .failed =>
    match s.flight with
    | .idle => s
    | _ => { s with widget := s.widget.settle, flight := .idle }
  | .stored tables => { s with tables := tables }

def widgetMachine : Process.Machine WidgetSystem WidgetEvent Unit where
  step s event := ((), next config s event)

def answerIds (tables : ConversationTables) : List UUID :=
  (reachable tables config.tenantId config.channelId config.externalUserId config.key).map
    fun r => r.id

def shownIds (s : WidgetSystem) : List UUID := s.widget.shown.map fun m => m.messageId

def Arrives (s : WidgetSystem) : WidgetEvent → Prop
  | .stored tables =>
    answerIds config s.tables <+: answerIds config tables ∧
      (answerIds config tables).Pairwise (· < ·)
  | _ => True

/-- The panel shows a beginning of the answers, each once, and a poll can still reach the
others. -/
structure ShownOnce (s : WidgetSystem) : Prop where
  once : (shownIds s).Nodup
  inOrder : shownIds s <+: answerIds config s.tables
  unlost : ∀ id ∈ answerIds config s.tables, id ∈ shownIds s ∨
    id ∈ remaining (fun id => id) (answerIds config s.tables) s.widget.cursor

def Fresh (s : WidgetSystem) : WidgetEvent → Prop
  | .delivered => ∀ data, s.flight = .answered data →
      ∀ id ∈ shownIds s, ∃ c ∈ s.widget.cursor, id ≤ c
  | _ => True

section Positions

variable {ids : List UUID} {c n : Nat} {after : Option UUID}

theorem take_lt_drop (sorted : ids.Pairwise (· < ·)) {a b : UUID} (early : a ∈ ids.take c)
    (late : b ∈ ids.drop c) : a < b := by
  rw [← List.take_append_drop c ids] at sorted
  exact (List.pairwise_append.mp sorted).2.2 a early b late

theorem le_last (sorted : ids.Pairwise (· < ·)) {a b : UUID} (mem : b ∈ ids)
    (last : ids.getLast? = some a) : b ≤ a := by
  obtain ⟨others, rfl⟩ := List.getLast?_eq_some_iff.mp last
  rcases List.mem_append.mp mem with before | same
  · exact ((List.pairwise_append.mp sorted).2.2 b before a List.mem_cons_self).le
  · exact (List.mem_singleton.mp same).le

theorem remaining_of_position (sorted : ids.Pairwise (· < ·))
    (position : after = (ids.take c).getLast?) :
    remaining (fun id => id) ids after = ids.drop c := by
  cases last : (ids.take c).getLast? with
  | none =>
    rw [position, last]
    have none := List.getLast?_eq_none_iff.mp last
    conv_lhs => rw [remaining, ← List.take_append_drop c ids, none]
    rfl
  | some a =>
    rw [position, last]
    have mem := List.mem_of_getLast? last
    refine filter_of_split (fun id => id) (fun b early => ?_) fun b late => ?_
    · exact le_last (sorted.sublist (List.take_sublist c ids)) early last
    · exact take_lt_drop sorted mem late

end Positions

structure PageOf (ids : List UUID) (after : Option UUID) (size : Nat)
    (data : ChannelPollResponse) : Prop where
  messages : (data.messages.map fun m => m.messageId) =
    (remaining (fun id => id) ids after).take size
  cursor : data.nextCursor =
    if size < (remaining (fun id => id) ids after).length then
      ((remaining (fun id => id) ids after).take size).getLast?
    else none

structure Following (s : WidgetSystem) : Prop where
  sorted : (answerIds config s.tables).Pairwise (· < ·)
  inOrder : shownIds s <+: answerIds config s.tables
  cursor : ∃ c, c ≤ (shownIds s).length ∧
    s.widget.cursor = ((answerIds config s.tables).take c).getLast?
  asked : ∀ after, s.flight = .asked after → after = s.widget.cursor
  answered : ∀ data, s.flight = .answered data → ∃ ids, shownIds s <+: ids ∧
    ids <+: answerIds config s.tables ∧ PageOf ids s.widget.cursor (pageSize config.pollLimit) data

variable {config}

theorem remaining_map (rows : List ChannelMessage) (after : Option UUID) :
    (remaining (fun r : ChannelMessage => r.id) rows after).map (fun r => r.id) =
      remaining (fun id => id) (rows.map fun r => r.id) after := by
  cases after with
  | none => rfl
  | some c => simp [remaining, List.filter_map, Function.comp_def]

variable {data : ChannelPollResponse}

theorem fetch_ok {tables : ConversationTables} {after : Option UUID}
    (fetched : fetch config tables after = .ok data) :
    PageOf (answerIds config tables) after (pageSize config.pollLimit) data := by
  rw [fetch, pollChannelMessagesForTenant] at fetched
  split at fetched
  · cases fetched
  · have shows := (answerPoll_ok fetched).1
    have ids := congrArg (List.map Prod.fst) shows.stamps
    simp only [List.map_map, Function.comp_def] at ids
    refine ⟨?_, ?_⟩
    · rw [ids, page, List.map_take, remaining_map]
      rfl
    · rw [shows.cursor, page, answerIds, ← remaining_map, ← List.map_take, List.getLast?_map,
        List.length_map]
      simp only [decide_eq_true_eq]

variable {s : WidgetSystem}

section

variable (following : Following config s)

include following

theorem Following.shownOnce : ShownOnce config s := by
  refine ⟨?_, following.inOrder, fun id mem => ?_⟩
  · exact (following.sorted.sublist following.inOrder.sublist).imp Nat.ne_of_lt
  · obtain ⟨c, within, position⟩ := following.cursor
    rw [remaining_of_position following.sorted position]
    rw [← List.take_append_drop c (answerIds config s.tables), List.mem_append] at mem
    refine mem.imp_left fun early => ?_
    rw [List.prefix_iff_eq_take.mp following.inOrder]
    exact (List.take_subset_take_left _ within) early

/-- While nothing is shown from beyond the cursor, it stands at the last answer shown. -/
theorem Following.settled (fresh : ∀ id ∈ shownIds s, ∃ c ∈ s.widget.cursor, id ≤ c) :
    s.widget.cursor = (shownIds s).getLast? := by
  obtain ⟨c, within, position⟩ := following.cursor
  obtain ⟨rest, whole⟩ := following.inOrder
  rcases Nat.lt_or_eq_of_le within with before | last
  · have some : (shownIds s).drop c ≠ [] := fun none => by
      have size := congrArg List.length none
      rw [List.length_drop, List.length_nil] at size
      omega
    obtain ⟨id, mem⟩ := List.exists_mem_of_ne_nil _ some
    have late : id ∈ (answerIds config s.tables).drop c := by
      rw [← whole, List.drop_append_of_le_length within]
      exact List.mem_append_left _ mem
    obtain ⟨a, stands, below⟩ := fresh id (List.mem_of_mem_drop mem)
    have early := List.mem_of_getLast? (position.symm.trans stands)
    exact absurd below (Nat.not_le_of_lt (take_lt_drop following.sorted early late))
  · rw [position, last, ← whole, List.take_left]

omit following in
theorem settle_shown (w : WidgetState) : w.settle.shown = w.shown ∧ w.settle.cursor = w.cursor := by
  unfold WidgetState.settle
  cases w.isOpen <;> exact ⟨rfl, rfl⟩

/-- A response that comes while the cursor stands at the last answer shown is shown after it. -/
theorem Following.received (answered : s.flight = .answered data)
    (fresh : ∀ id ∈ shownIds s, ∃ c ∈ s.widget.cursor, id ≤ c) :
    Following config { s with widget := (s.widget.receive data).settle, flight := .idle } := by
  have settled := following.settled fresh
  obtain ⟨ids, ⟨rest, shown⟩, stored, page⟩ := following.answered data answered
  have sorted := following.sorted.sublist stored.sublist
  have position : s.widget.cursor = (ids.take (shownIds s).length).getLast? := by
    rw [settled, ← shown, List.take_left]
  have left := remaining_of_position sorted position
  rw [← shown, List.drop_left, shown] at left
  have messages := page.messages
  have cursor := page.cursor
  rw [left] at messages cursor
  have now : ((s.widget.receive data).settle.shown.map fun m => m.messageId) =
      shownIds s ++ rest.take (pageSize config.pollLimit) := by
    rw [(settle_shown _).1, WidgetState.receive, List.map_append, messages]
    rfl
  have inOrder : shownIds s ++ rest.take (pageSize config.pollLimit) <+:
      answerIds config s.tables := by
    refine List.IsPrefix.trans ?_ stored
    rw [← shown]
    exact List.prefix_append_right_inj _ |>.mpr (List.take_prefix _ _)
  refine ⟨following.sorted, ?_, ?_, fun after asked => ?_, fun data answered => ?_⟩
  · rw [shownIds, now]
    exact inOrder
  · have next : (s.widget.receive data).settle.cursor =
        data.nextCursor.or (shownIds s).getLast? := by
      rw [(settle_shown _).2, WidgetState.receive, settled]
    rw [next, cursor, shownIds, now, List.length_append]
    split
    · refine ⟨_, Nat.le_refl _, ?_⟩
      rw [← List.length_append, ← List.prefix_iff_eq_take.mp inOrder, List.getLast?_append]
    · refine ⟨_, Nat.le_add_right _ _, ?_⟩
      rw [← List.prefix_iff_eq_take.mp following.inOrder]
      rfl
  · cases asked
  · cases answered

theorem Following.repeated (answered : s.flight = .answered data)
    (stale : ¬ ∀ id ∈ shownIds s, ∃ c ∈ s.widget.cursor, id ≤ c) :
    ¬ (shownIds { s with widget := (s.widget.receive data).settle, flight := .idle }).Nodup := by
  obtain ⟨c, within, position⟩ := following.cursor
  obtain ⟨ids, ⟨rest, shown⟩, stored, page⟩ := following.answered data answered
  have sorted := following.sorted.sublist stored.sublist
  have position' : s.widget.cursor = (ids.take c).getLast? := by
    obtain ⟨more, whole⟩ := stored
    rw [position, ← whole, List.take_append_of_le_length]
    rw [← shown, List.length_append]
    omega
  have left := remaining_of_position sorted position'
  have behind : c < (shownIds s).length := by
    refine Nat.lt_of_le_of_ne within fun last => stale fun id mem => ?_
    rw [last, ← List.prefix_iff_eq_take.mp following.inOrder] at position
    obtain ⟨a, ends⟩ := Option.ne_none_iff_exists'.mp fun none =>
      List.ne_nil_of_mem mem (List.getLast?_eq_none_iff.mp none)
    refine ⟨a, position.trans ends, le_last ?_ mem ends⟩
    exact following.sorted.sublist following.inOrder.sublist
  obtain ⟨id, others, first⟩ := List.exists_cons_of_length_pos (l := (shownIds s).drop c) (by
    rw [List.length_drop]
    omega)
  have old : id ∈ shownIds s := List.mem_of_mem_drop (first ▸ List.mem_cons_self)
  have again : id ∈ data.messages.map fun m => m.messageId := by
    have pos : 0 < pageSize config.pollLimit := pageSize_pos
    obtain ⟨n, size⟩ := Nat.exists_eq_succ_of_ne_zero (Nat.pos_iff_ne_zero.mp pos)
    rw [page.messages, left, ← shown, List.drop_append_of_le_length within, first, size]
    exact List.mem_cons_self
  intro distinct
  rw [shownIds, (settle_shown _).1, WidgetState.receive, List.map_append,
    List.nodup_append] at distinct
  exact distinct.2.2 id old id again rfl

omit following in
theorem toggleOpen_shown (w : WidgetState) :
    w.toggleOpen.shown = w.shown ∧ w.toggleOpen.cursor = w.cursor := by
  unfold WidgetState.toggleOpen
  cases w.isOpen <;> exact ⟨rfl, rfl⟩

theorem Following.same {s' : WidgetSystem}
    (tables : s'.tables = s.tables) (shown : s'.widget.shown = s.widget.shown)
    (cursor : s'.widget.cursor = s.widget.cursor)
    (flight : s'.flight = s.flight ∨ s'.flight = .idle) : Following config s' := by
  have ids : shownIds s' = shownIds s := by
    rw [shownIds, shown]
    rfl
  obtain ⟨sorted, inOrder, position, asked, answered⟩ := following
  rw [← tables, ← ids] at inOrder position answered
  rw [← cursor] at position asked answered
  rw [← tables] at sorted
  rcases flight with same | idle
  · rw [← same] at asked answered
    exact ⟨sorted, inOrder, position, asked, answered⟩
  · refine ⟨sorted, inOrder, position, fun after eq => ?_, fun data eq => ?_⟩
    · rw [idle] at eq
      cases eq
    · rw [idle] at eq
      cases eq

theorem Following.polls : Following config (poll s) := by
  rw [poll]
  split
  · exact following
  · refine ⟨following.sorted, following.inOrder, following.cursor, fun after asked => ?_,
      fun data answered => ?_⟩
    · cases asked
      rfl
    · cases answered

theorem Following.arrives {tables : ConversationTables}
    (grows : answerIds config s.tables <+: answerIds config tables)
    (sorted : (answerIds config tables).Pairwise (· < ·)) :
    Following config { s with tables := tables } := by
  refine ⟨sorted, following.inOrder.trans grows, ?_, following.asked, fun data answered => ?_⟩
  · obtain ⟨c, within, position⟩ := following.cursor
    obtain ⟨more, whole⟩ := grows
    refine ⟨c, within, position.trans ?_⟩
    rw [← whole, List.take_append_of_le_length]
    exact within.trans following.inOrder.length_le
  · obtain ⟨ids, shown, stored, page⟩ := following.answered data answered
    exact ⟨ids, shown, stored.trans grows, page⟩

theorem Following.next {event : WidgetEvent}
    (arrives : Arrives config s event) (fresh : Fresh s event) :
    Following config (next config s event) := by
  cases event with
  | toggled =>
    obtain ⟨shown, cursor⟩ := toggleOpen_shown s.widget
    exact following.same rfl shown cursor (.inl rfl)
  | sent => exact following.same rfl rfl rfl (.inl rfl)
  | timer =>
    rw [WidgetPoll.next]
    split
    · apply Following.polls
      exact following.same rfl rfl rfl (.inl rfl)
    · exact following
  | served =>
    rw [WidgetPoll.next]
    split
    · rename_i after asked
      split
      · rename_i data fetched
        have page := fetch_ok fetched
        rw [following.asked after asked] at page
        refine ⟨following.sorted, following.inOrder, following.cursor, fun after eq => ?_,
          fun data eq => ?_⟩
        · cases eq
        · cases eq
          exact ⟨_, following.inOrder, List.prefix_rfl, page⟩
      · exact following
    · exact following
  | delivered =>
    rw [WidgetPoll.next]
    split
    · rename_i data answered
      exact following.received answered (fresh data answered)
    · exact following
  | failed =>
    rw [WidgetPoll.next]
    split
    · exact following
    · obtain ⟨shown, cursor⟩ := settle_shown s.widget
      exact following.same rfl shown cursor (.inr rfl)
  | stored tables => exact following.arrives arrives.1 arrives.2

omit following in
theorem next_shows (s : WidgetSystem) (event : WidgetEvent) :
    shownIds s <+: shownIds (next config s event) := by
  cases event with
  | toggled =>
    rw [next, shownIds, shownIds, (toggleOpen_shown s.widget).1]
  | sent => exact List.prefix_rfl
  | timer =>
    rw [next]
    split
    · rw [poll]
      split
      · exact List.prefix_rfl
      · exact List.prefix_rfl
    · exact List.prefix_rfl
  | served =>
    rw [next]
    split
    · split
      · exact List.prefix_rfl
      · exact List.prefix_rfl
    · exact List.prefix_rfl
  | delivered =>
    rw [next]
    split
    · rw [shownIds, shownIds, (settle_shown _).1, WidgetState.receive, List.map_append]
      exact List.prefix_append _ _
    · exact List.prefix_rfl
  | failed =>
    rw [next]
    split
    · exact List.prefix_rfl
    · rw [shownIds, shownIds, (settle_shown s.widget).1]
  | stored tables => exact List.prefix_rfl

omit following in
theorem nodup_of_after {events : List WidgetEvent}
    (distinct : (shownIds ((widgetMachine config).after s events)).Nodup) : (shownIds s).Nodup := by
  induction events generalizing s with
  | nil => exact distinct
  | cons event rest ih => exact (ih distinct).sublist (next_shows s event).sublist

theorem Following.unfresh {event : WidgetEvent}
    (stale : ¬ Fresh s event) : ¬ (shownIds (WidgetPoll.next config s event)).Nodup := by
  cases event with
  | delivered =>
    rw [WidgetPoll.next]
    split
    · rename_i data answered
      refine following.repeated answered fun fresh => stale fun data' answered' => ?_
      exact fresh
    · rename_i idle
      exact absurd (fun data answered => absurd answered (idle data)) stale
  | _ => exact absurd trivial stale

theorem Following.shownOnce_iff {events : List WidgetEvent}
    (arrivals : (widgetMachine config).Along (Arrives config) s events) :
    ShownOnce config ((widgetMachine config).after s events) ↔
      (widgetMachine config).Along Fresh s events := by
  induction events generalizing s with
  | nil => exact ⟨fun _ => trivial, fun _ => following.shownOnce⟩
  | cons event rest ih =>
    by_cases fresh : Fresh s event
    · have later := ih (following.next arrivals.1 fresh) arrivals.2
      exact later.trans ⟨fun along => ⟨fresh, along⟩, fun along => along.2⟩
    · refine ⟨fun shown => ?_, fun along => absurd along.1 fresh⟩
      have once := shown.once
      rw [Process.Machine.after_cons] at once
      exact absurd (nodup_of_after once) (following.unfresh fresh)

end

/-- Over every run in which answers come in with increasing ids, the panel shows them each once
just where no response comes while something is shown from beyond the cursor. -/
theorem shown_once_iff (tables : ConversationTables)
    (sorted : (answerIds config tables).Pairwise (· < ·)) (events : List WidgetEvent)
    (arrivals : (widgetMachine config).Along (Arrives config) { tables := tables } events) :
    ShownOnce config ((widgetMachine config).after { tables := tables } events) ↔
      (widgetMachine config).Along Fresh { tables := tables } events := by
  have following : Following config { tables := tables } :=
    { sorted := sorted
      inOrder := List.nil_prefix
      cursor := ⟨0, Nat.le_refl _, rfl⟩
      asked := fun after asked => by cases asked
      answered := fun data answered => by cases answered }
  exact following.shownOnce_iff arrivals

def annWidget : WidgetConfig where
  lib := plainSecrets
  store := shopStore
  tenantId := 1
  channelId := 2
  externalUserId := "ann"
  conversationKey := "k"
  pollLimit := 50

def onePoll : List WidgetEvent := [.timer, .served, .delivered]

theorem last_page_is_shown_again :
    ¬ ∀ (config : WidgetConfig) (tables : ConversationTables) (events : List WidgetEvent),
      (answerIds config tables).Pairwise (· < ·) →
      (widgetMachine config).Along (Arrives config) { tables := tables } events →
      ShownOnce config ((widgetMachine config).after { tables := tables } events) := by
  intro claimed
  have once := (claimed annWidget (twoAnswers 1 2 one_ne_two) (.toggled :: onePoll ++ onePoll)
    (by decide) ⟨trivial, trivial, trivial, trivial, trivial, trivial, trivial, trivial⟩).once
  have shown : shownIds ((widgetMachine annWidget).after { tables := twoAnswers 1 2 one_ne_two }
      (.toggled :: onePoll ++ onePoll)) = [1, 2, 1, 2] := by
    rfl
  rw [shown] at once
  exact absurd once (by decide)

theorem noAnswers_keyed : ([annConversation].map fun s => s.id).Nodup := List.nodup_singleton _

theorem noAnswers_distinct : (([] : List ChannelMessage).map fun m => m.id).Nodup := List.nodup_nil

def noAnswers : ConversationTables where
  sessions := [annConversation]
  messages := []
  keyed := noAnswers_keyed
  distinct := noAnswers_distinct

theorem first_page_is_shown_once :
    ShownOnce annWidget ((widgetMachine annWidget).after { tables := noAnswers }
      (.toggled :: .stored (twoAnswers 1 2 one_ne_two) :: onePoll)) := by
  refine (shown_once_iff noAnswers List.Pairwise.nil _ ?_).mpr ?_
  · exact ⟨trivial, ⟨List.nil_prefix, by decide⟩, trivial, trivial, trivial, trivial⟩
  · refine ⟨trivial, trivial, trivial, trivial, fun data answered id shown => ?_, trivial⟩
    cases shown

end AgentHive.WidgetPoll
