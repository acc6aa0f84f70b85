import AgentHive.Llm.StreamChat

/-!
How a run of `stream_chat` closes its reservation.
-/

namespace AgentHive.LLMGateway

def pricedStreams (gateway : LLMGateway) (t : Trace) : List CompletedStream :=
  (completedStreams t).filter gateway.isPriced

structure Settles (gateway : LLMGateway) (reservation : BudgetReservation) (t : Trace)
    (closed : Bool) (streams : List CompletedStream) : Prop where
  completed : ∀ u, completedStreams (t ++ u) = streams ++ completedStreams u
  rows : terminals t =
    (streams.filter gateway.isPriced).flatMap fun _ => gateway.budget.closing .settle reservation
  closed : closed = streams.any gateway.isPriced

namespace Settles

variable {gateway : LLMGateway} {reservation : BudgetReservation} {t u : Trace}
  {closed closed' : Bool} {streams streams' : List CompletedStream}

theorem nothing (opens : ∀ e ∈ t, opensStream e.1 = false) (rows : terminals t = []) :
    Settles gateway reservation t false [] :=
  ⟨completedStreams_append opens, rows, rfl⟩

theorem append (first : Settles gateway reservation t closed streams)
    (rest : Settles gateway reservation u closed' streams') :
    Settles gateway reservation (t ++ u) (closed || closed') (streams ++ streams') where
  completed v := by
    rw [List.append_assoc, first.completed, rest.completed, List.append_assoc]
  rows := by
    rw [terminals_append, first.rows, rest.rows, List.filter_append, List.flatMap_append]
  closed := by rw [first.closed, rest.closed, List.any_append]

end Settles

section

variable {gateway : LLMGateway} {request : LLMChatRequest} {context : LLMRequestContext}
  {reservation : BudgetReservation} {t : Trace} {r : Except Exc Unit}

theorem Forwarded.no_terminals {deltas : List String} {finish : StreamEnd}
    (forwarded : Forwarded deltas finish t r) : terminals t = [] := by
  refine List.filterMap_eq_nil_iff.mpr ?_
  intro e mem
  obtain ⟨delta, resume, rfl⟩ := forwarded.yields e mem
  rfl

variable {route : RouteSelection} {closed : Bool}

theorem StreamSettled.settles {content : String}
    (settled : StreamSettled gateway request context reservation route content t r closed)
    (quiet : ∀ e ∈ t, isBudgetFault e = false) :
    (∀ e ∈ t, opensStream e.1 = false) ∧
      closed = (gateway.streamUsage request content route.deployment.modelKey).isOk ∧
      terminals t = if closed then gateway.budget.closing .settle reservation else [] := by
  cases settled with
  | unpriced failed => simp [failed, Except.isOk, Except.toBool]
  | unsettled priced run =>
    obtain ⟨a, impossible⟩ := (run.quiet quiet).1
    cases impossible
  | uncommitted priced run =>
    obtain ⟨before, _⟩ := List.forall_mem_append.mp quiet
    refine ⟨List.forall_mem_append.mpr ⟨run.opensNone, by simp [opensStream]⟩, ?_, ?_⟩
    · simp [priced, Except.isOk, Except.toBool]
    · simp [(run.quiet before).2, terminalOf]
  | committed priced run =>
    obtain ⟨before, _⟩ := List.forall_mem_append.mp quiet
    refine ⟨List.forall_mem_append.mpr ⟨run.opensNone, by simp [opensStream]⟩, ?_, ?_⟩
    · simp [priced, Except.isOk, Except.toBool]
    · simp [(run.quiet before).2, terminalOf]

theorem StreamAttempt.settles
    (attempt : StreamAttempt gateway request context reservation route t r closed)
    (quiet : ∀ e ∈ t, isBudgetFault e = false) :
    ∃ streams, Settles gateway reservation t closed streams := by
  cases attempt with
  | unsupported => exact ⟨[], .nothing (by simp) rfl⟩
  | broken forwarded =>
    refine ⟨[], fun u => ?_, ?_, rfl⟩
    · rw [List.cons_append, forwarded.completedStreams]
      simp
    · simp [forwarded.no_terminals, terminalOf]
  | @completed deltas finish t u _ _ forwarded settled =>
    simp only [List.forall_mem_cons, List.forall_mem_append] at quiet
    obtain ⟨opens, closes, rows⟩ := settled.settles quiet.2.2.2
    refine ⟨[⟨route, request, deltas⟩], fun v => ?_, ?_, ?_⟩
    · rw [List.cons_append, List.append_assoc, forwarded.completedStreams, if_pos rfl]
      refine congrArg _ (completedStreams_append ?_ v)
      exact List.forall_mem_cons.mpr ⟨rfl, opens⟩
    · simp only [terminals_cons, terminals_append, forwarded.no_terminals, rows, terminalOf,
        Option.toList_none, List.nil_append]
      rw [closes]
      cases priced : gateway.isPriced ⟨route, request, deltas⟩ <;>
        simp_all [isPriced]
    · simp [closes, isPriced]

theorem StreamFailed.settles {x : Exc} (failed : StreamFailed context route x t r) :
    Settles gateway reservation t false [] := by
  cases failed with
  | uncommitted | fellBack | yielded => exact .nothing (by simp [opensStream]) rfl

theorem StreamLoop.settles {routes : List RouteSelection} {open_ left : Bool}
    (loop : StreamLoop gateway request context reservation routes open_ t r left)
    (quiet : ∀ e ∈ t, isBudgetFault e = false) :
    ∃ closed streams, Settles gateway reservation t closed streams ∧ left = (open_ && !closed) := by
  induction loop with
  | exhausted => exact ⟨false, [], .nothing (by simp) rfl, by simp⟩
  | answered attempt | escaped attempt =>
    obtain ⟨streams, settles⟩ := attempt.settles quiet
    exact ⟨_, streams, settles, rfl⟩
  | failed attempt ordinary plain handled =>
    obtain ⟨before, _⟩ := List.forall_mem_append.mp quiet
    obtain ⟨streams, settles⟩ := attempt.settles before
    exact ⟨_, _, settles.append handled.settles, by simp⟩
  | next attempt ordinary plain handled loop ih =>
    obtain ⟨before, after⟩ := List.forall_mem_append.mp quiet
    obtain ⟨streams, settles⟩ := attempt.settles (List.forall_mem_append.mp before).1
    obtain ⟨closed, others, rest, left⟩ := ih after
    refine ⟨_, _, (settles.append handled.settles).append rest, ?_⟩
    rw [left]
    simp [Bool.and_assoc]

theorem settles_prelude (steps : ∀ e ∈ t, isPrelude e.1 = true) :
    Settles gateway reservation t false [] := by
  refine .nothing ?_ (terminals_prelude steps)
  intro e mem
  obtain ⟨effect, answer⟩ := e
  have step := steps _ mem
  cases effect <;> first | rfl | cases step

theorem StreamHandled.releases {held : Option BudgetReservation} {x y : Exc} {left : Bool}
    (handled : StreamHandled gateway held x left t y) (quiet : ∀ e ∈ t, isBudgetFault e = false) :
    (∀ e ∈ t, opensStream e.1 = false) ∧
      terminals t = if left then gateway.releasing held else [] := by
  cases handled with
  | closed => exact ⟨by simp, rfl⟩
  | unreleased run =>
    obtain ⟨a, impossible⟩ := (run.guarded.quiet quiet).1
    cases impossible
  | released run => exact ⟨run.guarded.opensNone, by simp [(run.guarded.quiet quiet).2]⟩

theorem StreamBody.settles {held : Option BudgetReservation} {left : Bool}
    (body : StreamBody gateway request context t r held left) (mem : reservation ∈ reservations t)
    (approved : reservation.approved = true) (quiet : ∀ e ∈ t, isBudgetFault e = false) :
    ∃ closed streams, Settles gateway reservation t closed streams ∧ left = !closed ∧
      held = some reservation := by
  cases body with
  | stopped authorized =>
    rw [authorized.not_approved mem] at approved
    cases approved
  | unplanned authorized planned =>
    obtain ⟨_, one⟩ := authorized.planned_prelude planned
    rw [one, List.mem_singleton] at mem
    subst mem
    exact ⟨_, _, (settles_prelude authorized.prelude.1).append
      (settles_prelude planned.prelude.1), rfl, rfl⟩
  | looped authorized planned loop =>
    obtain ⟨_, one⟩ := authorized.planned_prelude planned
    rw [reservations_append, one, reservations_later loop.later, List.append_nil,
      List.mem_singleton] at mem
    subst mem
    obtain ⟨closed, streams, settles, left⟩ :=
      loop.settles (List.forall_mem_append.mp quiet).2
    exact ⟨_, _, ((settles_prelude authorized.prelude.1).append
      (settles_prelude planned.prelude.1)).append settles, by simp [left], rfl⟩

theorem Settles.pricedStreams {streams : List CompletedStream}
    (settles : Settles gateway reservation t closed streams) :
    gateway.pricedStreams t = streams.filter gateway.isPriced ∧
      (gateway.pricedStreams t).isEmpty = !closed := by
  have all := settles.completed []
  rw [List.append_nil, completedStreams, List.append_nil] at all
  refine ⟨by rw [LLMGateway.pricedStreams, all], ?_⟩
  rw [LLMGateway.pricedStreams, all, settles.closed, Bool.eq_iff_iff]
  simp

theorem Settles.pricedStreams_append {u : Trace} {streams : List CompletedStream}
    (settles : Settles gateway reservation t closed streams)
    (opens : ∀ e ∈ u, opensStream e.1 = false) :
    gateway.pricedStreams (t ++ u) = gateway.pricedStreams t := by
  have none := completedStreams_append opens []
  rw [List.append_nil] at none
  have all := settles.completed []
  rw [List.append_nil] at all
  rw [LLMGateway.pricedStreams, LLMGateway.pricedStreams, settles.completed, none, all]

theorem StreamRun.terminals_eq (run : StreamRun gateway request context t r)
    (mem : reservation ∈ reservations t) (approved : reservation.approved = true)
    (quiet : ∀ e ∈ t, isBudgetFault e = false) :
    terminals t =
      ((gateway.pricedStreams t).flatMap fun _ => gateway.budget.closing .settle reservation) ++
        if (gateway.pricedStreams t).isEmpty then gateway.budget.closing .release reservation
        else [] := by
  cases run with
  | returned body =>
    obtain ⟨closed, streams, settles, left, _⟩ := body.settles mem approved quiet
    obtain ⟨priced, empty⟩ := settles.pricedStreams
    have done : closed = true := by
      cases body with
      | looped authorized planned loop => simpa [loop.returned_closed] using left
    rw [empty, priced, settles.rows, done]
    simp
  | raised body handler =>
    obtain ⟨before, after⟩ := List.forall_mem_append.mp quiet
    rw [reservations_append, reservations_bookkeeping handler.bookkeeping, List.append_nil] at mem
    obtain ⟨closed, streams, settles, rfl, rfl⟩ := body.settles mem approved before
    obtain ⟨opens, released⟩ := handler.releases after
    obtain ⟨priced, empty⟩ := settles.pricedStreams
    have same := settles.pricedStreams_append opens
    rw [same, empty, priced, terminals_append, settles.rows, released]
    rfl

/-- Every budget scope has one terminal row: a settlement when a stream was
completed, and a release otherwise. -/
def ClosedOnce (reservation : BudgetReservation) (t : Trace) : Prop :=
  terminals t = reservation.budgetScopes.map fun scope =>
    (if (completedStreams t).isEmpty then LedgerEvent.release else .settle, scope)

instance (reservation : BudgetReservation) (t : Trace) : Decidable (ClosedOnce reservation t) :=
  inferInstanceAs (Decidable (_ = _))

/-- Where the budget steps succeed, an approved reservation is closed once
exactly when no stream was completed, or exactly one that could be priced. -/
theorem stream_reservation_closed_once_iff {t : Trace} {r : Except Exc Unit}
    (run : Process.Program.Runs (gateway.streamChat request context) t r)
    (mem : reservation ∈ reservations t) (approved : reservation.approved = true)
    (sessionless : gateway.budget.hasSession = false → reservation.budgetScopes = [])
    (quiet : ∀ e ∈ t, isBudgetFault e = false) :
    ClosedOnce reservation t ↔
      reservation.budgetScopes = [] ∨ completedStreams t = [] ∨
        (gateway.pricedStreams t).length = 1 := by
  have rows := (stream_run run).terminals_eq mem approved quiet
  rw [gateway.budget.closing_of_approved approved sessionless,
    gateway.budget.closing_of_approved approved sessionless] at rows
  rw [ClosedOnce, rows]
  cases scopes : reservation.budgetScopes with
  | nil => simp
  | cons scope rest =>
    cases completed : completedStreams t with
    | nil => simp [pricedStreams, completed]
    | cons stream others =>
      match priced : gateway.pricedStreams t with
      | [] => simp
      | [one] => simp
      | one :: two :: more =>
        -- two settlements are longer than the list of scopes
        simp only [List.isEmpty_cons, Bool.false_eq_true, if_false, List.append_nil,
          List.flatMap_cons, reduceCtorEq, List.length_cons, false_or]
        constructor
        · intro same
          have lengths := congrArg List.length same
          simp only [List.length_append, List.length_map, List.length_cons] at lengths
          omega
        · intro one
          omega

end

def silentThenLost : (e : Effect) → Answer e
  | .adapterStream _ _ _ => ([], .finished)
  | e => lostSuccessRow e

theorem empty_stream_settled_twice :
    ∃ t r, Process.Program.Runs (twoRouteGateway.streamChat helloRequest tenantContext) t r ∧
      heldReservation ∈ reservations t ∧ heldReservation.approved = true ∧
      (∀ e ∈ t, isBudgetFault e = false) ∧
      terminals t = [(.settle, tenantBudget), (.settle, tenantBudget)] ∧
      ¬ ClosedOnce heldReservation t := by
  refine ⟨_, _, Process.Program.follow_runs silentThenLost _, ?_⟩
  decide +kernel

theorem quiet_stream_closed_once :
    ClosedOnce heldReservation
      ((defaultGateway.streamChat helloRequest tenantContext).follow quiet).1 :=
  (stream_reservation_closed_once_iff (Process.Program.follow_runs quiet _) (by decide +kernel) rfl
    (fun _ => by contradiction) (by decide +kernel)).mpr (.inr (.inr (by decide +kernel)))

end AgentHive.LLMGateway
