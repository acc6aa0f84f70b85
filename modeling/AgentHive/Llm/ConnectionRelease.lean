import AgentHive.Llm.ConnectionRuns

/-!
How a run of `test_connection` closes its reservation.

Nothing is settled. The reservation is released once, unless the run is
cancelled inside the loop or the row of a routing error is lost: no handler
releases after either.
-/

namespace AgentHive

open List (append_nil forall_mem_append forall_mem_cons)

/-- A step after which no handler releases: a cancellation inside the loop, or
the lost row of a routing error. -/
def leavesOpen : CallEvent → Bool
  | ⟨.adapterTest _ _, .error x⟩ => !x.isException
  | ⟨.recordUsage record _, .error f⟩ =>
    f == .cancelled && record.metadata.get "operation" == .str "test_connection" ||
      record.metadata.get "operation" == .str "connection_route_planning"
  | _ => false

theorem closes_of_prelude {t : Trace} (steps : ∀ e ∈ t, isPrelude e.1 = true) :
    ∀ e ∈ t, leavesOpen e = false := by
  intro e mem
  obtain ⟨effect, answer⟩ := e
  have step := steps _ mem
  cases effect <;> first | rfl | cases step

theorem GuardRun.closes {α : Type} {rows : List Terminal} {t : Trace} {r : Except Exc α}
    (run : GuardRun rows t r) : ∀ e ∈ t, leavesOpen e = false := by
  intro e mem
  obtain ⟨effect, answer⟩ := e
  have step := run.steps _ mem
  cases effect <;> first | rfl | cases step

theorem GuardRun.returned {α : Type} {rows : List Terminal} {t : Trace} {x : Exc}
    (run : GuardRun rows t (.error x : Except Exc α)) (quiet : ∀ e ∈ t, isBudgetFault e = false) :
    False := by
  obtain ⟨a, impossible⟩ := (run.quiet quiet).1
  cases impossible

namespace LLMGateway

open UsageCollector

def Released (gateway : LLMGateway) (reservation : BudgetReservation) (t : Trace) : Prop :=
  terminals t = gateway.budget.closing .release reservation ∧ ∀ e ∈ t, leavesOpen e = false

def Pending (t : Trace) (x : Exc) : Prop :=
  terminals t = [] ∧ ((∀ e ∈ t, leavesOpen e = false) ↔ x.isException = true)

def Idle (t : Trace) : Prop :=
  terminals t = [] ∧ ∀ e ∈ t, leavesOpen e = false

section

variable {gateway : LLMGateway} {request : ConnectionTestRequest} {context : LLMRequestContext}
  {reservation : BudgetReservation} {t u : Trace}

theorem Idle.nil : Idle [] := ⟨rfl, by simp⟩

theorem Idle.cons {e : CallEvent} (row : terminalOf e = none) (closed : leavesOpen e = false)
    (rest : Idle t) : Idle (e :: t) := by
  refine ⟨?_, forall_mem_cons.mpr ⟨closed, rest.2⟩⟩
  rw [terminals_cons, row, rest.1]
  rfl

theorem Idle.append (first : Idle t) (rest : Idle u) : Idle (t ++ u) := by
  refine ⟨?_, forall_mem_append.mpr ⟨first.2, rest.2⟩⟩
  rw [terminals_append, first.1, rest.1, append_nil]

theorem Idle.released (first : Idle t) (rest : Released gateway reservation u) :
    Released gateway reservation (t ++ u) := by
  refine ⟨?_, forall_mem_append.mpr ⟨first.2, rest.2⟩⟩
  rw [terminals_append, first.1, rest.1, List.nil_append]

theorem Released.then_idle (first : Released gateway reservation t) (rest : Idle u) :
    Released gateway reservation (t ++ u) := by
  refine ⟨?_, forall_mem_append.mpr ⟨first.2, rest.2⟩⟩
  rw [terminals_append, first.1, rest.1, append_nil]

variable {x : Exc}

theorem Idle.pending (first : Idle t) (rest : Pending u x) : Pending (t ++ u) x := by
  refine ⟨?_, ?_⟩
  · rw [terminals_append, first.1, rest.1, append_nil]
  · rw [forall_mem_append, ← rest.2]
    exact and_iff_right first.2

theorem idle_of_prelude (steps : ∀ e ∈ t, isPrelude e.1 = true) : Idle t :=
  ⟨terminals_prelude steps, closes_of_prelude steps⟩

theorem GuardRun.released {a : Unit}
    (run : GuardRun (gateway.budget.closing .release reservation) t (.ok a : Except Exc Unit))
    (quiet : ∀ e ∈ t, isBudgetFault e = false) : Released gateway reservation t :=
  ⟨(run.quiet quiet).2, run.closes⟩

theorem probeReport_idle (route : RouteSelection) (result : ConnectionTestResult) :
    terminalOf (probeReport route result) = none ∧
      leavesOpen (probeReport route result) = false := by
  rw [probeReport]
  cases result.ok <;> exact ⟨rfl, rfl⟩

theorem probed_idle (route : RouteSelection) (result : ConnectionTestResult) :
    Idle [⟨.adapterTest route request, .ok result⟩, probeReport route result] := by
  obtain ⟨row, closed⟩ := probeReport_idle route result
  exact .cons rfl rfl (.cons row closed .nil)

variable {route : RouteSelection}

theorem ConnectionAttempt.answered_releases {result : ConnectionTestResult}
    (attempt : ConnectionAttempt gateway request context reservation route t (.ok (some result)))
    (quiet : ∀ e ∈ t, isBudgetFault e = false) : Released gateway reservation t := by
  cases attempt with
  | @released probe _ u decided run =>
    have after : ∀ e ∈ u, isBudgetFault e = false := fun e mem => quiet e (by simp [mem])
    have stored : Idle [⟨.recordUsage (connectionTestRecord context route result) context,
        .ok ()⟩] :=
      .cons rfl rfl .nil
    exact (probed_idle route probe).released (stored.released (GuardRun.released run after))

theorem ConnectionAttempt.idle
    (attempt : ConnectionAttempt gateway request context reservation route t (.ok none)) :
    Idle t := by
  cases attempt with
  | failedProbe more => exact (probed_idle route _).append (.cons rfl rfl .nil)

theorem ConnectionAttempt.pending
    (attempt : ConnectionAttempt gateway request context reservation route t (.error x))
    (quiet : ∀ e ∈ t, isBudgetFault e = false) : Pending t x := by
  cases attempt with
  | unsupported failed => exact ⟨rfl, by simp [isException_of_isHttp (adapterFor_error failed)]⟩
  | refused => exact ⟨rfl, by simp [leavesOpen]⟩
  | @uncommitted result enriched f =>
    refine (probed_idle route result).pending ⟨rfl, ?_⟩
    cases f <;> simp [leavesOpen, connectionTestRecord, Dict.get, Fault.toExc, Exc.isException]
  | @unreleased result enriched u x decided run =>
    exact (run.returned fun e mem => quiet e (by simp [mem])).elim

variable {held : Option BudgetReservation} {recorded : Bool}

theorem AttemptFailed.idle {stop : Bool}
    (failed : AttemptFailed gateway context "test_connection" reservation route x stop t (.ok ())
      held recorded) : Idle t := by
  cases failed with
  | fellBack row more => exact ⟨rfl, by simp [leavesOpen]⟩

def LoopRaised (gateway : LLMGateway) (reservation : BudgetReservation) (t : Trace) (x : Exc)
    (held : Option BudgetReservation) (recorded : Bool) : Prop :=
  (Released gateway reservation t ∧ x.isException = true ∧ held = none ∧ recorded = true) ∨
    (Pending t x ∧ held = some reservation ∧ recorded = false)

theorem Idle.raised (first : Idle t) (rest : LoopRaised gateway reservation u x held recorded) :
    LoopRaised gateway reservation (t ++ u) x held recorded :=
  rest.imp (fun h => ⟨first.released h.1, h.2⟩) fun h => ⟨first.pending h.1, h.2⟩

theorem AttemptFailed.raised {y : Exc} {stop : Bool}
    (failed : AttemptFailed gateway context "test_connection" reservation route x stop t (.error y)
      held recorded) (ordinary : x.isException = true) (quiet : ∀ e ∈ t, isBudgetFault e = false) :
    LoopRaised gateway reservation t y held recorded := by
  cases failed with
  | @uncommitted record f row =>
    refine .inr ⟨⟨rfl, ?_⟩, rfl, rfl⟩
    cases f <;> simp [leavesOpen, row.2.2, Fault.toExc, Exc.isException]
  | unreleased row end_ run =>
    exact (run.returned fun e mem => quiet e (by simp [mem])).elim
  | @released record u row end_ run =>
    have after : ∀ e ∈ u, isBudgetFault e = false := fun e mem => quiet e (by simp [mem])
    have before : Idle [⟨.recordFailure route.deployment.id x.className, ()⟩,
        ⟨.recordUsage record context, .ok ()⟩] :=
      .cons rfl rfl (.cons rfl rfl .nil)
    exact .inl ⟨before.released (GuardRun.released run after), ordinary, rfl, rfl⟩

def LoopReleased (gateway : LLMGateway) (reservation : BudgetReservation) (t : Trace)
    (held : Option BudgetReservation) (recorded : Bool) :
    Except Exc ConnectionTestResult → Prop
  | .ok _ => Released gateway reservation t
  | .error x => LoopRaised gateway reservation t x held recorded

variable {r : Except Exc ConnectionTestResult}

theorem Idle.loop (first : Idle t) (rest : LoopReleased gateway reservation u held recorded r) :
    LoopReleased gateway reservation (t ++ u) held recorded r := by
  cases r with
  | ok result => exact first.released rest
  | error x => exact first.raised rest

theorem ConnectionLoop.releases {routes : List RouteSelection} {probed : Bool}
    (loop : ConnectionLoop gateway request context reservation routes probed t r held recorded)
    (quiet : ∀ e ∈ t, isBudgetFault e = false) :
    LoopReleased gateway reservation t held recorded r := by
  induction loop with
  | exhausted ordinary => exact .inr ⟨⟨rfl, by simp [ordinary]⟩, rfl, rfl⟩
  | unreleased run => exact (run.returned quiet).elim
  | allFailed run => exact GuardRun.released run quiet
  | answered attempt => exact attempt.answered_releases quiet
  | interrupted attempt base => exact .inr ⟨attempt.pending quiet, rfl, rfl⟩
  | failed attempt ordinary handled =>
    obtain ⟨before, after⟩ := forall_mem_append.mp quiet
    obtain ⟨none, caught⟩ := attempt.pending before
    exact Idle.raised ⟨none, caught.mpr ordinary⟩ (handled.raised ordinary after)
  | probed attempt loop ih =>
    exact attempt.idle.loop (ih (forall_mem_append.mp quiet).2)
  | next attempt ordinary handled loop ih =>
    obtain ⟨before, after⟩ := forall_mem_append.mp quiet
    obtain ⟨none, caught⟩ := attempt.pending (forall_mem_append.mp before).1
    have tried : Idle _ := ⟨none, caught.mpr ordinary⟩
    exact (tried.append handled.idle).loop (ih after)

theorem probeReport_later (route : RouteSelection) (result : ConnectionTestResult) :
    isPrelude (probeReport route result).1 = false := by
  rw [probeReport]
  cases result.ok <;> rfl

theorem ConnectionAttempt.later {r : Except Exc (Option ConnectionTestResult)}
    (attempt : ConnectionAttempt gateway request context reservation route t r) :
    ∀ e ∈ t, isPrelude e.1 = false := by
  cases attempt with
  | unsupported => simp
  | refused => simp [isPrelude]
  | uncommitted | failedProbe =>
    exact forall_mem_cons.mpr ⟨rfl, forall_mem_cons.mpr
      ⟨probeReport_later _ _, List.forall_mem_singleton.mpr rfl⟩⟩
  | unreleased decided run | released decided run =>
    exact forall_mem_cons.mpr ⟨rfl, forall_mem_cons.mpr
      ⟨probeReport_later _ _, forall_mem_cons.mpr ⟨rfl, run.later⟩⟩⟩

theorem ConnectionLoop.later {routes : List RouteSelection} {probed : Bool}
    (loop : ConnectionLoop gateway request context reservation routes probed t r held recorded) :
    ∀ e ∈ t, isPrelude e.1 = false := by
  induction loop with
  | exhausted => simp
  | unreleased run | allFailed run => exact run.later
  | answered attempt | interrupted attempt => exact attempt.later
  | failed attempt ordinary handled =>
    exact forall_mem_append.mpr ⟨attempt.later, handled.later⟩
  | probed attempt loop ih => exact forall_mem_append.mpr ⟨attempt.later, ih⟩
  | next attempt ordinary handled loop ih =>
    exact forall_mem_append.mpr
      ⟨forall_mem_append.mpr ⟨attempt.later, handled.later⟩, ih⟩

theorem ProbeRoutes.idle {r : Except Exc (List RouteSelection)}
    (probes : ProbeRoutes gateway request t r) : Idle t ∧ reservations t = [] := by
  cases probes with
  | listed | missing | unregistered => exact ⟨⟨rfl, by simp⟩, rfl⟩
  | fresh => exact ⟨⟨rfl, by simp [leavesOpen]⟩, rfl⟩
  | planned registered planned =>
    exact ⟨idle_of_prelude planned.prelude.1, planned.prelude.2⟩

theorem ProbeRoutes.ordinary (probes : ProbeRoutes gateway request t (.error x)) :
    x.isException = true := by
  cases probes with
  | planned registered planned => exact isException_of_isHttp (planned.http _ rfl)
  | missing http => exact isException_of_isHttp http
  | unregistered plain ordinary => exact ordinary

theorem ConnectionBody.releases {reserved : Bool}
    (body : ConnectionBody gateway request context t r held reserved recorded)
    (mem : reservation ∈ reservations t) (approved : reservation.approved = true)
    (quiet : ∀ e ∈ t, isBudgetFault e = false) :
    reserved = true ∧ LoopReleased gateway reservation t held recorded r := by
  cases body with
  | stopped authorized =>
    rw [authorized.not_approved mem] at approved
    cases approved
  | unplanned authorized probes =>
    obtain ⟨steps, one, _⟩ := authorized.prelude
    obtain ⟨idle, none⟩ := probes.idle
    rw [reservations_append, one, none, append_nil, List.mem_singleton] at mem
    subst mem
    obtain ⟨rows, closes⟩ := (idle_of_prelude steps).append idle
    exact ⟨rfl, .inr ⟨⟨rows, iff_of_true closes probes.ordinary⟩, rfl, rfl⟩⟩
  | looped authorized probes loop =>
    obtain ⟨steps, one, _⟩ := authorized.prelude
    obtain ⟨idle, none⟩ := probes.idle
    rw [reservations_append, reservations_append, one, none, reservations_later loop.later,
      append_nil, append_nil, List.mem_singleton] at mem
    subst mem
    have before := (idle_of_prelude steps).append idle
    exact ⟨rfl, before.loop (loop.releases (forall_mem_append.mp quiet).2)⟩

theorem RowUnless.idle {r : Except Exc Unit}
    (row : RowUnless recorded (IsPlainRow context) context t r) : Idle t := by
  cases row with
  | skipped => exact .nil
  | written due row =>
    cases row with
    | stored row => exact .cons rfl rfl .nil
    | lost row => exact .cons rfl (by simp [leavesOpen, row.2.2, Dict.get]) .nil

theorem RowUnless.stored_idle {kind : UsageRecord → Prop}
    (row : RowUnless recorded kind context t (.ok ())) : Idle t := by
  cases row with
  | skipped => exact .nil
  | written due row =>
    cases row with
    | stored row => exact .cons rfl rfl .nil

theorem observed_idle (calls : List ObservedCall) :
    Idle (calls.map fun call => ⟨.observe call, ()⟩) := by
  refine ⟨observed_no_terminals calls, ?_⟩
  intro e mem
  obtain ⟨call, -, rfl⟩ := List.mem_map.mp mem
  rfl

theorem Handled.releases_held {y : Exc}
    (handled : Handled gateway context "connection_route_planning" (some reservation) true false
      x t y) (ordinary : x.isException = true) (quiet : ∀ e ∈ t, isBudgetFault e = false) :
    Released gateway reservation t ∨ (terminals t = [] ∧ ∃ e ∈ t, leavesOpen e = true) := by
  cases handled with
  | passed base => simp [base] at ordinary
  | httpLost http row =>
    cases row with
    | written due row =>
      cases row with
      | lost row => exact .inr ⟨rfl, by simp [leavesOpen, row.2.2]⟩
  | httpUnreleased http row run =>
    exact (run.guarded.returned (forall_mem_append.mp quiet).2).elim
  | http calls http row run =>
    obtain ⟨_, after⟩ := forall_mem_append.mp quiet
    have released := GuardRun.released run.guarded (forall_mem_append.mp after).1
    exact .inl (row.stored_idle.released (released.then_idle (observed_idle calls)))
  | unreleased ordinary plain run => exact (run.guarded.returned quiet).elim
  | lost ordinary plain run row =>
    have released := GuardRun.released run.guarded (forall_mem_append.mp quiet).1
    exact .inl (released.then_idle row.idle)
  | handled calls ordinary plain run row =>
    have released := GuardRun.released run.guarded (forall_mem_append.mp quiet).1
    exact .inl (released.then_idle (row.idle.append (observed_idle calls)))

theorem Handled.adds_nothing {y : Exc}
    (handled : Handled gateway context "connection_route_planning" none true true x t y)
    (quiet : ∀ e ∈ t, isBudgetFault e = false) : Idle t := by
  have empty {u : Trace} (run : HeldRun gateway none u (.ok ()))
      (calm : ∀ e ∈ u, isBudgetFault e = false) : Idle u :=
    ⟨(run.guarded.quiet calm).2, run.guarded.closes⟩
  cases handled with
  | passed base => exact .nil
  | httpLost http row =>
    cases row with
    | written due row => cases due
  | httpUnreleased http row run =>
    exact (run.guarded.returned (forall_mem_append.mp quiet).2).elim
  | http calls http row run =>
    obtain ⟨_, after⟩ := forall_mem_append.mp quiet
    have released := empty run (forall_mem_append.mp after).1
    exact row.stored_idle.append (released.append (observed_idle calls))
  | unreleased ordinary plain run => exact (run.guarded.returned quiet).elim
  | lost ordinary plain run row =>
    exact (empty run (forall_mem_append.mp quiet).1).append row.idle
  | handled calls ordinary plain run row =>
    exact (empty run (forall_mem_append.mp quiet).1).append
      (row.idle.append (observed_idle calls))

theorem ConnectionRun.terminals_eq (run : ConnectionRun gateway request context t r)
    (mem : reservation ∈ reservations t) (approved : reservation.approved = true)
    (quiet : ∀ e ∈ t, isBudgetFault e = false) :
    Released gateway reservation t ∨ (terminals t = [] ∧ ∃ e ∈ t, leavesOpen e = true) := by
  cases run with
  | returned body => exact .inl (body.releases mem approved quiet).2
  | @raised t u x y held reserved recorded body handler =>
    obtain ⟨before, after⟩ := forall_mem_append.mp quiet
    rw [reservations_append, reservations_bookkeeping handler.bookkeeping, append_nil] at mem
    obtain ⟨rfl, left⟩ := body.releases mem approved before
    obtain ⟨released, ordinary, rfl, rfl⟩ | ⟨⟨none, caught⟩, rfl, rfl⟩ := left
    · exact .inl (released.then_idle (handler.adds_nothing after))
    · cases ordinary : x.isException with
      | true =>
        refine (handler.releases_held ordinary after).imp ?_ ?_
        · exact Idle.released ⟨none, caught.mpr ordinary⟩
        · intro ⟨rows, e, at_, open_⟩
          exact ⟨by rw [terminals_append, none, rows, append_nil],
            e, List.mem_append_right _ at_, open_⟩
      | false =>
        have nothing : u = [] := by
          cases handler with
          | passed => rfl
          | httpLost http | httpUnreleased http | http _ http =>
            rw [isException_of_isHttp http] at ordinary
            cases ordinary
          | unreleased caught | lost caught | handled _ caught =>
            rw [caught] at ordinary
            cases ordinary
        subst nothing
        have open_ : ¬ ∀ e ∈ t, leavesOpen e = false := by
          intro closed
          rw [caught.mp closed] at ordinary
          cases ordinary
        refine .inr ⟨by rw [append_nil, none], ?_⟩
        simpa using open_

/-- Where the budget steps succeed a connection test writes one release and no
settlement for each scope of its approved reservation exactly when no step
leaves the reservation open. -/
theorem connection_released_once_iff {r : Except Exc ConnectionTestResult}
    (run : Process.Program.Runs (gateway.testConnection request context) t r)
    (mem : reservation ∈ reservations t) (approved : reservation.approved = true)
    (sessionless : gateway.budget.hasSession = false → reservation.budgetScopes = [])
    (quiet : ∀ e ∈ t, isBudgetFault e = false) :
    terminals t = reservation.budgetScopes.map (fun scope => (.release, scope)) ↔
      reservation.budgetScopes = [] ∨ ∀ e ∈ t, leavesOpen e = false := by
  have rows := (connection_run run).terminals_eq mem approved quiet
  rw [Released, gateway.budget.closing_of_approved approved sessionless] at rows
  obtain ⟨released, closed⟩ | ⟨none, e, at_, open_⟩ := rows
  · exact iff_of_true released (.inr closed)
  · rw [none]
    constructor
    · intro empty
      exact .inl (List.map_eq_nil_iff.mp empty.symm)
    · intro h
      cases h with
      | inl empty => rw [empty, List.map_nil]
      | inr closed => simp [closed e at_] at open_

end

def plannedProbe : ConnectionTestRequest := {}

def cancelledProbe : (e : Effect) → Answer e
  | .adapterTest _ _ => .error .cancelled
  | e => quiet e

theorem cancelled_probe_is_not_released :
    ∃ t r, Process.Program.Runs (defaultGateway.testConnection plannedProbe tenantContext) t r ∧
      heldReservation ∈ reservations t ∧ heldReservation.approved = true ∧
      (∀ e ∈ t, isBudgetFault e = false) ∧
      terminals t ≠ heldReservation.budgetScopes.map (fun scope => (.release, scope)) := by
  refine ⟨_, _, Process.Program.follow_runs cancelledProbe _, ?_⟩
  decide +kernel

theorem quiet_probe_is_released :
    terminals ((defaultGateway.testConnection plannedProbe tenantContext).follow quiet).1 =
      heldReservation.budgetScopes.map (fun scope => (.release, scope)) :=
  (connection_released_once_iff (Process.Program.follow_runs quiet _) (by decide +kernel) rfl
    (fun _ => by contradiction) (by decide +kernel)).mpr (.inr (by decide +kernel))

end LLMGateway
end AgentHive
