import AgentHive.Llm.ChatRuns

/-!
How a run of `chat` closes its reservation.
-/

namespace AgentHive

def isSuccessRowFault : CallEvent → Bool
  | ⟨.recordUsage record _, .error _⟩ => record.status == .success
  | _ => false

def isPlanningRowFault : CallEvent → Bool
  | ⟨.recordUsage record _, .error _⟩ => record.metadata.get "operation" == .str "route_planning"
  | _ => false

/-- A cancellation inside the loop, which no handler of `chat` sees. -/
def isOpenCancellation : CallEvent → Bool
  | ⟨.adapterChat _ _ _, .error x⟩ => !x.isException
  | ⟨.recordUsage record _, .error .cancelled⟩ => record.metadata.get "operation" == .str "chat"
  | _ => false

def disturbsClosing (e : CallEvent) : Bool :=
  isReadFault e || isSuccessRowFault e || isPlanningRowFault e || isOpenCancellation e

def Undisturbed (t : Trace) : Prop :=
  ∀ e ∈ t, isLedgerFault e = false ∧ disturbsClosing e = false

instance (t : Trace) : Decidable (Undisturbed t) :=
  inferInstanceAs (Decidable (∀ e ∈ t, isLedgerFault e = false ∧ disturbsClosing e = false))

variable {t : Trace}

theorem undisturbed_append {u : Trace} : Undisturbed (t ++ u) ↔ Undisturbed t ∧ Undisturbed u :=
  List.forall_mem_append

theorem undisturbed_cons {e : CallEvent} :
    Undisturbed (e :: t) ↔
      (isLedgerFault e = false ∧ disturbsClosing e = false) ∧ Undisturbed t :=
  List.forall_mem_cons

theorem GuardRun.undisturbed {α : Type} {rows : List Terminal} {r : Except Exc α}
    (run : GuardRun rows t r) (calm : Undisturbed t) : (∃ a, r = .ok a) ∧ terminals t = rows := by
  refine run.quiet ?_
  intro e mem
  obtain ⟨ledger, others⟩ := calm e mem
  simp only [disturbsClosing, Bool.or_eq_false_iff] at others
  simp only [isBudgetFault, ledger, others.1.1.1, Bool.or_self]

theorem GuardRun.no_error {α : Type} {rows : List Terminal} {x : Exc}
    (run : GuardRun rows t (.error x : Except Exc α)) (calm : Undisturbed t) : False := by
  obtain ⟨a, impossible⟩ := (run.undisturbed calm).1
  cases impossible

namespace LLMGateway

section

variable {gateway : LLMGateway} {request : LLMChatRequest} {context : LLMRequestContext}
  {reservation : BudgetReservation} {route : RouteSelection} {t : Trace}

theorem ChatAttempt.answered_closes {response : LLMResponse}
    (attempt : ChatAttempt gateway request context reservation route t (.ok response))
    (calm : Undisturbed t) : terminals t = gateway.budget.closing .settle reservation := by
  cases attempt with
  | answered settled =>
    simp only [undisturbed_cons] at calm
    cases settled with
    | committed run =>
      obtain ⟨_, rows⟩ := run.undisturbed (undisturbed_append.mp calm.2.2).1
      simp [terminalOf, rows]

theorem ChatAttempt.raised_open {x : Exc}
    (attempt : ChatAttempt gateway request context reservation route t (.error x))
    (calm : Undisturbed t) : x.isException = true ∧ terminals t = [] := by
  cases attempt with
  | unsupported failed => exact ⟨isException_of_isHttp (adapterFor_error failed), rfl⟩
  | refused =>
    have caught := (calm _ List.mem_cons_self).2
    simp [disturbsClosing, isOpenCancellation] at caught
    exact ⟨caught.2, rfl⟩
  | answered settled =>
    simp only [undisturbed_cons] at calm
    cases settled with
    | unpriced failed => exact ⟨(calculate_error failed).1, rfl⟩
    | unsettled run => exact (run.no_error calm.2.2).elim
    | uncommitted run =>
      have stored := (calm.2.2 _ (List.mem_append_right _ List.mem_cons_self)).2
      simp [disturbsClosing, isSuccessRowFault, UsageCollector.successRecord] at stored

variable {held : Option BudgetReservation} {recorded : Bool}

theorem AttemptFailed.releases {x y : Exc} {last : Bool}
    (failed : AttemptFailed gateway context "chat" reservation route x last t (.error y) held recorded)
    (ordinary : x.isException = true) (calm : Undisturbed t) :
    y.isException = true ∧
      terminals t ++ gateway.releasing held = gateway.budget.closing .release reservation := by
  cases failed with
  | @uncommitted record f row =>
    have caught := (calm _ (List.mem_cons_of_mem _ List.mem_cons_self)).2
    refine ⟨?_, rfl⟩
    cases f with
    | cancelled => simp [disturbsClosing, isOpenCancellation, row.2.2] at caught
    | os | sqlAlchemy | other => rfl
    | _ => rfl
  | unreleased row end_ run =>
    simp only [undisturbed_cons] at calm
    exact (run.no_error calm.2.2).elim
  | released row end_ run =>
    simp only [undisturbed_cons] at calm
    obtain ⟨_, rows⟩ := run.undisturbed calm.2.2
    exact ⟨ordinary, by simp [terminalOf, rows, releasing]⟩

theorem AttemptFailed.fellBack_open {x : Exc} {last : Bool}
    (failed : AttemptFailed gateway context "chat" reservation route x last t (.ok ()) held recorded) :
    terminals t = [] := by
  cases failed with
  | fellBack row more => rfl

def LoopClosed (gateway : LLMGateway) (reservation : BudgetReservation)
    (held : Option BudgetReservation) (t : Trace) : Except Exc LLMResponse → Prop
  | .ok _ => terminals t = gateway.budget.closing .settle reservation
  | .error x => x.isException = true ∧
      terminals t ++ gateway.releasing held = gateway.budget.closing .release reservation

variable {r : Except Exc LLMResponse}

theorem LoopClosed.after {u : Trace} (closed : LoopClosed gateway reservation held u r)
    (none : terminals t = []) : LoopClosed gateway reservation held (t ++ u) r := by
  cases r <;> simpa [LoopClosed, none] using closed

theorem ChatLoop.closes {routes : List RouteSelection}
    (loop : ChatLoop gateway request context reservation routes t r held recorded)
    (calm : Undisturbed t) : LoopClosed gateway reservation held t r := by
  induction loop with
  | exhausted ordinary => exact ⟨ordinary, rfl⟩
  | answered attempt => exact attempt.answered_closes calm
  | interrupted attempt base =>
    obtain ⟨ordinary, _⟩ := attempt.raised_open calm
    rw [ordinary] at base
    cases base
  | failed attempt ordinary handled =>
    obtain ⟨before, after⟩ := undisturbed_append.mp calm
    obtain ⟨_, none⟩ := attempt.raised_open before
    have closed := handled.releases ordinary after
    exact LoopClosed.after closed none
  | next attempt ordinary handled loop ih =>
    obtain ⟨before, after⟩ := undisturbed_append.mp calm
    obtain ⟨_, none⟩ := attempt.raised_open (undisturbed_append.mp before).1
    refine (ih after).after ?_
    rw [terminals_append, none, handled.fellBack_open, List.nil_append]

end

section

variable {gateway : LLMGateway} {request : LLMChatRequest} {context : LLMRequestContext}
  {held : Option BudgetReservation}

theorem ChatBody.closes {t : Trace} {r : Except Exc LLMResponse} {reserved recorded : Bool}
    {reservation : BudgetReservation}
    (body : ChatBody gateway request context t r held reserved recorded)
    (mem : reservation ∈ reservations t) (approved : reservation.approved = true)
    (calm : Undisturbed t) : LoopClosed gateway reservation held t r := by
  cases body with
  | stopped authorized =>
    rw [authorized.not_approved mem] at approved
    cases approved
  | unplanned authorized planned =>
    obtain ⟨none, one⟩ := authorized.planned_prelude planned
    rw [one, List.mem_singleton] at mem
    subst mem
    refine ⟨isException_of_isHttp (planned.http _ rfl), ?_⟩
    rw [none]
    rfl
  | looped authorized planned loop =>
    obtain ⟨none, one⟩ := authorized.planned_prelude planned
    rw [reservations_append, one, reservations_later loop.later, List.append_nil,
      List.mem_singleton] at mem
    subst mem
    exact (loop.closes (undisturbed_append.mp calm).2).after none

theorem Handled.releases {reserved recorded : Bool} {x y : Exc} {t : Trace}
    (handled : Handled gateway context "route_planning" held reserved recorded x t y)
    (ordinary : x.isException = true) (calm : Undisturbed t) :
    terminals t = gateway.releasing held := by
  cases handled with
  | passed base =>
    rw [base] at ordinary
    cases ordinary
  | httpLost http row =>
    cases row with
    | written due row =>
      cases row with
      | lost row =>
        have stored := (calm _ List.mem_cons_self).2
        simp [disturbsClosing, isPlanningRowFault, row.2.2] at stored
  | httpUnreleased http row run => exact (run.guarded.no_error (undisturbed_append.mp calm).2).elim
  | http calls http row run =>
    obtain ⟨_, after⟩ := undisturbed_append.mp calm
    rw [terminals_append, terminals_append, row.no_terminals,
      (run.guarded.undisturbed (undisturbed_append.mp after).1).2, observed_no_terminals]
    simp
  | unreleased ordinary plain run => exact (run.guarded.no_error calm).elim
  | lost ordinary plain run row =>
    rw [terminals_append, row.no_terminals,
      (run.guarded.undisturbed (undisturbed_append.mp calm).1).2, List.append_nil]
  | handled calls ordinary plain run row =>
    rw [terminals_append, terminals_append, row.no_terminals,
      (run.guarded.undisturbed (undisturbed_append.mp calm).1).2, observed_no_terminals]
    simp

def closedBy (reservation : BudgetReservation) {α : Type} : Except Exc α → List Terminal
  | .ok _ => reservation.budgetScopes.map fun scope => (.settle, scope)
  | .error _ => reservation.budgetScopes.map fun scope => (.release, scope)

/-- In a run that nothing disturbs every budget scope of an approved
reservation has one terminal row: a settlement of a call that returned, a
release of one that raised. -/
theorem approved_reservation_closed_once {t : Trace} {r : Except Exc LLMResponse}
    {reservation : BudgetReservation}
    (run : Process.Program.Runs (gateway.chat request context) t r)
    (mem : reservation ∈ reservations t) (approved : reservation.approved = true)
    (sessionless : gateway.budget.hasSession = false → reservation.budgetScopes = [])
    (calm : Undisturbed t) : terminals t = closedBy reservation r := by
  cases chat_run run with
  | returned body =>
    have closed := body.closes mem approved calm
    exact closed.trans (gateway.budget.closing_of_approved approved sessionless .settle)
  | raised body handler =>
    obtain ⟨before, after⟩ := undisturbed_append.mp calm
    rw [reservations_append, reservations_bookkeeping handler.bookkeeping, List.append_nil] at mem
    obtain ⟨ordinary, closed⟩ := body.closes mem approved before
    rw [terminals_append, handler.releases ordinary after, closed]
    exact gateway.budget.closing_of_approved approved sessionless .release

end

theorem settled_and_released :
    ∃ t r, Process.Program.Runs (defaultGateway.chat helloRequest tenantContext) t r ∧
      heldReservation ∈ reservations t ∧ heldReservation.approved = true ∧
      (∀ e ∈ t, isLedgerFault e = false) ∧
      terminals t = [(.settle, tenantBudget), (.release, tenantBudget)] ∧
      terminals t ≠ closedBy heldReservation r := by
  refine ⟨_, _, Process.Program.follow_runs lostSuccessRow _, ?_⟩
  decide +kernel

theorem quiet_call_settles_once :
    terminals ((defaultGateway.chat helloRequest tenantContext).follow quiet).1 =
      closedBy heldReservation ((defaultGateway.chat helloRequest tenantContext).follow quiet).2 :=
  approved_reservation_closed_once (Process.Program.follow_runs quiet _) (by decide +kernel) rfl
    (fun _ => by contradiction) (by decide +kernel)

end LLMGateway
end AgentHive
