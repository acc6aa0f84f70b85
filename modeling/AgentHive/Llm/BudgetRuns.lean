import AgentHive.Llm.Budget

/-!
What a settlement or a release does in every run: which ledger rows it writes
when nothing fails, and which steps it never takes.
-/

namespace AgentHive

open Process (Action)

abbrev Terminal := LedgerEvent × BudgetReservationScope

def terminalOf : CallEvent → Option Terminal
  | ⟨.storeLedger entry, .ok ()⟩ =>
    match entry.eventType with
    | .settle | .release => some (entry.eventType, entry.scope)
    | _ => none
  | _ => none

def terminals (t : Trace) : List Terminal := t.filterMap terminalOf

@[simp] theorem terminals_nil : terminals [] = [] := rfl

@[simp] theorem terminals_cons (e : CallEvent) (t : Trace) :
    terminals (e :: t) = (terminalOf e).toList ++ terminals t := by
  cases h : terminalOf e <;> simp [terminals, h]

@[simp] theorem terminals_append (t u : Trace) : terminals (t ++ u) = terminals t ++ terminals u :=
  List.filterMap_append ..

def isBudgetStep : Effect → Bool
  | .storeLedger _ | .rollback | .policyById _ | .usageForPolicy _ _ _ _ | .utcNow => true
  | _ => false

def isLedgerFault : CallEvent → Bool
  | ⟨.storeLedger _, .error _⟩ => true
  | _ => false

/-- A budget read that raises out of `settle`. -/
def isReadFault : CallEvent → Bool
  | ⟨.policyById _, .error f⟩ => !f.isStorageError
  | ⟨.usageForPolicy _ _ _ _, .error _⟩ => true
  | _ => false

def isBudgetFault (e : CallEvent) : Bool := isLedgerFault e || isReadFault e

def raisedBy : CallEvent → Option Fault
  | ⟨.storeLedger _, .error f⟩ => if f.isStorageError then none else some f
  | ⟨.rollback, .error f⟩ => some f
  | ⟨.policyById _, .error f⟩ => if f.isStorageError then none else some f
  | ⟨.usageForPolicy _ _ _ _, .error f⟩ => some f
  | _ => none

structure GuardRun {α : Type} (rows : List Terminal) (t : Trace) (r : Except Exc α) : Prop where
  steps : ∀ e ∈ t, isBudgetStep e.1 = true
  raises : ∀ x, r = .error x ↔ ∃ e ∈ t, ∃ f, raisedBy e = some f ∧ x = f.toExc
  quiet : (∀ e ∈ t, isBudgetFault e = false) → (∃ a, r = .ok a) ∧ terminals t = rows

namespace GuardRun

variable {α β : Type} {rows others : List Terminal} {t u : Trace}

theorem nothing (a : α) : GuardRun [] [] (.ok a : Except Exc α) :=
  ⟨by simp, by simp, fun _ => ⟨⟨a, rfl⟩, rfl⟩⟩

theorem notHttp {r : Except Exc α} (h : GuardRun rows t r) (x : Exc) (failed : r = .error x) :
    x.isHttp = false := by
  obtain ⟨e, mem, f, raised, rfl⟩ := (h.raises x).mp failed
  exact f.toExc_isHttp

theorem not_returned {a : α} (h : GuardRun rows t (.ok a : Except Exc α)) :
    ∀ e ∈ t, raisedBy e = none := by
  intro e mem
  cases raised : raisedBy e with
  | none => rfl
  | some f =>
    cases (h.raises f.toExc).mpr ⟨e, mem, f, raised, rfl⟩

theorem raised {x : Exc} (h : GuardRun rows t (.error x : Except Exc α)) :
    GuardRun others t (.error x : Except Exc β) where
  steps := h.steps
  raises y := by rw [← h.raises y, Except.error.injEq, Except.error.injEq]
  quiet none := by
    obtain ⟨a, impossible⟩ := (h.quiet none).1
    cases impossible

theorem step {e : CallEvent} {a : α} (budget : isBudgetStep e.1 = true)
    (kept : raisedBy e = none) (row : (terminalOf e).toList = rows) :
    GuardRun rows [e] (.ok a : Except Exc α) where
  steps e' mem := by rwa [List.mem_singleton.mp mem]
  raises := by simp [kept]
  quiet _ := ⟨⟨a, rfl⟩, by rw [terminals_cons, row]; simp⟩

theorem failed {e : CallEvent} {r : Except Exc α} (budget : ∀ e ∈ t, isBudgetStep e.1 = true)
    (mem : e ∈ t) (fault : isBudgetFault e = true)
    (raises : ∀ x, r = .error x ↔ ∃ e ∈ t, ∃ f, raisedBy e = some f ∧ x = f.toExc) :
    GuardRun rows t r where
  steps := budget
  raises := raises
  quiet none := by
    rw [none e mem] at fault
    cases fault

theorem append {r : Except Exc β} {a : α} (first : GuardRun rows t (.ok a : Except Exc α))
    (rest : GuardRun others u r) : GuardRun (rows ++ others) (t ++ u) r where
  steps e mem := (List.mem_append.mp mem).elim (first.steps e) (rest.steps e)
  raises x := by
    rw [rest.raises x]
    constructor
    · intro h
      obtain ⟨e, mem, cause⟩ := h
      exact ⟨e, List.mem_append_right t mem, cause⟩
    · intro h
      obtain ⟨e, mem, f, raised, same⟩ := h
      cases List.mem_append.mp mem with
      | inl before =>
        rw [first.not_returned e before] at raised
        cases raised
      | inr after => exact ⟨e, after, f, raised, same⟩
  quiet none := by
    obtain ⟨_, firstRows⟩ := first.quiet fun e mem => none e (List.mem_append_left u mem)
    obtain ⟨done, restRows⟩ := rest.quiet fun e mem => none e (List.mem_append_right t mem)
    exact ⟨done, by rw [terminals_append, firstRows, restRows]⟩

end GuardRun

def Guarded {σ α : Type} (rows : List Terminal) (m : Step σ α) : Prop :=
  ∀ s, m.wp s fun t r s' => s' = s ∧ GuardRun rows t r

namespace Guarded

variable {σ α β : Type} {rows others : List Terminal}

theorem pure (a : α) : Guarded [] (Pure.pure a : Step σ α) := by
  intro s
  rw [Action.wp_pure]
  exact ⟨rfl, .nothing a⟩

theorem bind {m : Step σ α} {f : α → Step σ β} (first : Guarded rows m)
    (rest : ∀ a, Guarded others (f a)) : Guarded (rows ++ others) (m >>= f) := by
  intro s
  rw [Action.wp_bind]
  refine Action.wp_mono (first s) ?_
  intro t r s' h
  obtain ⟨rfl, run⟩ := h
  cases r with
  | error x => exact ⟨rfl, run.raised⟩
  | ok a =>
    refine Action.wp_mono (rest a s') ?_
    intro u r s'' h
    exact ⟨h.1, run.append h.2⟩

end Guarded

theorem raises_one {α : Type} {e : CallEvent} {f : Fault} (raised : raisedBy e = some f) (x : Exc) :
    (Except.error f.toExc : Except Exc α) = .error x ↔
      ∃ e' ∈ [e], ∃ f, raisedBy e' = some f ∧ x = f.toExc := by
  simp [raised, eq_comm]

namespace BudgetGuard

variable {σ : Type}

theorem recordBudgetEvent_guarded (entry : LedgerEntry) :
    Guarded (terminalOf ⟨.storeLedger entry, .ok ()⟩).toList
      (recordBudgetEvent entry : Step σ Unit) := by
  intro s
  simp only [recordBudgetEvent, Action.wp_bind, Action.wp_perform]
  intro answer
  cases answer with
  | ok u => exact ⟨rfl, .step rfl rfl rfl⟩
  | error f =>
    simp only [Action.wp_ite]
    split
    · rename_i caught
      simp only [Action.wp_bind, Action.wp_perform]
      intro undone
      -- the failed write is the fault, whatever the rollback does
      cases undone with
      | ok u =>
        exact ⟨rfl, .failed (by simp [isBudgetStep]) List.mem_cons_self rfl
          (by simp [raisedBy, caught])⟩
      | error g =>
        exact ⟨rfl, .failed (by simp [isBudgetStep]) List.mem_cons_self rfl
          (by simpa [raisedBy, caught] using fun x => eq_comm)⟩
    · rename_i uncaught
      exact ⟨rfl, .failed (by simp [isBudgetStep]) List.mem_cons_self rfl
        (raises_one (by simp [raisedBy, uncaught]))⟩

theorem policyById_guarded (budgetId : UUID) :
    Guarded [] (policyById budgetId : Step σ (Option LLMBudget)) := by
  intro s
  simp only [policyById, Action.wp_bind, Action.wp_perform]
  intro answer
  cases answer with
  | ok policy => exact ⟨rfl, .step rfl rfl rfl⟩
  | error f =>
    simp only [Action.wp_ite]
    split
    · rename_i caught
      exact ⟨rfl, .step rfl (by simp [raisedBy, caught]) rfl⟩
    · rename_i uncaught
      exact ⟨rfl, .failed (by simp [isBudgetStep]) List.mem_cons_self
        (by simp [isBudgetFault, isLedgerFault, isReadFault, uncaught])
        (raises_one (by simp [raisedBy, uncaught]))⟩

theorem periodWindow_guarded (policy : LLMBudget) :
    Guarded [] (periodWindow policy : Step σ (DateTime × DateTime)) := by
  intro s
  simp only [periodWindow]
  split
  · exact ⟨rfl, .nothing _⟩
  · simp only [Action.wp_bind, Action.wp_perform]
    intro now
    exact ⟨rfl, .step rfl rfl rfl⟩

theorem usageForPolicy_guarded (policy : LLMBudget) (context : LLMRequestContext)
    (start stop : DateTime) :
    Guarded [] (do
      let answer : Except Fault (ℚ × Int) ←
        Action.perform (Effect.usageForPolicy policy context start stop)
      Step.stored answer : Step σ (ℚ × Int)) := by
  intro s
  simp only [Action.wp_bind, Action.wp_perform]
  intro answer
  cases answer with
  | ok spent => exact ⟨rfl, .step rfl rfl rfl⟩
  | error f =>
    exact ⟨rfl, .failed (by simp [isBudgetStep]) List.mem_cons_self rfl
      (raises_one rfl)⟩

theorem recordSoftLimitAlertIfNeeded_guarded (policy : LLMBudget)
    (reservation : BudgetReservation) (context : LLMRequestContext)
    (scope : BudgetReservationScope) (actual : LLMUsageMetrics) :
    Guarded [] (recordSoftLimitAlertIfNeeded policy reservation context scope actual :
      Step σ Unit) := by
  refine (periodWindow_guarded policy).bind fun window => ?_
  refine (usageForPolicy_guarded policy context window.1 window.2).bind fun spent => ?_
  cases softLimitAlert policy spent actual window with
  | none => exact .pure ()
  | some alert => exact recordBudgetEvent_guarded _

variable (reservation : BudgetReservation)

theorem settleScope_guarded (actual : LLMUsageMetrics) (context : LLMRequestContext)
    (scope : BudgetReservationScope) :
    Guarded [(.settle, scope)] (settleScope reservation actual context scope : Step σ Unit) := by
  refine (recordBudgetEvent_guarded _).bind fun _ => ?_
  refine (policyById_guarded scope.budgetId).bind fun found => ?_
  cases found with
  | none => exact .pure ()
  | some policy =>
    cases hard : policy.hardLimit with
    | true => simpa [hard] using Guarded.pure ()
    | false =>
      simpa [hard] using
        recordSoftLimitAlertIfNeeded_guarded policy reservation context scope actual

theorem settleScopes_guarded (actual : LLMUsageMetrics) (context : LLMRequestContext)
    (scopes : List BudgetReservationScope) :
    Guarded (scopes.map fun scope => (.settle, scope))
      (settleScopes reservation actual context scopes : Step σ Unit) := by
  induction scopes with
  | nil => exact .pure ()
  | cons scope rest ih =>
    exact (settleScope_guarded reservation actual context scope).bind fun _ => ih

theorem releaseScopes_guarded (context : LLMRequestContext) (reason : String)
    (scopes : List BudgetReservationScope) :
    Guarded (scopes.map fun scope => (.release, scope))
      (releaseScopes reservation context reason scopes : Step σ Unit) := by
  induction scopes with
  | nil => exact .pure ()
  | cons scope rest ih => exact (recordBudgetEvent_guarded _).bind fun _ => ih

variable (guard : BudgetGuard)

def closing (eventType : LedgerEvent) (reservation : BudgetReservation) : List Terminal :=
  if guard.hasSession && reservation.approved then
    reservation.budgetScopes.map fun scope => (eventType, scope)
  else []

theorem closing_of_approved {reservation : BudgetReservation}
    (approved : reservation.approved = true)
    (sessionless : guard.hasSession = false → reservation.budgetScopes = []) (event : LedgerEvent) :
    guard.closing event reservation =
      reservation.budgetScopes.map fun scope => (event, scope) := by
  cases session : guard.hasSession with
  | true => simp [closing, session, approved]
  | false => simp [closing, session, sessionless session]

theorem guarded_when_open (reservation : BudgetReservation) {m : Step σ Unit} {rows : List Terminal}
    (h : Guarded rows m) :
    Guarded (if guard.hasSession && reservation.approved then rows else [])
      (if !guard.hasSession || !reservation.approved then pure () else m) := by
  rw [← Bool.not_and]
  cases guard.hasSession && reservation.approved with
  | false => exact .pure ()
  | true => exact h

theorem settle_guarded (reservation : BudgetReservation) (actual : LLMUsageMetrics)
    (context : LLMRequestContext) :
    Guarded (guard.closing .settle reservation)
      (guard.settle reservation actual context : Step σ Unit) :=
  guarded_when_open guard reservation
    (settleScopes_guarded reservation actual context reservation.budgetScopes)

theorem release_guarded (reservation : BudgetReservation) (context : LLMRequestContext)
    (reason : String) :
    Guarded (guard.closing .release reservation)
      (guard.release reservation context reason : Step σ Unit) :=
  guarded_when_open guard reservation
    (releaseScopes_guarded reservation context reason reservation.budgetScopes)

end BudgetGuard
end AgentHive
