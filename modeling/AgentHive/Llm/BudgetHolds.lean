import AgentHive.Llm.BudgetStorage
import AgentHive.Llm.ChatRuns
import Mathlib.Data.List.Induction

/-!
What one call of `chat` may still add to the usage of a hard limit: nothing
before the guard has compared its estimate with the limit, and one successful
row after that.
-/

namespace AgentHive

open Process (Action Program Monitor)
open Process.Action (wp_bind wp_ite wp_mono wp_perform wp_pure wp_throw)
open List (append_nil forall_mem_append forall_mem_cons)
open Process.Monitor (KeepsUp always_append stateAfter_append stateAfter_of_kept)

def storesSuccess : CallEvent → Bool
  | ⟨.recordUsage record _, .ok ()⟩ => record.status == .success
  | _ => false

def grantMonitor : Monitor Effect Answer Bool where
  next granted
    | ⟨.reserve _ _, .ok reservation⟩ => reservation.approved
    | ⟨.reserve _ _, .error _⟩ => false
    | e => granted && !storesSuccess e

def reservesFor (context : LLMRequestContext) : CallEvent → Bool
  | ⟨.reserve _ asked, _⟩ => asked == context
  | _ => true

def usesGrant (context : LLMRequestContext) (granted : Bool) (e : CallEvent) : Bool :=
  (granted || !storesSuccess e) && reservesFor context e

def IsQuiet (context : LLMRequestContext) (t : Trace) : Prop :=
  ∀ e ∈ t, storesSuccess e = false ∧ reservesFor context e = true

variable {context : LLMRequestContext} {t : Trace}

theorem isQuiet_append {u : Trace} :
    IsQuiet context (t ++ u) ↔ IsQuiet context t ∧ IsQuiet context u :=
  forall_mem_append

def IsPlain (t : Trace) : Prop :=
  ∀ e ∈ t, storesSuccess e = false ∧ isPrelude e.1 = false

theorem isPlain_append {u : Trace} : IsPlain (t ++ u) ↔ IsPlain t ∧ IsPlain u :=
  forall_mem_append

theorem next_of_plain {e : CallEvent} (quiet : storesSuccess e = false)
    (later : ∀ estimate context, e.1 ≠ .reserve estimate context) (granted : Bool) :
    grantMonitor.next granted e = granted := by
  obtain ⟨effect, answer⟩ := e
  cases effect <;> first | exact absurd rfl (later _ _) | simp [grantMonitor, quiet]

theorem IsQuiet.always (quiet : IsQuiet context t) (granted : Bool) :
    grantMonitor.Always (usesGrant context) granted t := by
  induction t generalizing granted with
  | nil => trivial
  | cons e t ih =>
    obtain ⟨first, rest⟩ := forall_mem_cons.mp quiet
    exact ⟨by simp [usesGrant, first], ih rest _⟩

theorem IsPlain.stateAfter (plain : IsPlain t) (granted : Bool) :
    grantMonitor.stateAfter granted t = granted := by
  refine stateAfter_of_kept fun e mem => ?_
  refine next_of_plain (plain e mem).1 ?_ granted
  intro estimate context same
  have later := (plain e mem).2
  rw [same] at later
  cases later

theorem IsPlain.quiet (plain : IsPlain t) (context : LLMRequestContext) : IsQuiet context t := by
  intro e mem
  obtain ⟨quiet, later⟩ := plain e mem
  refine ⟨quiet, ?_⟩
  obtain ⟨effect, answer⟩ := e
  cases effect <;> first | rfl | cases later

theorem always_plain_append (plain : IsPlain t) (context : LLMRequestContext) (granted : Bool)
    (u : Trace) :
    grantMonitor.Always (usesGrant context) granted (t ++ u) ↔
      grantMonitor.Always (usesGrant context) granted u := by
  rw [always_append, plain.stateAfter]
  exact and_iff_right ((plain.quiet context).always granted)

theorem GuardRun.plain {α : Type} {rows : List Terminal} {r : Except Exc α}
    (run : GuardRun rows t r) : IsPlain t := by
  intro e mem
  obtain ⟨effect, answer⟩ := e
  have step := run.steps _ mem
  cases effect <;> first | exact ⟨rfl, rfl⟩ | cases step

theorem isPlain_observed (calls : List ObservedCall) :
    IsPlain (calls.map fun call => ⟨.observe call, ()⟩) := by
  intro e mem
  obtain ⟨call, _, rfl⟩ := List.mem_map.mp mem
  exact ⟨rfl, rfl⟩

theorem isPlain_failure {record : UsageRecord} (failure : record.status ≠ .success)
    (answer : Except Fault Unit) : IsPlain [⟨.recordUsage record context, answer⟩] := by
  intro e mem
  cases List.mem_singleton.mp mem
  refine ⟨?_, rfl⟩
  cases answer with
  | ok u => simpa [storesSuccess] using failure
  | error f => rfl

theorem isPlain_lost (record : UsageRecord) (context : LLMRequestContext) (f : Fault) :
    IsPlain [⟨.recordUsage record context, .error f⟩] := by
  simp [IsPlain, storesSuccess, isPrelude]

namespace LLMGateway

section

variable {gateway : LLMGateway} {request : LLMChatRequest} {context : LLMRequestContext}
  {reservation : BudgetReservation} {route : RouteSelection} {t : Trace}

theorem Refused.plain {x : Exc} (refused : Refused context t x) : IsPlain t := by
  cases refused with
  | uncommitted own failure => exact isPlain_failure failure _
  | refused calls own failure http =>
    exact isPlain_append.mpr ⟨isPlain_failure failure _, isPlain_observed calls⟩

variable {recorded : Bool}

theorem RowUnless.plain {kind : UsageRecord → Prop} {r : Except Exc Unit}
    (failure : ∀ record, kind record → record.status ≠ .success)
    (row : RowUnless recorded kind context t r) : IsPlain t := by
  cases row with
  | skipped => simp [IsPlain]
  | written due row =>
    cases row with
    | stored row => exact isPlain_failure (failure _ row) _
    | lost row => exact isPlain_failure (failure _ row) _

variable {held : Option BudgetReservation}

theorem AttemptFailed.plain {operation : String} {x : Exc} {stop : Bool} {r : Except Exc Unit}
    (failed : AttemptFailed gateway context operation reservation route x stop t r held
      recorded) : IsPlain t := by
  have reported : IsPlain [⟨.recordFailure route.deployment.id x.className, ()⟩] := by
    simp [IsPlain, storesSuccess, isPrelude]
  cases failed with
  | uncommitted row | fellBack row =>
    exact isPlain_append.mpr ⟨reported, isPlain_failure row.2.1 _⟩
  | unreleased row end_ run | released row end_ run =>
    exact isPlain_append.mpr ⟨reported,
      isPlain_append.mpr ⟨isPlain_failure row.2.1 _, run.plain⟩⟩

theorem Handled.plain {operation : String} {reserved : Bool} {x y : Exc}
    (handled : Handled gateway context operation held reserved recorded x t y) : IsPlain t := by
  have operated : ∀ record, IsOperationRow operation context record → record.status ≠ .success :=
    fun _ row => row.2.1
  have plain : ∀ record, IsPlainRow context record → record.status ≠ .success :=
    fun _ row => row.2.1
  cases handled with
  | passed => simp [IsPlain]
  | httpLost http row => exact row.plain operated
  | httpUnreleased http row run =>
    exact isPlain_append.mpr ⟨row.plain operated, run.guarded.plain⟩
  | http calls http row run =>
    exact isPlain_append.mpr ⟨row.plain operated,
      isPlain_append.mpr ⟨run.guarded.plain, isPlain_observed calls⟩⟩
  | unreleased ordinary other run => exact run.guarded.plain
  | lost ordinary other run row =>
    exact isPlain_append.mpr ⟨run.guarded.plain, row.plain plain⟩
  | handled calls ordinary other run row =>
    exact isPlain_append.mpr ⟨run.guarded.plain,
      isPlain_append.mpr ⟨row.plain plain, isPlain_observed calls⟩⟩

theorem Evaluated.quiet {r : Except Exc PolicyDecision}
    (evaluated : Evaluated gateway request context t r) : IsQuiet context t := by
  cases evaluated <;> simp [IsQuiet, storesSuccess, reservesFor]

theorem Reserved.quiet {r : Except Exc BudgetReservation}
    (reserved : Reserved gateway request context t r) : IsQuiet context t := by
  cases reserved <;> simp [IsQuiet, storesSuccess, reservesFor]

theorem Planned.quiet {router : ModelRouter} {r : Except Exc (List RouteSelection)}
    (planned : Planned router t r) (context : LLMRequestContext) : IsQuiet context t := by
  intro e mem
  obtain ⟨d, b, rfl⟩ := planned.asked e mem
  exact ⟨rfl, rfl⟩

variable {r : Except Exc LLMResponse}

theorem ChatAttempt.grant (attempt : ChatAttempt gateway request context reservation route t r) :
    (∀ x, r = .error x → IsPlain t) ∧ grantMonitor.Always (usesGrant context) true t := by
  cases attempt with
  | unsupported => exact ⟨fun _ _ => by simp [IsPlain], trivial⟩
  | @refused x =>
    have plain : IsPlain [⟨.adapterChat route request context, .error x⟩] := by
      simp [IsPlain, storesSuccess, isPrelude]
    exact ⟨fun _ _ => plain, (plain.quiet context).always _⟩
  | @answered response t r settled =>
    have called : IsPlain [⟨.adapterChat route request context, .ok response⟩,
        ⟨.recordSuccess route.deployment.id, ()⟩] := by
      simp [IsPlain, storesSuccess, isPrelude]
    cases settled with
    | unpriced => exact ⟨fun _ _ => called, (called.quiet context).always _⟩
    | unsettled run =>
      have plain := isPlain_append.mpr ⟨called, run.plain⟩
      exact ⟨fun _ _ => plain, (plain.quiet context).always _⟩
    | @uncommitted u f enriched run =>
      have lost := isPlain_lost (UsageCollector.successRecord context route enriched) context f
      have plain := isPlain_append.mpr ⟨called, isPlain_append.mpr ⟨run.plain, lost⟩⟩
      exact ⟨fun _ _ => plain, (plain.quiet context).always _⟩
    | committed run =>
      refine ⟨by simp, rfl, rfl, ?_⟩
      exact (always_plain_append run.plain context true _).mpr ⟨rfl, rfl, trivial⟩

theorem ChatLoop.grant {routes : List RouteSelection}
    (loop : ChatLoop gateway request context reservation routes t r held recorded) :
    grantMonitor.Always (usesGrant context) true t := by
  induction loop with
  | exhausted => trivial
  | answered attempt | interrupted attempt => exact attempt.grant.2
  | failed attempt ordinary handled =>
    have plain := isPlain_append.mpr ⟨attempt.grant.1 _ rfl, handled.plain⟩
    exact (plain.quiet context).always _
  | next attempt ordinary handled loop ih =>
    have plain := isPlain_append.mpr ⟨attempt.grant.1 _ rfl, handled.plain⟩
    exact (always_plain_append plain context true _).mpr ih

theorem Authorized.grant {effective : PolicyDecision → LLMChatRequest}
    {r : Except Exc (PolicyDecision × BudgetReservation)}
    (authorized : Authorized gateway request context effective t r held) :
    IsQuiet context t ∧ (∀ given, r = .ok given → grantMonitor.stateAfter false t = true) := by
  cases authorized with
  | undecided evaluated => exact ⟨evaluated.quiet, by simp⟩
  | denied evaluated refused refusal =>
    exact ⟨isQuiet_append.mpr ⟨evaluated.quiet, refusal.plain.quiet context⟩, by simp⟩
  | unreserved evaluated allowed reserved =>
    exact ⟨isQuiet_append.mpr ⟨evaluated.quiet, reserved.quiet⟩, by simp⟩
  | overBudget evaluated allowed reserved refused refusal =>
    refine ⟨isQuiet_append.mpr ⟨evaluated.quiet, ?_⟩, by simp⟩
    exact isQuiet_append.mpr ⟨reserved.quiet, refusal.plain.quiet context⟩
  | authorized evaluated allowed reserved approved =>
    refine ⟨isQuiet_append.mpr ⟨evaluated.quiet, reserved.quiet⟩, fun given _ => ?_⟩
    rw [stateAfter_append]
    cases reserved with
    | reserved priced => exact approved

theorem ChatBody.grant {reserved : Bool}
    (body : ChatBody gateway request context t r held reserved recorded) :
    grantMonitor.Always (usesGrant context) false t := by
  cases body with
  | stopped authorized => exact authorized.grant.1.always _
  | unplanned authorized planned =>
    exact (isQuiet_append.mpr ⟨authorized.grant.1, planned.quiet context⟩).always _
  | looped authorized planned loop =>
    obtain ⟨quiet, granted⟩ := authorized.grant
    have asked : grantMonitor.stateAfter true _ = true :=
      stateAfter_of_kept fun e mem => by
        obtain ⟨d, b, rfl⟩ := planned.asked e mem
        rfl
    rw [always_append, stateAfter_append, granted _ rfl, asked]
    exact ⟨(isQuiet_append.mpr ⟨quiet, planned.quiet context⟩).always _, loop.grant⟩

theorem chat_grant (run : Program.Runs (gateway.chat request context) t r) :
    grantMonitor.Always (usesGrant context) false t := by
  cases chat_run run with
  | returned body => exact body.grant
  | raised body handler =>
    exact (always_append _ _ _).mpr
      ⟨body.grant, (handler.plain.quiet context).always _⟩

end

end LLMGateway

inductive Hold
  | idle
  | asking (estimate : LLMUsageMetrics) (context : LLMRequestContext)
  | held (estimate : LLMUsageMetrics)
deriving DecidableEq

def Hold.read (policy found : LLMBudget) (asked : LLMRequestContext) (spent : ℚ × Int) :
    Hold → Hold
  | .asking estimate context =>
    if found = policy ∧ asked = context ∧
        exceedsLimits policy (spent + estimate.charge) = false then
      .held estimate
    else .asking estimate context
  | s => s

def Hold.record (status : LLMCallStatus) : Hold → Hold
  | .held estimate => if status = .success then .idle else .held estimate
  | s => s

def Hold.isHeld : Hold → Bool
  | .held _ => true
  | _ => false

def holdMonitor (policy : LLMBudget) : Monitor BudgetEffect BudgetAnswer Hold where
  next s
    | ⟨.enterReserve estimate context, _⟩ => .asking estimate context
    | ⟨.gateway (.usageForPolicy found asked _ _), .ok spent⟩ => s.read policy found asked spent
    | ⟨.gateway (.recordUsage record _), .ok ()⟩ => s.record record.status
    | _ => s

def storedWhileHeld (context : LLMRequestContext) (s : Hold) : BudgetEvent → Bool
  | ⟨.gateway effect, answer⟩ => s.isHeld || !storesSuccess ⟨effect, answer⟩
  | ⟨.enterReserve _ asked, _⟩ => asked == context
  | _ => true

/-- The steps inside `reserve_usage`. -/
def isReserveStep : BudgetEffect → Bool
  | .gateway (.resolveCostCenter _) | .gateway .utcNow | .gateway (.usageForPolicy _ _ _ _)
  | .gateway (.storeLedger _) | .gateway .rollback | .selectPolicies _ | .newReservationId => true
  | _ => false

def Answerable (policy : LLMBudget) (context : LLMRequestContext) : BudgetEvent → Prop
  | ⟨.gateway (.resolveCostCenter asked), .ok costCenterId⟩ =>
    asked = context → policyMatchesContext policy context costCenterId = true
  | ⟨.selectPolicies tenantId, .ok found⟩ => tenantId = context.tenantId → policy ∈ found
  | _ => True

section

variable {policy : LLMBudget} {context : LLMRequestContext} {estimate : LLMUsageMetrics}
  {t : List BudgetEvent}

theorem held_of_reserve_step {e : BudgetEvent} (step : isReserveStep e.1 = true) :
    (holdMonitor policy).next (.held estimate) e = .held estimate := by
  obtain ⟨effect, answer⟩ := e
  cases effect with
  | gateway effect =>
    cases effect with
    | usageForPolicy => cases answer <;> rfl
    | resolveCostCenter | utcNow | storeLedger | rollback => rfl
    | _ => cases step
  | selectPolicies | newReservationId => rfl
  | enterReserve => cases step

theorem held_of_reserve_steps (steps : ∀ e ∈ t, isReserveStep e.1 = true) :
    (holdMonitor policy).stateAfter (.held estimate) t = .held estimate :=
  stateAfter_of_kept fun e mem => held_of_reserve_step (steps e mem)

theorem always_of_reserve_steps (steps : ∀ e ∈ t, isReserveStep e.1 = true) (s : Hold) :
    (holdMonitor policy).Always (storedWhileHeld context) s t := by
  induction t generalizing s with
  | nil => trivial
  | cons e t ih =>
    obtain ⟨first, rest⟩ := forall_mem_cons.mp steps
    refine ⟨?_, ih rest _⟩
    obtain ⟨effect, answer⟩ := e
    cases effect with
    | gateway effect => cases effect <;> first | exact Bool.or_true _ | cases first
    | selectPolicies | newReservationId => rfl
    | enterReserve => cases first

namespace BudgetGuard

variable {text : ℚ → String}

theorem limitDenial_eq_none {spent : ℚ × Int} (h : limitDenial text policy spent estimate = none) :
    exceedsLimits policy (spent + estimate.charge) = false := by
  simp only [limitDenial] at h
  split at h
  · cases h
  · split at h
    · cases h
    · simp_all [exceedsLimits]

@[simp] theorem raiseFault_wp {α : Type} (answer : Except Fault α) (s : Unit)
    (Q : List BudgetEvent → Except Fault α → Unit → Prop) :
    (raiseFault answer).wp s Q ↔ Q [] answer s := by
  cases answer <;> rfl

theorem reserveWindow_run (policy : LLMBudget) (s : Unit) :
    (reserveWindow policy).wp s fun t _ _ =>
      ∀ e ∈ t, e.1 = BudgetEffect.gateway .utcNow := by
  unfold reserveWindow
  split
  · simp
  · simp

theorem recordReserveEvents_run (reservation : BudgetReservation)
    (context : LLMRequestContext) (estimate : LLMUsageMetrics) (eventType : LedgerEvent)
    (reason : String) (scopes : List BudgetReservationScope) (s : Unit) :
    (recordReserveEvents reservation context estimate eventType reason scopes).wp s
      fun t _ _ => ∀ e ∈ t, isReserveStep e.1 = true := by
  induction scopes with
  | nil => simp [recordReserveEvents]
  | cons scope rest ih =>
    have entry : ∀ entry, (recordReserveEvent entry).wp s fun t _ _ =>
        ∀ e ∈ t, isReserveStep e.1 = true := by
      intro entry
      simp only [recordReserveEvent, wp_bind, wp_perform]
      intro answer
      cases answer with
      | ok u => simp [isReserveStep]
      | error f =>
        simp only [wp_ite, wp_bind, wp_perform, raiseFault_wp,
          wp_throw]
        split <;> simp [isReserveStep]
    simp only [recordReserveEvents, wp_bind]
    refine wp_mono (entry _) ?_
    intro t r s' first
    cases r with
    | error f => exact first
    | ok u =>
      refine wp_mono ih ?_
      intro v r s' later
      exact forall_mem_append.mpr ⟨first, later⟩

theorem newReservation_run (estimate : LLMUsageMetrics) (approved : Bool) (reason : String)
    (scopes : List BudgetReservationScope) (s : Unit) :
    (newReservation estimate approved reason scopes).wp s fun t r _ =>
      (∀ e ∈ t, isReserveStep e.1 = true) ∧ ∃ reservation, r = .ok reservation ∧
        reservation.approved = approved := by
  simp only [newReservation, wp_bind, wp_perform, wp_pure]
  intro reservationId
  exact ⟨by simp [isReserveStep], _, rfl, rfl⟩

/-- A step of `reserve_usage` that decides nothing about the policy. -/
def IsApart (policy : LLMBudget) (e : BudgetEvent) : Prop :=
  isReserveStep e.1 = true ∧ ∀ hold, (holdMonitor policy).next hold e = hold

theorem matchingPolicies_run (policy : LLMBudget) (context : LLMRequestContext) (s : Unit) :
    (matchingPolicies context).wp s fun t r _ =>
      (∀ e ∈ t, IsApart policy e) ∧
        ∀ policies, r = .ok policies → (∀ e ∈ t, Answerable policy context e) →
          policy ∈ policies := by
  have asked : ∀ answer, IsApart policy ⟨.gateway (.resolveCostCenter context), answer⟩ :=
    fun answer => ⟨rfl, fun hold => rfl⟩
  have selected : ∀ answer, IsApart policy ⟨.selectPolicies context.tenantId, answer⟩ :=
    fun answer => ⟨rfl, fun hold => rfl⟩
  simp only [matchingPolicies, wp_bind, wp_perform, raiseFault_wp]
  intro answer
  cases answer with
  | error f => exact ⟨forall_mem_cons.mpr ⟨asked _, by simp⟩, by simp⟩
  | ok costCenterId =>
    intro found
    have steps := forall_mem_append.mpr
      ⟨List.forall_mem_singleton.mpr (asked (.ok costCenterId)),
        List.forall_mem_singleton.mpr (selected found)⟩
    cases found with
    | error f => exact ⟨steps, by simp⟩
    | ok policies =>
      refine ⟨steps, ?_⟩
      intro matched same answered
      cases same
      obtain ⟨resolves, selects⟩ := forall_mem_cons.mp answered
      exact List.mem_filter.mpr
        ⟨List.forall_mem_singleton.mp selects rfl, resolves rfl⟩

theorem firstHardLimitDenial_run (hard : policy.hardLimit = true) (policies : List LLMBudget)
    (s : Unit) :
    (firstHardLimitDenial text context estimate policies).wp s fun t r _ =>
      (∀ e ∈ t, isReserveStep e.1 = true) ∧
        (r = .ok none → policy ∈ policies →
          (holdMonitor policy).stateAfter (.asking estimate context) t = .held estimate) := by
  induction policies with
  | nil => simp [firstHardLimitDenial]
  | cons first rest ih =>
    simp only [firstHardLimitDenial, wp_ite]
    split
    · rename_i soft
      refine wp_mono ih ?_
      intro t r s' h
      refine ⟨h.1, fun passed mem => h.2 passed ?_⟩
      cases mem with
      | head => simp [hard] at soft
      | tail _ mem => exact mem
    · simp only [wp_bind]
      refine wp_mono (reserveWindow_run first s) ?_
      intro t r s' clock
      have steps : ∀ e ∈ t, isReserveStep e.1 = true := by
        intro e mem
        rw [clock e mem]
        rfl
      have asking : (holdMonitor policy).stateAfter (.asking estimate context) t =
        .asking estimate context := by
        refine stateAfter_of_kept fun e mem => ?_
        obtain ⟨effect, answer⟩ := e
        cases clock _ mem
        rfl
      cases r with
      | error f => exact ⟨steps, by simp⟩
      | ok window =>
        simp only [wp_perform, raiseFault_wp]
        intro answer
        cases answer with
        | error f =>
          refine ⟨forall_mem_append.mpr ⟨steps, ?_⟩, by simp⟩
          simp [isReserveStep]
        | ok spent =>
          cases denied : limitDenial text first spent estimate with
          | some reason =>
            simp only [denied, wp_pure]
            refine ⟨forall_mem_append.mpr ⟨steps, ?_⟩, by simp⟩
            simp [isReserveStep]
          | none =>
            simp only [denied]
            refine wp_mono ih ?_
            intro u r s' h
            refine ⟨forall_mem_append.mpr ⟨steps, forall_mem_cons.mpr
              ⟨rfl, h.1⟩⟩, fun passed mem => ?_⟩
            rw [stateAfter_append, asking]
            change (holdMonitor policy).stateAfter
              ((Hold.asking estimate context).read policy first context spent) u = .held estimate
            by_cases same : first = policy
            · -- the check that passed is the policy's own
              subst same
              rw [Hold.read, if_pos ⟨rfl, rfl, limitDenial_eq_none denied⟩]
              exact held_of_reserve_steps h.1
            · rw [Hold.read, if_neg fun both => same both.1]
              refine h.2 passed ?_
              cases mem with
              | head => exact absurd rfl same
              | tail _ mem => exact mem

/-- What `reserve_usage` is known by: an approval holds the estimate. -/
def Holds (policy : LLMBudget) (context : LLMRequestContext) (estimate : LLMUsageMetrics)
    (approves : Prop) (t : List BudgetEvent) : Prop :=
  (∀ e ∈ t, isReserveStep e.1 = true) ∧
    (approves → (∀ e ∈ t, Answerable policy context e) →
      (holdMonitor policy).stateAfter (.asking estimate context) t = .held estimate)

theorem Holds.append {approves : Prop} {u : List BudgetEvent}
    (first : Holds policy context estimate approves t) (rest : ∀ e ∈ u, isReserveStep e.1 = true) :
    Holds policy context estimate approves (t ++ u) := by
  refine ⟨forall_mem_append.mpr ⟨first.1, rest⟩, fun approved answered => ?_⟩
  rw [stateAfter_append,
    first.2 approved (forall_mem_append.mp answered).1, held_of_reserve_steps rest]

theorem checkLimits_run (hard : policy.hardLimit = true) (s : Unit) :
    (checkLimits text context estimate).wp s fun t r _ =>
      Holds policy context estimate (∃ policies, r = .ok (some (policies, none))) t := by
  simp only [checkLimits, Action.wp_tryCatch, wp_bind]
  refine wp_mono (matchingPolicies_run policy context s) ?_
  intro t r s' h
  have handled : ∀ (f : Fault) (t : List BudgetEvent) (s : Unit),
      (∀ e ∈ t, isReserveStep e.1 = true) →
      ((if f.isDatabaseError = true then do
          let undone : Except Fault Unit ← Action.perform (BudgetEffect.gateway .rollback)
          raiseFault undone
          pure none
        else Action.throw f :
          ReserveStep (Option (List LLMBudget × Option (LLMBudget × String))))).wp s fun u r _ =>
        Holds policy context estimate (∃ policies, r = .ok (some (policies, none))) (t ++ u) := by
    intro f t s steps
    simp only [wp_ite, wp_bind, wp_perform, raiseFault_wp, wp_throw]
    split
    · intro undone
      cases undone <;> exact ⟨by simpa [isReserveStep, or_imp, forall_and] using steps, by simp⟩
    · exact ⟨by simpa using steps, by simp⟩
  cases r with
  | error f => exact handled f t s' fun e mem => (h.1 e mem).1
  | ok policies =>
    refine wp_mono (firstHardLimitDenial_run hard policies s') ?_
    intro u r s' checked
    have steps := forall_mem_append.mpr ⟨fun e mem => (h.1 e mem).1, checked.1⟩
    cases r with
    | error f => exact handled f (t ++ u) s' steps
    | ok denial =>
      simp only [wp_pure, append_nil]
      refine ⟨steps, ?_⟩
      intro passed answered
      obtain ⟨found, same⟩ := passed
      cases same
      have mem := h.2 _ rfl (forall_mem_append.mp answered).1
      rw [stateAfter_append,
        stateAfter_of_kept fun e mem => (h.1 e mem).2 _]
      exact checked.2 rfl mem

theorem reserveUsage_run (guard : BudgetGuard) (session : guard.hasSession = true)
    (hard : policy.hardLimit = true) (s : Unit) :
    (guard.reserveUsage text estimate context).wp s fun t r _ =>
      ∃ u, t = ⟨.enterReserve estimate context, ()⟩ :: u ∧
        Holds policy context estimate
          (∃ reservation, r = .ok reservation ∧ reservation.approved = true) u := by
  simp only [reserveUsage, wp_bind, wp_perform, session, Bool.not_true,
    Bool.false_eq_true, if_false]
  intro entered
  refine wp_mono (checkLimits_run hard s) ?_
  intro t r s' checked
  cases r with
  | error f => exact ⟨t, rfl, checked.1, by simp⟩
  | ok result =>
    cases result with
    | none =>
      refine wp_mono (newReservation_run estimate false _ _ s') ?_
      intro u r s' h
      obtain ⟨steps, reservation, rfl, refused⟩ := h
      refine ⟨t ++ u, rfl, forall_mem_append.mpr ⟨checked.1, steps⟩, ?_⟩
      simp [refused]
    | some result =>
      obtain ⟨policies, denial⟩ := result
      cases denial with
      | some denial =>
        simp only [wp_bind]
        refine wp_mono (newReservation_run estimate false _ _ s') ?_
        intro u r s' h
        obtain ⟨steps, reservation, rfl, refused⟩ := h
        refine wp_mono (recordReserveEvents_run _ _ _ _ _ _ s') ?_
        intro v r s' rows
        have all := forall_mem_append.mpr
          ⟨checked.1, forall_mem_append.mpr ⟨steps, rows⟩⟩
        cases r with
        | error f => exact ⟨t ++ (u ++ v), rfl, all, by simp⟩
        | ok a =>
          simp only [wp_pure, append_nil]
          exact ⟨t ++ (u ++ v), rfl, all, by simp [refused]⟩
      | none =>
        simp only [wp_bind]
        refine wp_mono (newReservation_run estimate true _ _ s') ?_
        intro u r s' h
        obtain ⟨steps, reservation, rfl, approved⟩ := h
        refine wp_mono (recordReserveEvents_run _ _ _ _ _ _ s') ?_
        intro v r s' rows
        have held := checked.append (forall_mem_append.mpr ⟨steps, rows⟩)
        have passed : Holds policy context estimate True (t ++ (u ++ v)) :=
          ⟨held.1, fun _ => held.2 ⟨policies, rfl⟩⟩
        cases r with
        | error f => exact ⟨t ++ (u ++ v), rfl, passed.1, by simp⟩
        | ok a =>
          simp only [wp_pure, append_nil]
          exact ⟨t ++ (u ++ v), rfl, passed.1, fun _ => passed.2 trivial⟩

theorem isHeld_of_gateway {effect : Effect} {answer : Answer effect} {s : Hold}
    (held : s.isHeld = true) (quiet : storesSuccess ⟨effect, answer⟩ = false) :
    ((holdMonitor policy).next s ⟨.gateway effect, answer⟩).isHeld = true := by
  cases s with
  | idle | asking => cases held
  | held estimate =>
    cases effect with
    | usageForPolicy => cases answer <;> rfl
    | recordUsage record =>
      cases answer with
      | error f => rfl
      | ok u =>
        have failure : record.status ≠ .success := by simpa [storesSuccess] using quiet
        simp [holdMonitor, Hold.record, Hold.isHeld, failure]
    | _ => rfl

theorem next_of_other {effect : Effect} {answer : Answer effect}
    (other : ∀ estimate asked, effect ≠ .reserve estimate asked) (granted : Bool) :
    grantMonitor.next granted ⟨effect, answer⟩ = (granted && !storesSuccess ⟨effect, answer⟩) := by
  cases effect <;> first | rfl | exact absurd rfl (other _ _)

theorem other_keeps {effect : Effect} {answer : Answer effect} {granted : Bool} {s : Hold}
    (other : ∀ estimate asked, effect ≠ .reserve estimate asked)
    (related : granted = true → s.isHeld = true)
    (run : Program.Runs (.call (.gateway effect) .ret) t answer)
    (allowed : granted = true ∨ storesSuccess ⟨effect, answer⟩ = false) :
    (grantMonitor.next granted ⟨effect, answer⟩ = true →
        ((holdMonitor policy).stateAfter s t).isHeld = true) ∧
      (holdMonitor policy).Always (storedWhileHeld context) s t := by
  cases run with
  | call rest =>
    cases rest
    refine ⟨?_, ?_, trivial⟩
    · rw [next_of_other other, Bool.and_eq_true, Bool.not_eq_true']
      intro still
      exact isHeld_of_gateway (related still.1) still.2
    · simp only [storedWhileHeld, Bool.or_eq_true, Bool.not_eq_true']
      exact allowed.imp_left related

theorem grant_keepsUp (guard : BudgetGuard) (session : guard.hasSession = true)
    (hard : policy.hardLimit = true) :
    KeepsUp (guard.carryOut text) (Answerable policy context) grantMonitor
      (usesGrant context) (holdMonitor policy) (storedWhileHeld context)
      fun granted s => granted = true → s.isHeld = true := by
  intro granted s effect answer u related run answered allowed
  simp only [usesGrant, Bool.and_eq_true, Bool.or_eq_true, Bool.not_eq_true'] at allowed
  cases effect with
  | reserve estimate asked =>
    have own : asked = context := by simpa [reservesFor] using allowed.2
    subst own
    have spec := (Action.wp_run (guard.reserveUsage text estimate asked) () _).mpr
      (reserveUsage_run guard session hard ())
    obtain ⟨v, rfl, steps, holds⟩ := (Program.wp_iff_runs _ _).mp spec u answer run
    refine ⟨?_, by simp [storedWhileHeld], always_of_reserve_steps steps _⟩
    intro granted
    have held := holds ?_ (forall_mem_cons.mp answered).2
    · exact congrArg Hold.isHeld held
    · cases answer with
      | error f => cases granted
      | ok reservation => exact ⟨reservation, rfl, granted⟩
  | _ => exact other_keeps (by simp) related run allowed.1

end BudgetGuard

end

structure ChatCall where
  gateway : LLMGateway
  request : LLMChatRequest
  context : LLMRequestContext

def ChatCall.program (text : ℚ → String) (call : ChatCall) :
    Program BudgetEffect BudgetAnswer (Except Exc LLMResponse) :=
  (call.gateway.chat call.request call.context).handle (call.gateway.budget.carryOut text)

theorem exists_answerable (policy : LLMBudget) (context : LLMRequestContext)
    (effect : BudgetEffect) : ∃ answer, Answerable policy context ⟨effect, answer⟩ := by
  cases effect with
  | gateway effect =>
    cases effect with
    | resolveCostCenter asked => exact ⟨.error .cancelled, trivial⟩
    | adapterChat | adapterTest => exact ⟨.error .cancelled, trivial⟩
    | adapterStream => exact ⟨([], .finished), trivial⟩
    | isOpen => exact ⟨false, trivial⟩
    | utcNow => exact ⟨⟨0, 0, 0, 0⟩, trivial⟩
    | yieldDelta => exact ⟨.next, trivial⟩
    | newDeploymentId => exact ⟨(0 : Nat), trivial⟩
    | recordSuccess | recordFailure | observe => exact ⟨(), trivial⟩
    | _ => exact ⟨.error .cancelled, trivial⟩
  | enterReserve => exact ⟨(), trivial⟩
  | selectPolicies => exact ⟨.error .cancelled, trivial⟩
  | newReservationId => exact ⟨"", trivial⟩

theorem ChatCall.stored_while_held {policy : LLMBudget} {text : ℚ → String} {call : ChatCall}
    {rest : Program BudgetEffect BudgetAnswer (Except Exc LLMResponse)} {t : List BudgetEvent}
    (session : call.gateway.budget.hasSession = true) (hard : policy.hardLimit = true)
    (reach : Program.Reaches (call.program text) t rest)
    (answered : ∀ e ∈ t, Answerable policy call.context e) :
    (holdMonitor policy).Always (storedWhileHeld call.context) .idle t := by
  refine reach.of_runs (exists_answerable policy call.context) answered
    (fun t u whole => ((always_append _ _ _).mp whole).1) ?_
  intro t r run answered
  obtain ⟨coarse, alone, carried⟩ := Program.runs_handle run
  exact KeepsUp.always (BudgetGuard.grant_keepsUp call.gateway.budget session hard)
    carried answered (by simp) (LLMGateway.chat_grant alone)

theorem asking_of_next {policy : LLMBudget} {s : Hold} {effect : Effect} {answer : Answer effect}
    {estimate : LLMUsageMetrics} {asked : LLMRequestContext}
    (asking : (holdMonitor policy).next s ⟨.gateway effect, answer⟩ = .asking estimate asked) :
    s = .asking estimate asked := by
  cases effect with
  | usageForPolicy =>
    cases answer with
    | error f => exact asking
    | ok spent =>
      cases s with
      | idle | held => cases asking
      | asking =>
        simp only [holdMonitor, Hold.read] at asking
        split at asking
        · cases asking
        · exact asking
  | recordUsage record =>
    cases answer with
    | error f => exact asking
    | ok u =>
      cases s with
      | idle | asking => exact asking
      | held =>
        simp only [holdMonitor, Hold.record] at asking
        split at asking <;> cases asking
  | _ => exact asking

theorem asking_own {policy : LLMBudget} {t : List BudgetEvent}
    (h : (holdMonitor policy).Always (storedWhileHeld context) .idle t) {estimate : LLMUsageMetrics}
    {asked : LLMRequestContext}
    (asking : (holdMonitor policy).stateAfter .idle t = .asking estimate asked) :
    asked = context := by
  induction t using List.reverseRecOn generalizing estimate asked with
  | nil => cases asking
  | append_singleton t e ih =>
    obtain ⟨before, last, _⟩ := (always_append _ _ _).mp h
    rw [stateAfter_append] at asking
    have kept := @ih before
    generalize (holdMonitor policy).stateAfter .idle t = s at asking last kept
    obtain ⟨effect, answer⟩ := e
    cases effect with
    | enterReserve =>
      cases asking
      simpa [storedWhileHeld] using last
    | selectPolicies | newReservationId => exact kept asking
    | gateway effect => exact kept (asking_of_next asking)

end AgentHive
