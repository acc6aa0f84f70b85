import AgentHive.Llm.BudgetRuns
import AgentHive.Llm.Gateway

/-!
The runs of the steps that the entry points of the gateway share: the policy
decision, the reservation, a refusal, the routing and the usage rows.
-/

namespace AgentHive

open Process.Action (wp_bind wp_ite wp_mono wp_ofExcept wp_perform)

def isPrelude : Effect → Bool
  | .resolveCostCenter _ | .reserve _ _ | .isOpen _ => true
  | _ => false

def isBookkeeping : Effect → Bool
  | .recordUsage _ _ | .observe _ => true
  | effect => isBudgetStep effect

theorem not_prelude_of_bookkeeping {t : Trace} (steps : ∀ e ∈ t, isBookkeeping e.1 = true) :
    ∀ e ∈ t, isPrelude e.1 = false := by
  intro e mem
  obtain ⟨effect, answer⟩ := e
  have step := steps _ mem
  cases effect <;> first | rfl | cases step

theorem GuardRun.bookkeeping {α : Type} {rows : List Terminal} {t : Trace} {r : Except Exc α}
    (run : GuardRun rows t r) : ∀ e ∈ t, isBookkeeping e.1 = true := by
  intro e mem
  obtain ⟨effect, answer⟩ := e
  have step := run.steps _ mem
  cases effect <;> first | rfl | cases step

theorem GuardRun.later {α : Type} {rows : List Terminal} {t : Trace} {r : Except Exc α}
    (run : GuardRun rows t r) : ∀ e ∈ t, isPrelude e.1 = false :=
  not_prelude_of_bookkeeping run.bookkeeping

namespace LLMGateway

open Process (Action)
open UsageCollector

variable {σ : Type}

theorem append_wp (record : UsageRecord) (context : LLMRequestContext) (s : σ)
    (Q : Trace → Except Exc Unit → σ → Prop) :
    (append record context : Step σ Unit).wp s Q ↔
      Q [⟨.recordUsage record context, .ok ()⟩] (.ok ()) s ∧
        ∀ f, Q [⟨.recordUsage record context, .error f⟩] (.error f.toExc) s := by
  simp only [append, wp_bind, wp_perform]
  constructor
  · intro h
    exact ⟨h (.ok ()), fun f => h (.error f)⟩
  · intro h answer
    cases answer with
    | ok u => exact h.1
    | error f => exact h.2 f

variable {x : Exc}

theorem calculate_error {catalog : ModelPricingCatalog} {input output : Int} {key : Option String}
    (h : catalog.calculate input output key = .error x) :
    x.isException = true ∧ x.isHttp = false := by
  simp only [ModelPricingCatalog.calculate, ModelPricingCatalog.quantize,
    LLMUsageMetrics.validate, bind, Except.bind] at h
  split at h
  · rename_i y failed
    split at failed
    · cases failed
    · cases failed
      cases h
      exact ⟨rfl, rfl⟩
  · split at h
    · cases h
    · cases h
      exact ⟨rfl, rfl⟩

theorem adapterFor_error {route : RouteSelection} (h : adapterFor route = .error x) :
    x.isHttp = true := by
  simp only [adapterFor] at h
  split at h
  · cases h
    rfl
  · cases h

theorem isException_of_isHttp (h : x.isHttp = true) : x.isException = true := by
  cases x <;> first | rfl | cases h

def reservedBy : CallEvent → Option BudgetReservation
  | ⟨.reserve _ _, .ok reservation⟩ => some reservation
  | _ => none

def reservations (t : Trace) : List BudgetReservation := t.filterMap reservedBy

def resolvedBy : CallEvent → Option UUID
  | ⟨.resolveCostCenter _, .ok resolved⟩ => resolved
  | _ => none

def resolvedIn (t : Trace) : Option UUID := (t.filterMap resolvedBy).head?

inductive Evaluated (gateway : LLMGateway) (request : LLMChatRequest)
    (context : LLMRequestContext) : Trace → Except Exc PolicyDecision → Prop
  | asked {resolved : Option UUID} :
      Evaluated gateway request context [⟨.resolveCostCenter context, .ok resolved⟩]
        (.ok (ModelPolicyEngine.evaluate gateway.policies request context resolved))
  | known : Evaluated gateway request context []
      (.ok (ModelPolicyEngine.evaluate gateway.policies request context none))
  | unresolved {f : Fault} :
      Evaluated gateway request context [⟨.resolveCostCenter context, .error f⟩] (.error f.toExc)

variable (gateway : LLMGateway) (request : LLMChatRequest)

theorem evaluate_run (context : LLMRequestContext) (s : σ) :
    (gateway.evaluate request context : Step σ PolicyDecision).wp s fun t r s' =>
      s' = s ∧ Evaluated gateway request context t r := by
  simp only [evaluate, wp_ite]
  split
  · exact ⟨rfl, .known⟩
  · simp only [wp_bind, wp_perform]
    intro answer
    cases answer with
    | ok resolved => exact ⟨rfl, .asked⟩
    | error f => exact ⟨rfl, .unresolved⟩

inductive Reserved (gateway : LLMGateway) (request : LLMChatRequest)
    (context : LLMRequestContext) : Trace → Except Exc BudgetReservation → Prop
  | unpriced {x : Exc} (failed : gateway.budget.pricing.estimate request = .error x) :
      Reserved gateway request context [] (.error x)
  | faulted {estimate : LLMUsageMetrics} {f : Fault}
      (priced : gateway.budget.pricing.estimate request = .ok estimate) :
      Reserved gateway request context [⟨.reserve estimate context, .error f⟩] (.error f.toExc)
  | reserved {estimate : LLMUsageMetrics} {reservation : BudgetReservation}
      (priced : gateway.budget.pricing.estimate request = .ok estimate) :
      Reserved gateway request context [⟨.reserve estimate context, .ok reservation⟩]
        (.ok reservation)

theorem reserve_run (context : LLMRequestContext) (s : σ) :
    (gateway.budget.reserve request context : Step σ BudgetReservation).wp s fun t r s' =>
      s' = s ∧ Reserved gateway request context t r := by
  simp only [BudgetGuard.reserve, wp_bind, wp_ofExcept, wp_perform]
  cases priced : gateway.budget.pricing.estimate request with
  | error x => exact ⟨trivial, .unpriced priced⟩
  | ok estimate =>
    intro answer
    cases answer with
    | ok reservation => exact ⟨rfl, .reserved priced⟩
    | error f => exact ⟨rfl, .faulted priced⟩

inductive Refused (context : LLMRequestContext) : Trace → Exc → Prop
  | uncommitted {record : UsageRecord} {f : Fault} (own : record.requestId = context.requestId)
      (failure : record.status ≠ .success) :
      Refused context [⟨.recordUsage record context, .error f⟩] f.toExc
  | refused {record : UsageRecord} {x : Exc} (calls : List ObservedCall)
      (own : record.requestId = context.requestId) (failure : record.status ≠ .success)
      (http : x.isHttp = true) :
      Refused context
        (⟨.recordUsage record context, .ok ()⟩ :: calls.map fun call => ⟨.observe call, ()⟩) x

theorem refuse_run {α : Type} (status : LLMCallStatus) (code : Nat)
    (errorCode reason message : String) (context : LLMRequestContext)
    (observed : Option ObservedCall) (failure : status ≠ .success) (s : σ) :
    (refuse status code errorCode reason message context observed : Step σ α).wp s
      fun t r s' => s' = s ∧ ∃ x, r = .error x ∧ Refused context t x := by
  simp only [refuse, wp_bind, append_wp]
  refine ⟨?_, fun f => ⟨trivial, _, rfl, .uncommitted rfl failure⟩⟩
  cases observed with
  | none => exact ⟨rfl, _, rfl, .refused [] rfl failure rfl⟩
  | some call =>
    intro u
    exact ⟨rfl, _, rfl, .refused [call] rfl failure rfl⟩

inductive Authorized (gateway : LLMGateway) (request : LLMChatRequest)
    (context : LLMRequestContext) (effective : PolicyDecision → LLMChatRequest) :
    Trace → Except Exc (PolicyDecision × BudgetReservation) → Option BudgetReservation → Prop
  | undecided {t : Trace} {x : Exc} (evaluated : Evaluated gateway request context t (.error x)) :
      Authorized gateway request context effective t (.error x) none
  | denied {t u : Trace} {decision : PolicyDecision} {x : Exc}
      (evaluated : Evaluated gateway request context t (.ok decision))
      (refused : decision.allowed = false) (refusal : Refused context u x) :
      Authorized gateway request context effective (t ++ u) (.error x) none
  | unreserved {t u : Trace} {decision : PolicyDecision} {x : Exc}
      (evaluated : Evaluated gateway request context t (.ok decision))
      (allowed : decision.allowed = true)
      (reserved : Reserved gateway (effective decision) context u (.error x)) :
      Authorized gateway request context effective (t ++ u) (.error x) none
  | overBudget {t u v : Trace} {decision : PolicyDecision} {reservation : BudgetReservation}
      {x : Exc} (evaluated : Evaluated gateway request context t (.ok decision))
      (allowed : decision.allowed = true)
      (reserved : Reserved gateway (effective decision) context u (.ok reservation))
      (refused : reservation.approved = false) (refusal : Refused context v x) :
      Authorized gateway request context effective (t ++ (u ++ v)) (.error x) (some reservation)
  | authorized {t u : Trace} {decision : PolicyDecision} {reservation : BudgetReservation}
      (evaluated : Evaluated gateway request context t (.ok decision))
      (allowed : decision.allowed = true)
      (reserved : Reserved gateway (effective decision) context u (.ok reservation))
      (approved : reservation.approved = true) :
      Authorized gateway request context effective (t ++ u) (.ok (decision, reservation))
        (some reservation)

theorem authorize_run (context : LLMRequestContext) (effective : PolicyDecision → LLMChatRequest)
    (subject : String) (metrics : Bool) (hold : BudgetReservation → σ → σ) (s : σ) :
    (gateway.authorize request context effective subject metrics hold :
        Step σ (PolicyDecision × BudgetReservation)).wp s fun t r s' =>
      ∃ held, Authorized gateway request context effective t r held ∧
        s' = held.elim s fun reservation => hold reservation s := by
  simp only [authorize, wp_bind]
  refine wp_mono (evaluate_run gateway request context _) ?_
  intro t r s' h
  obtain ⟨rfl, evaluated⟩ := h
  cases r with
  | error x => exact ⟨none, .undecided evaluated, rfl⟩
  | ok decision =>
    simp only [wp_ite]
    split
    · rename_i denied
      refine wp_mono (refuse_run .denied 403 _ _ _ context _ (by decide) _) ?_
      intro u r s' h
      obtain ⟨rfl, x, rfl, refusal⟩ := h
      exact ⟨none, .denied evaluated (by simpa using denied) refusal, rfl⟩
    · rename_i allowed
      simp only [Bool.not_eq_true', Bool.not_eq_false] at allowed
      simp only [wp_bind]
      refine wp_mono (reserve_run gateway _ context _) ?_
      intro u r s' h
      obtain ⟨rfl, reserved⟩ := h
      cases r with
      | error x => exact ⟨none, .unreserved evaluated allowed reserved, rfl⟩
      | ok reservation =>
        simp only [Action.wp_modify, wp_ite, List.nil_append]
        split
        · rename_i refused
          refine wp_mono (refuse_run .budgetExceeded 402 _ _ _ context _ (by decide) _)
            ?_
          intro v r s' h
          obtain ⟨rfl, x, rfl, refusal⟩ := h
          exact ⟨some reservation,
            .overBudget evaluated allowed reserved (by simpa using refused) refusal, rfl⟩
        · rename_i approved
          simp only [Bool.not_eq_true', Bool.not_eq_false] at approved
          simp only [Action.wp_pure, List.append_nil]
          exact ⟨some reservation, .authorized evaluated allowed reserved approved, rfl⟩

variable {decision : PolicyDecision}

theorem candidates_http {router : ModelRouter} {request : LLMChatRequest}
    (h : router.candidates request decision = .error x) : x.isHttp = true := by
  simp only [ModelRouter.candidates] at h
  split at h
  · cases h
    rfl
  · split at h
    · cases h
      rfl
    · cases h

theorem routesFrom_http {router : ModelRouter} {request : LLMChatRequest}
    {flagged : List (DeploymentConfig × Bool)}
    (h : router.routesFrom request decision flagged = .error x) : x.isHttp = true := by
  simp only [ModelRouter.routesFrom] at h
  split at h
  · cases h
  · split at h
    · cases h
      rfl
    · cases h
      rfl

theorem askOpen_run (deployments : List DeploymentConfig) (s : σ) :
    (askOpen deployments : Step σ (List (DeploymentConfig × Bool))).wp s fun t r s' =>
      s' = s ∧ (∃ flagged, r = .ok flagged) ∧ ∀ e ∈ t, ∃ d b, e = ⟨.isOpen d, b⟩ := by
  induction deployments with
  | nil => exact ⟨rfl, ⟨_, rfl⟩, by simp⟩
  | cons d rest ih =>
    simp only [askOpen, wp_bind, wp_perform]
    intro opened
    refine wp_mono ih ?_
    intro t r s' h
    obtain ⟨rfl, ⟨flagged, rfl⟩, asked⟩ := h
    refine ⟨rfl, ⟨_, rfl⟩, ?_⟩
    intro e mem
    simp only [List.append_nil, List.cons_append, List.nil_append, List.mem_cons] at mem
    cases mem with
    | inl first => exact ⟨_, _, first⟩
    | inr other => exact asked e other

structure Planned (router : ModelRouter) (t : Trace) (r : Except Exc (List RouteSelection)) :
    Prop where
  asked : ∀ e ∈ t, ∃ d b, e = ⟨.isOpen d, b⟩
  http : ∀ x, r = .error x → x.isHttp = true
  nonempty : ∀ routes, r = .ok routes → routes ≠ []
  registered : ∀ routes, r = .ok routes → ∀ route ∈ routes, route.provider ∈ router.providers

theorem plan_run (decision : PolicyDecision) (s : σ) :
    (gateway.plan request decision : Step σ (List RouteSelection)).wp s fun t r s' =>
      s' = s ∧ Planned gateway.router t r := by
  simp only [plan, wp_bind, wp_ofExcept]
  cases found : gateway.router.candidates request decision with
  | error x =>
    refine ⟨trivial, by simp, ?_, by simp, by simp⟩
    intro y same
    cases same
    exact candidates_http found
  | ok deployments =>
    refine wp_mono (askOpen_run deployments s) ?_
    intro t r s' h
    obtain ⟨rfl, ⟨flagged, rfl⟩, asked⟩ := h
    simp only [List.append_nil, List.nil_append]
    exact ⟨trivial, asked, fun x failed => routesFrom_http failed,
      fun routes ok => ModelRouter.routesFrom_ne_nil ok,
      fun routes ok => ModelRouter.routesFrom_registered ok⟩

def releasing : Option BudgetReservation → List Terminal
  | some held => gateway.budget.closing .release held
  | none => []

inductive HeldRun (gateway : LLMGateway) (held : Option BudgetReservation) :
    Trace → Except Exc Unit → Prop
  | idle (rows : gateway.releasing held = []) : HeldRun gateway held [] (.ok ())
  | released {reservation : BudgetReservation} {t : Trace} {r : Except Exc Unit}
      (held_ : held = some reservation) (approved : reservation.approved = true)
      (run : GuardRun (gateway.budget.closing .release reservation) t r) :
      HeldRun gateway held t r

variable {held : Option BudgetReservation} {t : Trace}

theorem HeldRun.guarded {gateway : LLMGateway} {r : Except Exc Unit}
    (run : HeldRun gateway held t r) : GuardRun (gateway.releasing held) t r := by
  cases run with
  | idle rows =>
    rw [rows]
    exact .nothing ()
  | released held_ approved run =>
    rw [held_]
    exact run

theorem releaseHeld_run (held : Option BudgetReservation) (context : LLMRequestContext)
    (reason : String) (s : σ) :
    (gateway.releaseHeld held context reason : Step σ Unit).wp s fun t r s' =>
      s' = s ∧ HeldRun gateway held t r := by
  cases held with
  | none => exact ⟨rfl, .idle rfl⟩
  | some reservation =>
    cases approved : reservation.approved with
    | true =>
      exact wp_mono (gateway.budget.release_guarded reservation context reason s)
        fun t r s' h => ⟨h.1, .released rfl approved h.2⟩
    | false =>
      have nothing : (gateway.releaseHeld (some reservation) context reason : Step σ Unit) =
          pure () := by
        simp [releaseHeld, BudgetGuard.release, approved]
      rw [nothing]
      exact ⟨rfl, .idle (by simp [releasing, BudgetGuard.closing, approved])⟩

def IsOperationRow (operation : String) (context : LLMRequestContext) (record : UsageRecord) :
    Prop :=
  record.requestId = context.requestId ∧ record.status ≠ .success ∧
    record.metadata.get "operation" = .str operation

def IsPlainRow (context : LLMRequestContext) (record : UsageRecord) : Prop :=
  record.requestId = context.requestId ∧ record.status ≠ .success ∧ record.metadata = []

theorem failureRecord_plain (context : LLMRequestContext) (errorCode errorMessage : String)
    (route : Option RouteSelection) :
    IsPlainRow context (failureRecord context .error errorCode errorMessage route []) := by
  refine ⟨rfl, ?_, rfl⟩
  intro same
  cases same

/-- The `except` block after an attempt that raised `x`, with the reservation
still held at its end and whether the error was recorded for good. The loop
goes on unless it has to `stop` here. -/
inductive AttemptFailed (gateway : LLMGateway) (context : LLMRequestContext)
    (operation : String) (reservation : BudgetReservation) (route : RouteSelection) (x : Exc)
    (stop : Bool) : Trace → Except Exc Unit → Option BudgetReservation → Bool → Prop
  | uncommitted {record : UsageRecord} {f : Fault}
      (row : IsOperationRow operation context record) :
      AttemptFailed gateway context operation reservation route x stop
        [⟨.recordFailure route.deployment.id x.className, ()⟩,
          ⟨.recordUsage record context, .error f⟩]
        (.error f.toExc) (some reservation) false
  | fellBack {record : UsageRecord} (row : IsOperationRow operation context record)
      (more : stop = false) :
      AttemptFailed gateway context operation reservation route x stop
        [⟨.recordFailure route.deployment.id x.className, ()⟩,
          ⟨.recordUsage record context, .ok ()⟩]
        (.ok ()) (some reservation) false
  | unreleased {record : UsageRecord} {u : Trace} {y : Exc}
      (row : IsOperationRow operation context record) (end_ : stop = true)
      (run : GuardRun (gateway.budget.closing .release reservation) u
        (.error y : Except Exc Unit)) :
      AttemptFailed gateway context operation reservation route x stop
        (⟨.recordFailure route.deployment.id x.className, ()⟩ ::
          ⟨.recordUsage record context, .ok ()⟩ :: u)
        (.error y) (some reservation) true
  | released {record : UsageRecord} {u : Trace} (row : IsOperationRow operation context record)
      (end_ : stop = true)
      (run : GuardRun (gateway.budget.closing .release reservation) u
        (.ok () : Except Exc Unit)) :
      AttemptFailed gateway context operation reservation route x stop
        (⟨.recordFailure route.deployment.id x.className, ()⟩ ::
          ⟨.recordUsage record context, .ok ()⟩ :: u)
        (.error x) none true

variable {context : LLMRequestContext}

theorem AttemptFailed.kept {gateway : LLMGateway} {operation : String}
    {reservation : BudgetReservation} {route : RouteSelection} {stop : Bool} {a : Unit}
    {recorded : Bool}
    (failed : AttemptFailed gateway context operation reservation route x stop t (.ok a) held
      recorded) : held = some reservation ∧ recorded = false := by
  cases failed
  exact ⟨rfl, rfl⟩

inductive RowRun (kind : UsageRecord → Prop) (context : LLMRequestContext) :
    Trace → Except Exc Unit → Prop
  | stored {record : UsageRecord} (row : kind record) :
      RowRun kind context [⟨.recordUsage record context, .ok ()⟩] (.ok ())
  | lost {record : UsageRecord} {f : Fault} (row : kind record) :
      RowRun kind context [⟨.recordUsage record context, .error f⟩] (.error f.toExc)

variable {kind : UsageRecord → Prop}

theorem append_run {record : UsageRecord} (row : kind record) (context : LLMRequestContext)
    (s : σ) :
    (append record context : Step σ Unit).wp s fun t r s' =>
      s' = s ∧ RowRun kind context t r := by
  rw [append_wp]
  exact ⟨⟨rfl, .stored row⟩, fun f => ⟨rfl, .lost row⟩⟩

theorem recordHttpFailure_run (context : LLMRequestContext) {exc : Exc} (http : exc.isHttp = true)
    (route : Option RouteSelection) (operation : String) (s : σ) :
    (gateway.recordHttpFailure context exc route operation : Step σ Unit).wp s fun t r s' =>
      s' = s ∧ RowRun (IsOperationRow operation context) context t r := by
  cases exc with
  | http code detail =>
    refine append_run ⟨rfl, ?_, ?_⟩ context s
    · intro same
      cases same
    · simp [httpFailureRecord, failureRecord, Dict.get]
  | _ => cases http

inductive RowUnless (recorded : Bool) (kind : UsageRecord → Prop) (context : LLMRequestContext) :
    Trace → Except Exc Unit → Prop
  | skipped (done : recorded = true) : RowUnless recorded kind context [] (.ok ())
  | written {t : Trace} {r : Except Exc Unit} (due : recorded = false)
      (row : RowRun kind context t r) : RowUnless recorded kind context t r

theorem recordUnless_run {recorded : Bool} {row : Step σ Unit}
    (h : ∀ s, row.wp s fun t r s' => s' = s ∧ RowRun kind context t r) (s : σ) :
    (recordUnless recorded row).wp s fun t r s' =>
      s' = s ∧ RowUnless recorded kind context t r := by
  cases recorded with
  | true => exact ⟨rfl, .skipped rfl⟩
  | false =>
    refine wp_mono (h s) ?_
    intro t r s' run
    exact ⟨run.1, .written rfl run.2⟩

/-- The outer handlers of `chat` and `test_connection`, which always raise. -/
inductive Handled (gateway : LLMGateway) (context : LLMRequestContext) (operation : String)
    (held : Option BudgetReservation) (reserved recorded : Bool) (x : Exc) :
    Trace → Exc → Prop
  | passed (base : x.isException = false) :
      Handled gateway context operation held reserved recorded x [] x
  | httpLost {t : Trace} {y : Exc} (http : x.isHttp = true)
      (row : RowUnless (!reserved || recorded) (IsOperationRow operation context) context t
        (.error y)) :
      Handled gateway context operation held reserved recorded x t y
  | httpUnreleased {t u : Trace} {y : Exc} (http : x.isHttp = true)
      (row : RowUnless (!reserved || recorded) (IsOperationRow operation context) context t
        (.ok ()))
      (run : HeldRun gateway held u (.error y)) :
      Handled gateway context operation held reserved recorded x (t ++ u) y
  | http {t u : Trace} (calls : List ObservedCall) (http : x.isHttp = true)
      (row : RowUnless (!reserved || recorded) (IsOperationRow operation context) context t
        (.ok ()))
      (run : HeldRun gateway held u (.ok ())) :
      Handled gateway context operation held reserved recorded x
        (t ++ (u ++ calls.map fun call => ⟨.observe call, ()⟩)) x
  | unreleased {u : Trace} {y : Exc} (ordinary : x.isException = true) (plain : x.isHttp = false)
      (run : HeldRun gateway held u (.error y)) :
      Handled gateway context operation held reserved recorded x u y
  | lost {t u : Trace} {y : Exc} (ordinary : x.isException = true) (plain : x.isHttp = false)
      (run : HeldRun gateway held u (.ok ()))
      (row : RowUnless recorded (IsPlainRow context) context t (.error y)) :
      Handled gateway context operation held reserved recorded x (u ++ t) y
  | handled {t u : Trace} (calls : List ObservedCall) (ordinary : x.isException = true)
      (plain : x.isHttp = false)
      (run : HeldRun gateway held u (.ok ()))
      (row : RowUnless recorded (IsPlainRow context) context t (.ok ())) :
      Handled gateway context operation held reserved recorded x
        (u ++ (t ++ calls.map fun call => ⟨.observe call, ()⟩)) x

theorem reservations_append (t u : Trace) :
    reservations (t ++ u) = reservations t ++ reservations u :=
  List.filterMap_append ..

theorem terminals_prelude (steps : ∀ e ∈ t, isPrelude e.1 = true) : terminals t = [] := by
  refine List.filterMap_eq_nil_iff.mpr ?_
  intro e mem
  obtain ⟨effect, answer⟩ := e
  have step := steps _ mem
  cases effect <;> first | rfl | cases step

theorem reservations_later (steps : ∀ e ∈ t, isPrelude e.1 = false) : reservations t = [] := by
  refine List.filterMap_eq_nil_iff.mpr ?_
  intro e mem
  obtain ⟨effect, answer⟩ := e
  have step := steps _ mem
  cases effect <;> first | rfl | cases step

theorem reservations_bookkeeping (steps : ∀ e ∈ t, isBookkeeping e.1 = true) :
    reservations t = [] :=
  reservations_later (not_prelude_of_bookkeeping steps)

section

variable {gateway : LLMGateway} {request : LLMChatRequest} {context : LLMRequestContext}
  {t : Trace}

theorem Evaluated.prelude {r : Except Exc PolicyDecision}
    (evaluated : Evaluated gateway request context t r) :
    (∀ e ∈ t, isPrelude e.1 = true) ∧ reservations t = [] := by
  cases evaluated with
  | asked | unresolved => exact ⟨by simp [isPrelude], rfl⟩
  | known => exact ⟨by simp, rfl⟩

theorem Reserved.prelude {r : Except Exc BudgetReservation}
    (reserved : Reserved gateway request context t r) :
    (∀ e ∈ t, isPrelude e.1 = true) ∧ reservations t = r.toOption.toList := by
  cases reserved with
  | unpriced => exact ⟨by simp, rfl⟩
  | faulted | reserved => exact ⟨by simp [isPrelude], rfl⟩

theorem Planned.prelude {r : Except Exc (List RouteSelection)}
    (planned : Planned gateway.router t r) :
    (∀ e ∈ t, isPrelude e.1 = true) ∧ reservations t = [] := by
  refine ⟨?_, List.filterMap_eq_nil_iff.mpr ?_⟩
  · intro e mem
    obtain ⟨d, b, rfl⟩ := planned.asked e mem
    rfl
  · intro e mem
    obtain ⟨d, b, rfl⟩ := planned.asked e mem
    rfl

theorem Refused.bookkeeping {x : Exc} (refused : Refused context t x) :
    ∀ e ∈ t, isBookkeeping e.1 = true := by
  cases refused with
  | uncommitted => simp [isBookkeeping]
  | refused => simp +contextual [isBookkeeping]

variable {effective : PolicyDecision → LLMChatRequest} {held : Option BudgetReservation}
    {reservation : BudgetReservation}

theorem Authorized.not_approved {x : Exc}
    (authorized : Authorized gateway request context effective t (.error x) held)
    (mem : reservation ∈ reservations t) : reservation.approved = false := by
  cases authorized with
  | undecided evaluated => simp [evaluated.prelude.2] at mem
  | denied evaluated refused refusal =>
    simp [reservations_append, evaluated.prelude.2, reservations_bookkeeping refusal.bookkeeping] at mem
  | unreserved evaluated allowed reserved =>
    rw [reservations_append, evaluated.prelude.2, reserved.prelude.2] at mem
    cases mem
  | overBudget evaluated allowed reserved refused refusal =>
    rw [reservations_append, reservations_append, evaluated.prelude.2, reserved.prelude.2,
      reservations_bookkeeping refusal.bookkeeping] at mem
    cases List.mem_singleton.mp mem
    exact refused

variable {decision : PolicyDecision}

theorem Authorized.prelude
    (authorized : Authorized gateway request context effective t (.ok (decision, reservation)) held) :
    (∀ e ∈ t, isPrelude e.1 = true) ∧ reservations t = [reservation] ∧
      held = some reservation := by
  cases authorized with
  | authorized evaluated allowed reserved approved =>
    refine ⟨List.forall_mem_append.mpr ⟨evaluated.prelude.1, reserved.prelude.1⟩, ?_, rfl⟩
    rw [reservations_append, evaluated.prelude.2, reserved.prelude.2]
    rfl

theorem Authorized.planned_prelude {u : Trace} {r : Except Exc (List RouteSelection)}
    (authorized : Authorized gateway request context effective t (.ok (decision, reservation)) held)
    (planned : Planned gateway.router u r) :
    terminals (t ++ u) = [] ∧ reservations (t ++ u) = [reservation] := by
  obtain ⟨steps, one, _⟩ := authorized.prelude
  refine ⟨?_, ?_⟩
  · rw [terminals_append, terminals_prelude steps, terminals_prelude planned.prelude.1]
    rfl
  · rw [reservations_append, one, planned.prelude.2]
    rfl

variable {recorded : Bool} {r : Except Exc Unit}

theorem AttemptFailed.later {operation : String} {route : RouteSelection} {x : Exc} {stop : Bool}
    (failed : AttemptFailed gateway context operation reservation route x stop t r held
      recorded) : ∀ e ∈ t, isPrelude e.1 = false := by
  cases failed with
  | uncommitted | fellBack => simp [isPrelude]
  | unreleased row end_ run | released row end_ run =>
    exact List.forall_mem_cons.mpr ⟨rfl, List.forall_mem_cons.mpr ⟨rfl, run.later⟩⟩

variable {kind : UsageRecord → Prop}

theorem RowUnless.bookkeeping (row : RowUnless recorded kind context t r) :
    ∀ e ∈ t, isBookkeeping e.1 = true := by
  cases row with
  | skipped => simp
  | written due row => cases row <;> simp [isBookkeeping]

theorem RowUnless.no_terminals (row : RowUnless recorded kind context t r) : terminals t = [] := by
  cases row with
  | skipped => rfl
  | written due row => cases row <;> rfl

theorem observed_no_terminals (calls : List ObservedCall) :
    terminals (calls.map fun call => ⟨.observe call, ()⟩) = [] := by
  simp [terminals, List.filterMap_eq_nil_iff, terminalOf]

theorem Handled.bookkeeping {operation : String} {reserved : Bool} {x y : Exc}
    (handled : Handled gateway context operation held reserved recorded x t y) :
    ∀ e ∈ t, isBookkeeping e.1 = true := by
  cases handled with
  | passed => simp
  | httpLost http row => exact row.bookkeeping
  | httpUnreleased http row run =>
    exact List.forall_mem_append.mpr ⟨row.bookkeeping, run.guarded.bookkeeping⟩
  | http calls http row run =>
    refine List.forall_mem_append.mpr ⟨row.bookkeeping, ?_⟩
    exact List.forall_mem_append.mpr ⟨run.guarded.bookkeeping, by simp +contextual [isBookkeeping]⟩
  | unreleased ordinary plain run => exact run.guarded.bookkeeping
  | lost ordinary plain run row =>
    exact List.forall_mem_append.mpr ⟨run.guarded.bookkeeping, row.bookkeeping⟩
  | handled calls ordinary plain run row =>
    refine List.forall_mem_append.mpr ⟨run.guarded.bookkeeping, ?_⟩
    exact List.forall_mem_append.mpr ⟨row.bookkeeping, by simp +contextual [isBookkeeping]⟩

end

/-- `str()` of the exceptions a storage or a provider raises. -/
def plainRendering : Rendering where
  exc
    | .http code (.text message) => toString code ++ ": " ++ message
    | .os _ message | .sqlAlchemy _ message | .attribute message | .other _ message => message
    | _ => ""
  dict _ := ""

def defaultGateway : LLMGateway := { router := defaultRouter, render := plainRendering }

def twoRouteGateway : LLMGateway :=
  { defaultGateway with
    router := { defaultRouter with
      deployments := [defaultChatDeployment none false,
        { defaultChatDeployment none false with id := 2, priority := 200 }] } }

def tenantBudget : BudgetReservationScope := ⟨7, .tenant, none⟩

def heldReservation : BudgetReservation :=
  { reservationId := "reservation-1", approved := true, reason := "budget_approved"
    budgetScopes := [tenantBudget] }

def helloResponse : LLMResponse :=
  { requestId := "r-1", modelKey := "gpt-4o-mini", content := "hi", usage := {}
    providerKey := "litellm" }

def quiet : (e : Effect) → Answer e
  | .resolveCostCenter _ => .ok none
  | .reserve _ _ => .ok heldReservation
  | .storeLedger _ => .ok ()
  | .rollback => .ok ()
  | .policyById _ => .ok none
  | .usageForPolicy _ _ _ _ => .ok (0, 0)
  | .utcNow => ⟨2025, 6, 1, 0⟩
  | .recordUsage _ _ => .ok ()
  | .isOpen _ => false
  | .recordSuccess _ => ()
  | .recordFailure _ _ => ()
  | .adapterChat _ _ _ => .ok helloResponse
  | .adapterStream _ _ _ => (["hi"], .finished)
  | .yieldDelta _ => .next
  | .adapterTest _ _ =>
    .ok { ok := true, adapterType := .litellm, latencyMs := 1, message := "ok" }
  | .newDeploymentId => 9
  | .observe _ => ()

def lostRow : Fault := .sqlAlchemy "OperationalError" "database is locked"

def lostSuccessRow : (e : Effect) → Answer e
  | .recordUsage record _ => if record.status = .success then .error lostRow else .ok ()
  | e => quiet e

end LLMGateway
end AgentHive
