import AgentHive.Llm.Router
import AgentHive.Process.Action

/-!
The steps of the gateway that reach outside it, and the budget guard around a
call: the reservation asked for before it, and the settlement or release of that
reservation after it.
-/

namespace AgentHive

structure DateTime where
  year : Nat
  month : Nat
  day : Nat
  microsecond : Nat
deriving DecidableEq

inductive BudgetPeriod
  | daily
  | monthly
  | quarterly
  | custom
  | other (name : String)
deriving DecidableEq

structure LLMBudget where
  id : UUID
  tenantId : UUID
  scopeType : ScopeType
  scopeId : Option UUID := none
  period : BudgetPeriod := .monthly
  customPeriodStart : Option DateTime := none
  customPeriodEnd : Option DateTime := none
  amountUsd : ℚ := 0
  tokenLimit : Option Int := none
  hardLimit : Bool := true
  alertThresholdPct : Int := 80
  isActive : Bool := true
deriving DecidableEq

inductive LedgerEvent
  | reserve
  | settle
  | release
  | alert
  | deny
deriving DecidableEq

structure SoftLimitAlert where
  alertThresholdPct : Int
  amountLimitUsd : ℚ
  amountAfterUsd : ℚ
  tokenLimit : Option Int
  tokensAfter : Int
  periodStart : DateTime
  periodEnd : DateTime
deriving DecidableEq

structure LedgerEntry where
  context : LLMRequestContext
  reservationId : String
  approved : Bool
  eventType : LedgerEvent
  scope : BudgetReservationScope
  estimated : LLMUsageMetrics
  actual : LLMUsageMetrics
  reason : String
  alert : Option SoftLimitAlert := none
deriving DecidableEq

structure ObservedCall where
  providerKey : Option String
  modelKey : Option String
  status : LLMCallStatus
  errorCode : Option String := none
deriving DecidableEq

inductive StreamEnd
  | finished
  | raised (exc : Exc)
deriving DecidableEq

inductive Resume
  | next
  | cancelled
  | generatorExit
deriving DecidableEq

inductive Effect
  | resolveCostCenter (context : LLMRequestContext)
  | reserve (estimate : LLMUsageMetrics) (context : LLMRequestContext)
  | storeLedger (entry : LedgerEntry)
  | rollback
  | policyById (budgetId : UUID)
  | usageForPolicy (policy : LLMBudget) (context : LLMRequestContext) (start stop : DateTime)
  | utcNow
  | recordUsage (record : UsageRecord) (context : LLMRequestContext)
  | isOpen (deploymentId : UUID)
  | recordSuccess (deploymentId : UUID)
  | recordFailure (deploymentId : UUID) (errorCode : String)
  | adapterChat (route : RouteSelection) (request : LLMChatRequest)
      (context : LLMRequestContext)
  | adapterStream (route : RouteSelection) (request : LLMChatRequest)
      (context : LLMRequestContext)
  | yieldDelta (delta : String)
  | adapterTest (route : RouteSelection) (request : ConnectionTestRequest)
  | newDeploymentId
  | observe (call : ObservedCall)
deriving DecidableEq

abbrev Answer : Effect → Type
  | .resolveCostCenter _ => Except Fault (Option UUID)
  | .reserve _ _ => Except Fault BudgetReservation
  | .storeLedger _ => Except Fault Unit
  | .rollback => Except Fault Unit
  | .policyById _ => Except Fault (Option LLMBudget)
  | .usageForPolicy _ _ _ _ => Except Fault (ℚ × Int)
  | .utcNow => DateTime
  | .recordUsage _ _ => Except Fault Unit
  | .isOpen _ => Bool
  | .recordSuccess _ => Unit
  | .recordFailure _ _ => Unit
  | .adapterChat _ _ _ => Except Exc LLMResponse
  | .adapterStream _ _ _ => List String × StreamEnd
  | .yieldDelta _ => Resume
  | .adapterTest _ _ => Except Exc ConnectionTestResult
  | .newDeploymentId => UUID
  | .observe _ => Unit

abbrev CallEvent := Process.Event Effect Answer

abbrev Trace := List CallEvent

/-- A step of the gateway with local variables `σ`. -/
abbrev Step (σ α : Type) := Process.Action Effect Answer σ Exc α

namespace Step

open Process (Action)

def stored {σ α : Type} : Except Fault α → Step σ α
  | .ok a => pure a
  | .error f => Action.throw f.toExc

end Step

open Process (Action)

structure BudgetGuard where
  pricing : ModelPricingCatalog := {}
  hasSession : Bool := true

/-- `start` of the quarter a month is in. -/
def quarterStartMonth (month : Nat) : Nat := (month - 1) / 3 * 3 + 1

def daysInMonth (year month : Nat) : Nat :=
  if month = 2 then
    if year % 4 = 0 ∧ (year % 100 ≠ 0 ∨ year % 400 = 0) then 29 else 28
  else if month = 4 ∨ month = 6 ∨ month = 9 ∨ month = 11 then 30
  else 31

def nextMidnight (start : DateTime) : DateTime :=
  if start.day < daysInMonth start.year start.month then
    { start with day := start.day + 1, microsecond := 0 }
  else if start.month < 12 then ⟨start.year, start.month + 1, 1, 0⟩
  else ⟨start.year + 1, 1, 1, 0⟩

/-- The window of `_period_window` at an instant. -/
def periodWindowAt (policy : LLMBudget) (now : DateTime) : DateTime × DateTime :=
  match policy.period, policy.customPeriodStart, policy.customPeriodEnd with
  | .custom, some start, some stop => (start, stop)
  | .daily, _, _ =>
    let start : DateTime := ⟨now.year, now.month, now.day, 0⟩
    (start, nextMidnight start)
  | .quarterly, _, _ =>
    let first := quarterStartMonth now.month
    let last := first + 3
    (⟨now.year, first, 1, 0⟩,
      if last > 12 then ⟨now.year + 1, last - 12, 1, 0⟩ else ⟨now.year, last, 1, 0⟩)
  | _, _, _ =>
    (⟨now.year, now.month, 1, 0⟩,
      if now.month = 12 then ⟨now.year + 1, 1, 1, 0⟩ else ⟨now.year, now.month + 1, 1, 0⟩)

def ratio (value limit : ℚ) : ℚ :=
  if limit ≤ 0 then 0 else ModelPricingCatalog.decimal (value / limit)

/-- The `alert` a settlement raises on a budget without a hard limit. -/
def softLimitAlert (policy : LLMBudget) (spent : ℚ × Int) (actual : LLMUsageMetrics)
    (window : DateTime × DateTime) : Option SoftLimitAlert :=
  let amountAfter := spent.1 + actual.costUsd
  let tokensAfter := spent.2 + actual.totalTokens
  let threshold : ℚ := policy.alertThresholdPct / 100
  let amountAlert := 0 < policy.amountUsd ∧ ratio spent.1 policy.amountUsd < threshold ∧
    threshold ≤ ratio amountAfter policy.amountUsd
  let tokenAlert := ∃ limit ∈ policy.tokenLimit, ratio spent.2 limit < threshold ∧
    threshold ≤ ratio tokensAfter limit
  if amountAlert ∨ tokenAlert then
    some
      { alertThresholdPct := policy.alertThresholdPct
        amountLimitUsd := policy.amountUsd
        amountAfterUsd := amountAfter
        tokenLimit := policy.tokenLimit
        tokensAfter := tokensAfter
        periodStart := window.1
        periodEnd := window.2 }
  else none

namespace BudgetGuard

variable {σ : Type}

def periodWindow (policy : LLMBudget) : Step σ (DateTime × DateTime) :=
  match policy.period, policy.customPeriodStart, policy.customPeriodEnd with
  | .custom, some start, some stop => pure (start, stop)
  | _, _, _ => do
    let now ← Action.perform Effect.utcNow
    pure (periodWindowAt policy now)

def ledgerEntry (reservation : BudgetReservation) (context : LLMRequestContext)
    (eventType : LedgerEvent) (scope : BudgetReservationScope) (actual : LLMUsageMetrics)
    (reason : String) (alert : Option SoftLimitAlert) : LedgerEntry :=
  { context := context
    reservationId := reservation.reservationId
    approved := reservation.approved
    eventType := eventType
    scope := scope
    estimated :=
      { totalTokens := reservation.estimatedTokens
        costUsd := reservation.estimatedCostUsd
        costUsd_nonneg := reservation.estimatedCostUsd_nonneg }
    actual := actual
    reason := reason
    alert := alert }

def recordBudgetEvent (entry : LedgerEntry) : Step σ Unit := do
  let answer : Except Fault Unit ← Action.perform (Effect.storeLedger entry)
  match answer with
  | .ok () => pure ()
  | .error f =>
    if f.isStorageError then do
      let undone : Except Fault Unit ← Action.perform Effect.rollback
      Step.stored undone
    else
      Action.throw f.toExc

/-- `_policy_by_id`: a storage error reads as a missing policy. -/
def policyById (budgetId : UUID) : Step σ (Option LLMBudget) := do
  let answer : Except Fault (Option LLMBudget) ← Action.perform (Effect.policyById budgetId)
  match answer with
  | .ok policy => pure policy
  | .error f => if f.isStorageError then pure none else Action.throw f.toExc

def recordSoftLimitAlertIfNeeded (policy : LLMBudget) (reservation : BudgetReservation)
    (context : LLMRequestContext) (scope : BudgetReservationScope) (actual : LLMUsageMetrics) :
    Step σ Unit := do
  let window ← periodWindow policy
  let answer : Except Fault (ℚ × Int) ←
    Action.perform (Effect.usageForPolicy policy context window.1 window.2)
  let spent ← Step.stored answer
  match softLimitAlert policy spent actual window with
  | none => pure ()
  | some alert =>
    recordBudgetEvent (ledgerEntry reservation context .alert scope actual
      "soft_budget_threshold_reached" (some alert))

/-- One turn of the loop of `settle`. -/
def settleScope (reservation : BudgetReservation) (actual : LLMUsageMetrics)
    (context : LLMRequestContext) (scope : BudgetReservationScope) : Step σ Unit := do
  recordBudgetEvent (ledgerEntry reservation context .settle scope actual "budget_settled" none)
  let found ← policyById scope.budgetId
  match found with
  | none => pure ()
  | some policy =>
    if !policy.hardLimit then
      recordSoftLimitAlertIfNeeded policy reservation context scope actual
    else pure ()

def settleScopes (reservation : BudgetReservation) (actual : LLMUsageMetrics)
    (context : LLMRequestContext) : List BudgetReservationScope → Step σ Unit
  | [] => pure ()
  | scope :: rest => do
    settleScope reservation actual context scope
    settleScopes reservation actual context rest

def settle (guard : BudgetGuard) (reservation : BudgetReservation) (actual : LLMUsageMetrics)
    (context : LLMRequestContext) : Step σ Unit :=
  if !guard.hasSession || !reservation.approved then pure ()
  else settleScopes reservation actual context reservation.budgetScopes

def releaseScopes (reservation : BudgetReservation) (context : LLMRequestContext)
    (reason : String) : List BudgetReservationScope → Step σ Unit
  | [] => pure ()
  | scope :: rest => do
    recordBudgetEvent (ledgerEntry reservation context .release scope {} reason none)
    releaseScopes reservation context reason rest

def release (guard : BudgetGuard) (reservation : BudgetReservation)
    (context : LLMRequestContext) (reason : String) : Step σ Unit :=
  if !guard.hasSession || !reservation.approved then pure ()
  else releaseScopes reservation context reason reservation.budgetScopes

/-- `reserve`: the estimate is priced here, and the reservation is asked of the
budget storage. -/
def reserve (guard : BudgetGuard) (request : LLMChatRequest) (context : LLMRequestContext) :
    Step σ BudgetReservation := do
  let estimate ← Action.ofExcept (guard.pricing.estimate request)
  let answer : Except Fault BudgetReservation ←
    Action.perform (Effect.reserve estimate context)
  Step.stored answer

end BudgetGuard
end AgentHive
