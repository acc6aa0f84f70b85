import AgentHive.Llm.BudgetStorage

/-!
The budget admin service: the policies it accepts, and the window and the usage
it shows for them.

The service computes both on its own. They are compared with the window and the
usage that the budget guard enforces a policy with.
-/

namespace AgentHive

namespace BudgetAdmin

inductive BudgetScopeType
  | tenant | department | costCenter | user | agent | channel
deriving DecidableEq

def BudgetScopeType.value : BudgetScopeType → ScopeType
  | .tenant => .tenant
  | .department => .department
  | .costCenter => .costCenter
  | .user => .user
  | .agent => .agent
  | .channel => .channel

inductive PeriodValue
  | daily | monthly | quarterly | custom
deriving DecidableEq

def PeriodValue.value : PeriodValue → BudgetPeriod
  | .daily => .daily
  | .monthly => .monthly
  | .quarterly => .quarterly
  | .custom => .custom

structure BudgetPolicyUpsertRequest where
  id : Option UUID := none
  scopeType : BudgetScopeType
  scopeId : Option UUID := none
  period : PeriodValue := .monthly
  customPeriodStart : Option DateTime := none
  customPeriodEnd : Option DateTime := none
  hardLimit : Bool := true
  currency : String := "USD"
  amountLimit : ℚ := 0
  tokenLimit : Option Int := none
  alertThresholdPct : Int := 80
  isActive : Bool := true
deriving DecidableEq

def fieldsInBounds (payload : BudgetPolicyUpsertRequest) : Bool :=
  payload.currency.length == 3 && 0 ≤ payload.amountLimit &&
    (payload.amountLimit * 10 ^ 4).isInt && payload.amountLimit < 10 ^ 8 &&
    payload.tokenLimit.all (1 ≤ ·) && 1 ≤ payload.alertThresholdPct &&
    payload.alertThresholdPct ≤ 100

def withoutTenantScope (payload : BudgetPolicyUpsertRequest) : BudgetPolicyUpsertRequest :=
  if payload.scopeType = .tenant then { payload with scopeId := none } else payload

def validateBudgetPolicy (payload : BudgetPolicyUpsertRequest) :
    Except String BudgetPolicyUpsertRequest :=
  if payload.scopeType ≠ .tenant ∧ payload.scopeId = none then
    .error "scope_id is required for non-tenant budget policies."
  else if payload.amountLimit ≤ 0 ∧ payload.tokenLimit = none then
    .error "budget policy requires amount_limit or token_limit."
  else
    let payload := withoutTenantScope payload
    if payload.period = .custom then
      match payload.customPeriodStart, payload.customPeriodEnd with
      | some start, some stop =>
        if stop ≤ start then .error "custom_period_end must be later than custom_period_start."
        else .ok payload
      | _, _ => .error "custom period requires custom_period_start and custom_period_end."
    else .ok payload

/-- `_validate_budget_scope_target`. `targets` says which ids the tenant has. -/
def validateBudgetScopeTarget (targets : BudgetScopeType → UUID → Bool)
    (payload : BudgetPolicyUpsertRequest) : Except Exc Unit :=
  if payload.scopeType = .tenant then .ok ()
  else
    match payload.scopeId with
    | none => .error (.http 422 (.text "scope_id is required for non-tenant budget policies."))
    | some id =>
      if targets payload.scopeType id then .ok ()
      else .error (.http 404 (.text ("Budget policy " ++ payload.scopeType.value.text ++
        " scope target was not found in this tenant.")))

def applyTo (payload : BudgetPolicyUpsertRequest) (policy : LLMBudget) : LLMBudget :=
  { policy with
    scopeType := payload.scopeType.value
    scopeId := payload.scopeId
    period := payload.period.value
    customPeriodStart := if payload.period = .custom then payload.customPeriodStart else none
    customPeriodEnd := if payload.period = .custom then payload.customPeriodEnd else none
    amountUsd := payload.amountLimit
    tokenLimit := payload.tokenLimit
    hardLimit := payload.hardLimit
    alertThresholdPct := payload.alertThresholdPct
    isActive := payload.isActive }

/-- `upsert_budget_policy` on a validated request, with the stored policy. -/
def upsertBudgetPolicy (tenantId newId : UUID) (targets : BudgetScopeType → UUID → Bool)
    (policies : List LLMBudget) (payload : BudgetPolicyUpsertRequest) :
    Except Exc (LLMBudget × List LLMBudget) := do
  if payload.currency ≠ "USD" then
    .error (.http 422 (.text
      "Only USD is currently persisted by the first budget storage version."))
  else do
    validateBudgetScopeTarget targets payload
    match payload.id with
    | none =>
      let policy := applyTo payload { id := newId, tenantId := tenantId, scopeType := .tenant }
      .ok (policy, policies ++ [policy])
    | some id =>
      match policies.find? fun policy => policy.tenantId == tenantId && policy.id == id with
      | none => .error (.http 404 (.text "Budget policy not found."))
      | some stored =>
        let policy := applyTo payload stored
        .ok (policy, policies.map fun other =>
          if other.tenantId == tenantId && other.id == id then policy else other)

def Accepted (tenantId : UUID) (policy : LLMBudget) : Prop :=
  ∃ sent payload newId targets policies stored,
    fieldsInBounds sent = true ∧ validateBudgetPolicy sent = .ok payload ∧
      upsertBudgetPolicy tenantId newId targets policies payload = .ok (policy, stored)

/-- `_budget_period`: a text that is no period is read as monthly. -/
def budgetPeriod : BudgetPeriod → BudgetPeriod
  | .other _ => .monthly
  | period => period

def resolvePeriodWindow (period : BudgetPeriod) (periodStart periodEnd : Option DateTime)
    (now : DateTime) : DateTime × DateTime :=
  match period, periodStart, periodEnd with
  | .custom, some start, some stop => (start, stop)
  | .daily, _, _ =>
    let start : DateTime := ⟨now.year, now.month, now.day, 0⟩
    (start, nextMidnight start)
  | _, _, _ =>
    (⟨now.year, now.month, 1, 0⟩,
      if now.month = 12 then ⟨now.year + 1, 1, 1, 0⟩ else ⟨now.year, now.month + 1, 1, 0⟩)

/-- `_policy_period_window`, with the window of the whole page as the default. -/
def policyPeriodWindow (policy : LLMBudget) (default : DateTime × DateTime) (now : DateTime) :
    DateTime × DateTime :=
  if policy.period = .custom then
    match policy.customPeriodStart, policy.customPeriodEnd with
    | some start, some stop => (start, stop)
    | _, _ => default
  else resolvePeriodWindow (budgetPeriod policy.period) none none now

/-- The sums `_policies_with_usage` shows for each policy. -/
def policyUsage (rows : List UsageRow) (tenantId : UUID) (policy : LLMBudget)
    (window : DateTime × DateTime) : ℚ × Int :=
  let total := fun (inScope : UsageRow → Bool) =>
    chargeOf (rows.filter fun row =>
      row.tenantId == tenantId && row.status == .success && inWindow window row && inScope row)
  match policy.scopeType, policy.scopeId with
  | .department, some id => total (·.departmentId == some id)
  | .costCenter, some id => total (·.costCenterId == some id)
  | .user, some id => total (·.userId == some id)
  | .agent, some id => total (·.agentId == some id)
  | .channel, some id => total (·.channelId == some id)
  | .tenant, _ => total fun _ => true
  | _, _ => 0

structure WellFormed (tenantId : UUID) (policy : LLMBudget) : Prop where
  tenant : policy.tenantId = tenantId
  scope : ∃ scopeType : BudgetScopeType, policy.scopeType = scopeType.value ∧
    (scopeType ≠ .tenant → policy.scopeId.isSome)
  period : ∃ period : PeriodValue, policy.period = period.value ∧
    (period = .custom → policy.customPeriodStart.isSome ∧ policy.customPeriodEnd.isSome)

variable {payload : BudgetPolicyUpsertRequest}

theorem validateBudgetPolicy_ok {sent : BudgetPolicyUpsertRequest}
    (h : validateBudgetPolicy sent = .ok payload) :
    (payload.scopeType ≠ .tenant → payload.scopeId.isSome) ∧
      (payload.period = .custom →
        payload.customPeriodStart.isSome ∧ payload.customPeriodEnd.isSome) := by
  unfold validateBudgetPolicy at h
  split at h
  · cases h
  · rename_i unscoped
    have target : (withoutTenantScope sent).scopeType ≠ .tenant →
        (withoutTenantScope sent).scopeId.isSome := by
      unfold withoutTenantScope
      by_cases scope : sent.scopeType = .tenant
      · rw [if_pos scope]
        exact fun other => absurd scope other
      · rw [if_neg scope]
        exact fun _ => Option.isSome_iff_ne_none.mpr fun missing => unscoped ⟨scope, missing⟩
    split at h
    · cases h
    · dsimp only at h
      split at h
      · split at h
        · rename_i start stop starts stops
          split at h
          · cases h
          · cases h
            exact ⟨target, fun _ => by simp [starts, stops]⟩
        · cases h
      · rename_i other
        cases h
        exact ⟨target, fun custom => absurd custom other⟩

variable {tenantId : UUID}

theorem applyTo_wellFormed (scope : payload.scopeType ≠ .tenant → payload.scopeId.isSome)
    (dates : payload.period = .custom →
      payload.customPeriodStart.isSome ∧ payload.customPeriodEnd.isSome) {stored : LLMBudget}
    (tenant : stored.tenantId = tenantId) : WellFormed tenantId (applyTo payload stored) := by
  refine ⟨tenant, ⟨payload.scopeType, rfl, scope⟩, ⟨payload.period, rfl, fun custom => ?_⟩⟩
  simpa [applyTo, custom] using dates custom

variable {policy : LLMBudget}

theorem Accepted.wellFormed (accepted : Accepted tenantId policy) : WellFormed tenantId policy := by
  obtain ⟨sent, payload, newId, targets, policies, stored, _, valid, upserted⟩ := accepted
  have checked := validateBudgetPolicy_ok valid
  unfold upsertBudgetPolicy at upserted
  split at upserted
  · cases upserted
  · cases target : validateBudgetScopeTarget targets payload with
    | error x => simp [target, bind, Except.bind] at upserted
    | ok u =>
      simp only [target, bind, Except.bind] at upserted
      split at upserted
      · cases upserted
        exact applyTo_wellFormed checked.1 checked.2 rfl
      · split at upserted
        · cases upserted
        · rename_i found
          cases upserted
          have mine := List.find?_some found
          simp only [Bool.and_eq_true, beq_iff_eq] at mine
          exact applyTo_wellFormed checked.1 checked.2 mine.1

theorem policyPeriodWindow_eq (formed : WellFormed tenantId policy)
    (quarterly : policy.period ≠ .quarterly) (default : DateTime × DateTime) (now : DateTime) :
    periodWindowAt policy now = policyPeriodWindow policy default now := by
  obtain ⟨period, value, dates⟩ := formed.period
  unfold periodWindowAt policyPeriodWindow
  cases period with
  | custom =>
    obtain ⟨start, stop⟩ := dates rfl
    obtain ⟨start, known⟩ := Option.isSome_iff_exists.mp start
    obtain ⟨stop, known'⟩ := Option.isSome_iff_exists.mp stop
    simp [value, PeriodValue.value, known, known']
  | quarterly => exact absurd value quarterly
  | daily => simp [value, PeriodValue.value, budgetPeriod, resolvePeriodWindow]
  | monthly => simp [value, PeriodValue.value, budgetPeriod, resolvePeriodWindow]

theorem policyPeriodWindow_ne (quarterly : policy.period = .quarterly)
    (default : DateTime × DateTime) (now : DateTime) :
    periodWindowAt policy now ≠ policyPeriodWindow policy default now := by
  have shown : policyPeriodWindow policy default now = (⟨now.year, now.month, 1, 0⟩,
      if now.month = 12 then ⟨now.year + 1, 1, 1, 0⟩ else ⟨now.year, now.month + 1, 1, 0⟩) := by
    simp [policyPeriodWindow, quarterly, budgetPeriod, resolvePeriodWindow]
  rw [shown, periodWindowAt, quarterly]
  intro same
  rw [Prod.mk.injEq, DateTime.mk.injEq] at same
  obtain ⟨⟨_, starts, _⟩, ends⟩ := same
  unfold quarterStartMonth at starts ends
  split at ends <;> split at ends <;> rw [DateTime.mk.injEq] at ends <;> omega

theorem policyUsage_eq {context : LLMRequestContext} {costCenterId : Option UUID}
    (formed : WellFormed tenantId policy) (tenant : context.tenantId = tenantId)
    (matched : policyMatchesContext policy context costCenterId = true) (rows : List UsageRow)
    (window : DateTime × DateTime) :
    usageForPolicy rows policy context costCenterId window =
      policyUsage rows tenantId policy window := by
  rw [usageForPolicy_of_matches (formed.tenant.trans tenant.symm) matched]
  obtain ⟨scopeType, value, target⟩ := formed.scope
  unfold spentIn countsFor policyUsage
  rw [formed.tenant]
  cases scopeType with
  | tenant => simp [value, BudgetScopeType.value, inScope]
  | department | costCenter | user | agent | channel =>
    obtain ⟨id, known⟩ := Option.isSome_iff_exists.mp (target nofun)
    simp [value, BudgetScopeType.value, inScope, known]

/-- For a policy the API has accepted, the page shows the window and the usage
that are enforced exactly when the policy is not quarterly. -/
theorem shown_as_enforced_iff {tenantId : UUID} {policy : LLMBudget}
    (accepted : Accepted tenantId policy) {context : LLMRequestContext}
    {costCenterId : Option UUID} (tenant : context.tenantId = tenantId)
    (matched : policyMatchesContext policy context costCenterId = true)
    (default : DateTime × DateTime) (now : DateTime) :
    (periodWindowAt policy now = policyPeriodWindow policy default now ∧
      ∀ rows, usageForPolicy rows policy context costCenterId (periodWindowAt policy now) =
        policyUsage rows tenantId policy (policyPeriodWindow policy default now)) ↔
    policy.period ≠ .quarterly := by
  have formed := accepted.wellFormed
  constructor
  · intro same quarterly
    exact policyPeriodWindow_ne quarterly default now same.1
  · intro other
    have windows := policyPeriodWindow_eq formed other default now
    refine ⟨windows, fun rows => ?_⟩
    rw [windows]
    exact policyUsage_eq formed tenant matched rows _

def tenantBudget (period : PeriodValue) : BudgetPolicyUpsertRequest :=
  { scopeType := .tenant, period := period, amountLimit := 100 }

def tenantPolicy (period : PeriodValue) : LLMBudget :=
  applyTo (tenantBudget period) { id := 7, tenantId := 1, scopeType := .tenant }

theorem tenantPolicy_accepted {period : PeriodValue} (dated : period ≠ .custom) :
    Accepted 1 (tenantPolicy period) := by
  refine ⟨tenantBudget period, tenantBudget period, 7, fun _ _ => false, [], [_], ?_, ?_, rfl⟩
  · cases period <;> decide +kernel
  · cases period with
    | custom => exact absurd rfl dated
    | daily | monthly | quarterly => decide +kernel

theorem monthly_budget_is_shown :
    periodWindowAt (tenantPolicy .monthly) ⟨2026, 2, 14, 0⟩ =
        policyPeriodWindow (tenantPolicy .monthly) (⟨2026, 1, 1, 0⟩, ⟨2027, 1, 1, 0⟩)
          ⟨2026, 2, 14, 0⟩ ∧
      ∀ rows, usageForPolicy rows (tenantPolicy .monthly) tenantContext none
          (periodWindowAt (tenantPolicy .monthly) ⟨2026, 2, 14, 0⟩) =
        policyUsage rows 1 (tenantPolicy .monthly)
          (policyPeriodWindow (tenantPolicy .monthly) (⟨2026, 1, 1, 0⟩, ⟨2027, 1, 1, 0⟩)
            ⟨2026, 2, 14, 0⟩) :=
  (shown_as_enforced_iff (tenantPolicy_accepted (by decide)) rfl rfl _ _).mpr (by decide)

def januaryRow : UsageRow :=
  { tenantId := 1, userId := none, departmentId := none, costCenterId := none, agentId := none
    channelId := none, status := .success
    usage := { totalTokens := 40, costUsd := 5, costUsd_nonneg := by norm_num }
    createdAt := ⟨2026, 1, 20, 0⟩ }

theorem quarterly_budget_is_shown_by_month :
    Accepted 1 (tenantPolicy .quarterly) ∧
      policyMatchesContext (tenantPolicy .quarterly) tenantContext none = true ∧
      usageForPolicy [januaryRow] (tenantPolicy .quarterly) tenantContext none
        (periodWindowAt (tenantPolicy .quarterly) ⟨2026, 2, 14, 0⟩) = (5, 40) ∧
      policyUsage [januaryRow] 1 (tenantPolicy .quarterly)
        (policyPeriodWindow (tenantPolicy .quarterly) (⟨2026, 2, 1, 0⟩, ⟨2026, 3, 1, 0⟩)
          ⟨2026, 2, 14, 0⟩) = 0 := by
  refine ⟨tenantPolicy_accepted (by decide), ?_, ?_, ?_⟩
  · decide +kernel
  · decide +kernel
  · decide +kernel

end BudgetAdmin

end AgentHive
