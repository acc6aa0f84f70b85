import AgentHive.Llm.Budget
import AgentHive.Process.Carry
import Mathlib.Algebra.Order.BigOperators.Group.List
import Mathlib.Algebra.Order.Monoid.Prod

/-!
The storage that all calls share: the clock, the budget policies, the usage
rows and the budget ledger. It answers the calls that read or write it; the
other calls are answered from outside.
-/

namespace AgentHive

open Process (Action Program)

inductive BudgetEffect
  | gateway (effect : Effect)
  | enterReserve (estimate : LLMUsageMetrics) (context : LLMRequestContext)
  | selectPolicies (tenantId : UUID)
  | newReservationId
deriving DecidableEq

abbrev BudgetAnswer : BudgetEffect → Type
  | .gateway effect => Answer effect
  | .enterReserve _ _ => Unit
  | .selectPolicies _ => Except Fault (List LLMBudget)
  | .newReservationId => String

abbrev BudgetEvent := Process.Event BudgetEffect BudgetAnswer

abbrev ReserveStep (α : Type) := Action BudgetEffect BudgetAnswer Unit Fault α

variable (policy : LLMBudget)

def policyMatchesContext (context : LLMRequestContext) (costCenterId : Option UUID) : Bool :=
  match policy.scopeType with
  | .tenant => policy.scopeId.isNone
  | .department => policy.scopeId.isSome && policy.scopeId == context.departmentId
  | .costCenter => policy.scopeId.isSome && policy.scopeId == costCenterId
  | .user => policy.scopeId.isSome && policy.scopeId == context.userId
  | .agent => policy.scopeId.isSome && policy.scopeId == context.agentId
  | .channel => policy.scopeId.isSome && policy.scopeId == context.channelId
  | .other _ => false

def reservationScope : BudgetReservationScope :=
  ⟨policy.id, policy.scopeType, policy.scopeId⟩

def Fault.isDatabaseError : Fault → Bool
  | .os _ _ | .sqlAlchemy _ _ => true
  | _ => false

def LLMUsageMetrics.charge (usage : LLMUsageMetrics) : ℚ × Int := (usage.costUsd, usage.totalTokens)

def exceedsAmount (charge : ℚ × Int) : Bool :=
  decide (0 < policy.amountUsd ∧ policy.amountUsd < charge.1)

def exceedsTokens (charge : ℚ × Int) : Bool :=
  policy.tokenLimit.any fun limit => limit < charge.2

def exceedsLimits (charge : ℚ × Int) : Bool :=
  exceedsAmount policy charge || exceedsTokens policy charge

namespace BudgetGuard

/-- The reason of a denial; `shown` is the amount after the call against the limit. -/
def exceeded (policy : LLMBudget) (limit shown : String) : String :=
  policy.scopeType.text ++ " budget " ++ limit ++ " limit exceeded (" ++ shown ++ ")."

-- `text` is Python's `str()` of a decimal.
variable (text : ℚ → String)

def limitDenial (policy : LLMBudget) (spent : ℚ × Int) (estimate : LLMUsageMetrics) :
    Option String :=
  let after := spent + estimate.charge
  if exceedsAmount policy after then
    some (exceeded policy "amount" (text after.1 ++ " > " ++ text policy.amountUsd ++ " USD"))
  else if exceedsTokens policy after then
    some (exceeded policy "token"
      (toString after.2 ++ " > " ++ toString (policy.tokenLimit.getD 0)))
  else none

def raiseFault {α : Type} : Except Fault α → ReserveStep α
  | .ok a => pure a
  | .error f => Action.throw f

def reserveWindow (policy : LLMBudget) : ReserveStep (DateTime × DateTime) :=
  match policy.period, policy.customPeriodStart, policy.customPeriodEnd with
  | .custom, some start, some stop => pure (start, stop)
  | _, _, _ => do
    let now ← Action.perform (BudgetEffect.gateway .utcNow)
    pure (periodWindowAt policy now)

def matchingPolicies (context : LLMRequestContext) : ReserveStep (List LLMBudget) := do
  let answer : Except Fault (Option UUID) ←
    Action.perform (BudgetEffect.gateway (.resolveCostCenter context))
  let costCenterId ← raiseFault answer
  let found : Except Fault (List LLMBudget) ←
    Action.perform (BudgetEffect.selectPolicies context.tenantId)
  let policies ← raiseFault found
  pure (policies.filter fun policy => policyMatchesContext policy context costCenterId)

def firstHardLimitDenial (context : LLMRequestContext) (estimate : LLMUsageMetrics) :
    List LLMBudget → ReserveStep (Option (LLMBudget × String))
  | [] => pure none
  | policy :: rest =>
    if !policy.hardLimit then firstHardLimitDenial context estimate rest
    else do
      let window ← reserveWindow policy
      let answer : Except Fault (ℚ × Int) ←
        Action.perform (BudgetEffect.gateway
          (.usageForPolicy policy context window.1 window.2))
      let spent ← raiseFault answer
      match limitDenial text policy spent estimate with
      | some reason => pure (some (policy, reason))
      | none => firstHardLimitDenial context estimate rest

def recordReserveEvent (entry : LedgerEntry) : ReserveStep Unit := do
  let answer : Except Fault Unit ← Action.perform (BudgetEffect.gateway (.storeLedger entry))
  match answer with
  | .ok () => pure ()
  | .error f =>
    if f.isStorageError then do
      let undone : Except Fault Unit ← Action.perform (BudgetEffect.gateway .rollback)
      raiseFault undone
    else Action.throw f

def recordReserveEvents (reservation : BudgetReservation) (context : LLMRequestContext)
    (estimate : LLMUsageMetrics) (eventType : LedgerEvent) (reason : String) :
    List BudgetReservationScope → ReserveStep Unit
  | [] => pure ()
  | scope :: rest => do
    recordReserveEvent { ledgerEntry reservation context eventType scope {} reason none with
      estimated := estimate }
    recordReserveEvents reservation context estimate eventType reason rest

def newReservation (estimate : LLMUsageMetrics) (approved : Bool) (reason : String)
    (scopes : List BudgetReservationScope) : ReserveStep BudgetReservation := do
  let reservationId : String ← Action.perform BudgetEffect.newReservationId
  pure
    { reservationId := reservationId
      approved := approved
      reason := reason
      estimatedTokens := estimate.totalTokens
      estimatedCostUsd := estimate.costUsd
      estimatedCostUsd_nonneg := estimate.costUsd_nonneg
      budgetScopes := scopes }

/-- The policies of a context with the first of them that refuses the estimate,
or `none` where the storage is not available. -/
def checkLimits (context : LLMRequestContext) (estimate : LLMUsageMetrics) :
    ReserveStep (Option (List LLMBudget × Option (LLMBudget × String))) :=
  Action.tryCatch
    (do
      let policies ← matchingPolicies context
      let denial ← firstHardLimitDenial text context estimate policies
      pure (some (policies, denial)))
    fun f =>
      if f.isDatabaseError then do
        let undone : Except Fault Unit ← Action.perform (BudgetEffect.gateway .rollback)
        raiseFault undone
        pure none
      else Action.throw f

def reserveUsage (guard : BudgetGuard) (estimate : LLMUsageMetrics)
    (context : LLMRequestContext) : ReserveStep BudgetReservation := do
  Action.perform (BudgetEffect.enterReserve estimate context)
  if !guard.hasSession then newReservation estimate true "budget_approved" []
  else do
    let checked ← checkLimits text context estimate
    match checked with
    | none => newReservation estimate false "budget_storage_unavailable" []
    | some (_, some (policy, reason)) => do
      let reservation ← newReservation estimate false reason [reservationScope policy]
      recordReserveEvents reservation context estimate .deny reason reservation.budgetScopes
      pure reservation
    | some (policies, none) => do
      let reservation ←
        newReservation estimate true "budget_approved" (policies.map reservationScope)
      recordReserveEvents reservation context estimate .reserve "budget_reserved"
        reservation.budgetScopes
      pure reservation

def carryOut (guard : BudgetGuard) :
    (effect : Effect) → Program BudgetEffect BudgetAnswer (Answer effect)
  | .reserve estimate context => (guard.reserveUsage text estimate context).run ()
  | effect => .call (.gateway effect) .ret

end BudgetGuard

instance : LT DateTime where
  lt a b := a.year < b.year ∨ a.year = b.year ∧ (a.month < b.month ∨ a.month = b.month ∧
    (a.day < b.day ∨ a.day = b.day ∧ a.microsecond < b.microsecond))

instance : LE DateTime where
  le a b := ¬ b < a

instance (a b : DateTime) : Decidable (a < b) :=
  inferInstanceAs (Decidable (a.year < b.year ∨ a.year = b.year ∧ (a.month < b.month ∨ _)))

instance (a b : DateTime) : Decidable (a ≤ b) := inferInstanceAs (Decidable (¬ b < a))

theorem DateTime.lt_iff {a b : DateTime} :
    a < b ↔ a.year < b.year ∨ a.year = b.year ∧ (a.month < b.month ∨ a.month = b.month ∧
      (a.day < b.day ∨ a.day = b.day ∧ a.microsecond < b.microsecond)) := Iff.rfl

theorem DateTime.le_iff {a b : DateTime} : a ≤ b ↔ ¬ b < a := Iff.rfl

theorem DateTime.le_refl (a : DateTime) : a ≤ a := by
  rw [le_iff, lt_iff]
  omega

protected theorem DateTime.le_trans {a b c : DateTime} (first : a ≤ b) (rest : b ≤ c) : a ≤ c := by
  rw [le_iff, lt_iff] at *
  omega

theorem DateTime.lt_of_le_of_lt {a b c : DateTime} (first : a ≤ b) (rest : b < c) : a < c := by
  rw [le_iff, lt_iff] at first
  rw [lt_iff] at *
  omega

variable (policy : LLMBudget)

theorem periodWindowAt_later {now later : DateTime} (passed : now ≤ later) :
    periodWindowAt policy later = periodWindowAt policy now ∨
      now < (periodWindowAt policy later).1 := by
  rw [DateTime.le_iff, DateTime.lt_iff] at passed
  unfold periodWindowAt
  split
  · exact .inl rfl
  · by_cases same : later.year = now.year ∧ later.month = now.month ∧ later.day = now.day
    · left
      simp only [same]
    · right
      rw [DateTime.lt_iff]
      dsimp only
      omega
  · by_cases same : later.year = now.year ∧
        quarterStartMonth later.month = quarterStartMonth now.month
    · left
      simp only [same]
    · right
      rw [DateTime.lt_iff]
      unfold quarterStartMonth at *
      dsimp only
      omega
  · by_cases same : later.year = now.year ∧ later.month = now.month
    · left
      simp only [same]
    · right
      rw [DateTime.lt_iff]
      dsimp only
      omega

structure UsageRow where
  tenantId : UUID
  userId : Option UUID
  departmentId : Option UUID
  costCenterId : Option UUID
  agentId : Option UUID
  channelId : Option UUID
  status : LLMCallStatus
  usage : LLMUsageMetrics
  createdAt : DateTime
deriving DecidableEq

def usageRow (record : UsageRecord) (context : LLMRequestContext) (costCenterId : Option UUID)
    (createdAt : DateTime) : UsageRow :=
  { tenantId := context.tenantId
    userId := context.userId
    departmentId := context.departmentId
    costCenterId := costCenterId
    agentId := context.agentId
    channelId := context.channelId
    status := record.status
    usage := record.usage
    createdAt := createdAt }

def scopeFilter (context : LLMRequestContext) (costCenterId : Option UUID) (row : UsageRow) :
    Bool :=
  match policy.scopeType with
  | .department => context.departmentId.isNone || row.departmentId == context.departmentId
  | .costCenter => costCenterId.isNone || row.costCenterId == costCenterId
  | .user => context.userId.isNone || row.userId == context.userId
  | .agent => context.agentId.isNone || row.agentId == context.agentId
  | .channel => context.channelId.isNone || row.channelId == context.channelId
  | .tenant | .other _ => true

variable (rows : List UsageRow)

def chargeOf : ℚ × Int := (rows.map fun row => row.usage.charge).sum

def inWindow (window : DateTime × DateTime) (row : UsageRow) : Bool :=
  window.1 ≤ row.createdAt && row.createdAt < window.2

/-- The sums `_usage_for_policy` selects. -/
def usageForPolicy (policy : LLMBudget) (context : LLMRequestContext) (costCenterId : Option UUID)
    (window : DateTime × DateTime) : ℚ × Int :=
  chargeOf (rows.filter fun row =>
    row.tenantId == context.tenantId && row.status == .success && inWindow window row &&
      scopeFilter policy context costCenterId row)

def inScope (row : UsageRow) : Bool :=
  match policy.scopeType with
  | .department => row.departmentId == policy.scopeId
  | .costCenter => row.costCenterId == policy.scopeId
  | .user => row.userId == policy.scopeId
  | .agent => row.agentId == policy.scopeId
  | .channel => row.channelId == policy.scopeId
  | .tenant | .other _ => true

def countsFor (window : DateTime × DateTime) (row : UsageRow) : Bool :=
  row.tenantId == policy.tenantId && row.status == .success && inWindow window row &&
    inScope policy row

def spentIn (policy : LLMBudget) (window : DateTime × DateTime) : ℚ × Int :=
  chargeOf (rows.filter (countsFor policy window))

theorem usageForPolicy_of_matches {policy : LLMBudget} {context : LLMRequestContext}
    {costCenterId : Option UUID} (tenant : policy.tenantId = context.tenantId)
    (matched : policyMatchesContext policy context costCenterId = true) (rows : List UsageRow)
    (window : DateTime × DateTime) :
    usageForPolicy rows policy context costCenterId window = spentIn rows policy window := by
  have same : scopeFilter policy context costCenterId = inScope policy := by
    funext row
    unfold policyMatchesContext at matched
    unfold scopeFilter inScope
    cases scope : policy.scopeType with
    | tenant | other => rfl
    | department | costCenter | user | agent | channel =>
      simp only [scope, Bool.and_eq_true, Option.isSome_iff_exists, beq_iff_eq] at matched
      obtain ⟨⟨id, known⟩, equal⟩ := matched
      simp [← equal, known]
  simp only [usageForPolicy, spentIn, same, ← tenant]
  rfl

theorem LLMUsageMetrics.charge_nonneg (usage : LLMUsageMetrics) : 0 ≤ usage.charge :=
  ⟨usage.costUsd_nonneg, Int.natCast_nonneg _⟩

theorem chargeOf_nonneg : 0 ≤ chargeOf rows := by
  refine List.sum_nonneg ?_
  intro charge mem
  obtain ⟨row, _, rfl⟩ := List.mem_map.mp mem
  exact row.usage.charge_nonneg

theorem chargeOf_append (more : List UsageRow) :
    chargeOf (rows ++ more) = chargeOf rows + chargeOf more := by
  simp [chargeOf]

theorem spentIn_append (row : UsageRow) (policy : LLMBudget) (window : DateTime × DateTime) :
    spentIn (rows ++ [row]) policy window =
      spentIn rows policy window +
        if countsFor policy window row then row.usage.charge else 0 := by
  rw [spentIn, List.filter_append, chargeOf_append, ← spentIn]
  cases counts : countsFor policy window row <;> simp [counts, chargeOf]

theorem spentIn_of_older {rows : List UsageRow} {policy : LLMBudget}
    {window : DateTime × DateTime} (older : ∀ row ∈ rows, row.createdAt < window.1) :
    spentIn rows policy window = 0 := by
  have none : rows.filter (countsFor policy window) = [] := by
    refine List.filter_eq_nil_iff.mpr fun row mem => ?_
    have late := older row mem
    simp [countsFor, inWindow, DateTime.le_iff, late]
  rw [spentIn, none]
  rfl

structure BudgetStorage where
  now : DateTime
  policies : List LLMBudget
  usage : List UsageRow := []
  ledger : List LedgerEntry := []

/-- What the storage answers, and what it is then. `resolves` are the cost
centers a context may be resolved to. A fault changes nothing. -/
def BudgetStorage.Answers (resolves : LLMRequestContext → Option UUID → Prop)
    (s : BudgetStorage) : (effect : BudgetEffect) → BudgetAnswer effect → BudgetStorage → Prop
  | .gateway (.resolveCostCenter context), .ok costCenterId, s' =>
    resolves context costCenterId ∧ s' = s
  | .gateway .utcNow, now, s' => now = s.now ∧ s' = s
  | .gateway (.usageForPolicy policy context start stop), .ok spent, s' =>
    (∃ costCenterId, resolves context costCenterId ∧
      spent = AgentHive.usageForPolicy s.usage policy context costCenterId (start, stop)) ∧
    s' = s
  | .gateway (.policyById budgetId), .ok found, s' =>
    found = s.policies.find? (fun policy => policy.id == budgetId) ∧ s' = s
  | .gateway (.storeLedger entry), .ok (), s' => s' = { s with ledger := s.ledger ++ [entry] }
  | .gateway (.recordUsage record context), .ok (), s' =>
    ∃ costCenterId createdAt, resolves context costCenterId ∧ createdAt ≤ s.now ∧
      s' = { s with usage := s.usage ++ [usageRow record context costCenterId createdAt] }
  | .selectPolicies tenantId, .ok found, s' =>
    (∀ policy, policy ∈ found ↔
      policy ∈ s.policies ∧ policy.tenantId = tenantId ∧ policy.isActive = true) ∧ s' = s
  | _, _, s' => s' = s

theorem BudgetStorage.Answers.change {resolves : LLMRequestContext → Option UUID → Prop}
    {s s' : BudgetStorage} {effect : BudgetEffect} {answer : BudgetAnswer effect}
    (h : s.Answers resolves effect answer s') :
    s' = s ∨ (∃ entry, s' = { s with ledger := s.ledger ++ [entry] }) ∨
      ∃ record context costCenterId createdAt,
        (⟨effect, answer⟩ : BudgetEvent) = ⟨.gateway (.recordUsage record context), .ok ()⟩ ∧
        createdAt ≤ s.now ∧
        s' = { s with usage := s.usage ++ [usageRow record context costCenterId createdAt] } := by
  cases effect with
  | enterReserve | newReservationId => exact .inl h
  | selectPolicies =>
    cases answer with
    | error f => exact .inl h
    | ok found => exact .inl h.2
  | gateway effect =>
    cases effect with
    | storeLedger entry =>
      cases answer with
      | error f => exact .inl h
      | ok u => exact .inr (.inl ⟨entry, h⟩)
    | recordUsage record context =>
      cases answer with
      | error f => exact .inl h
      | ok u =>
        obtain ⟨costCenterId, createdAt, _, past, same⟩ := h
        exact .inr (.inr ⟨record, context, costCenterId, createdAt, rfl, past, same⟩)
    | utcNow => exact .inl h.2
    | resolveCostCenter | usageForPolicy | policyById =>
      cases answer with
      | error f => exact .inl h
      | ok a => exact .inl h.2
    | _ => exact .inl h

def budgetEnvironment (resolves : LLMRequestContext → Option UUID → Prop) :
    Process.Environment BudgetEffect BudgetAnswer BudgetStorage where
  answers := BudgetStorage.Answers resolves
  drifts s s' := ∃ later, s.now ≤ later ∧ s' = { s with now := later }

def BudgetStorage.spent (s : BudgetStorage) (policy : LLMBudget) : ℚ × Int :=
  spentIn s.usage policy (periodWindowAt policy s.now)

structure BudgetStorage.Keeps (policies : List LLMBudget) (s : BudgetStorage) : Prop where
  policies_eq : s.policies = policies
  past : ∀ row ∈ s.usage, row.createdAt ≤ s.now

namespace BudgetStorage

variable {resolves : LLMRequestContext → Option UUID → Prop} {s s' : BudgetStorage}
  {effect : BudgetEffect} {answer : BudgetAnswer effect} {policies : List LLMBudget}

theorem Answers.keeps (h : s.Answers resolves effect answer s') (kept : s.Keeps policies) :
    s'.Keeps policies := by
  obtain rfl | ⟨entry, rfl⟩ | ⟨record, context, costCenterId, createdAt, _, past, rfl⟩ := h.change
  · exact kept
  · exact ⟨kept.policies_eq, kept.past⟩
  · refine ⟨kept.policies_eq, List.forall_mem_append.mpr ⟨kept.past, ?_⟩⟩
    exact List.forall_mem_singleton.mpr past

theorem Keeps.drift (kept : s.Keeps policies) {later : DateTime} (passed : s.now ≤ later) :
    ({ s with now := later } : BudgetStorage).Keeps policies :=
  ⟨kept.policies_eq, fun row mem => DateTime.le_trans (kept.past row mem) passed⟩

theorem Answers.spent_le (h : s.Answers resolves effect answer s') (policy : LLMBudget) :
    s'.spent policy ≤ s.spent policy ∨
      ∃ record context, (⟨effect, answer⟩ : BudgetEvent) =
          ⟨.gateway (.recordUsage record context), .ok ()⟩ ∧
        record.status = .success ∧ s'.spent policy ≤ s.spent policy + record.usage.charge := by
  obtain rfl | ⟨entry, rfl⟩ | ⟨record, context, costCenterId, createdAt, same, _, rfl⟩ := h.change
  · exact .inl (le_refl _)
  · exact .inl (le_refl _)
  · by_cases success : record.status = .success
    · refine .inr ⟨record, context, same, success, ?_⟩
      simp only [spent, spentIn_append]
      split
      · exact le_refl _
      · rw [add_zero]
        exact le_add_of_nonneg_right record.usage.charge_nonneg
    · left
      simp only [spent, spentIn_append]
      have uncounted : countsFor policy (periodWindowAt policy s.now)
          (usageRow record context costCenterId createdAt) = false := by
        simp [countsFor, usageRow, success]
      simp [uncounted]

theorem Keeps.spent_drift (kept : s.Keeps policies) (policy : LLMBudget) {later : DateTime}
    (passed : s.now ≤ later) :
    ({ s with now := later } : BudgetStorage).spent policy ≤ s.spent policy := by
  obtain same | entered := periodWindowAt_later policy passed
  · rw [spent, spent, same]
  · have none : ({ s with now := later } : BudgetStorage).spent policy = 0 :=
      spentIn_of_older fun row mem => DateTime.lt_of_le_of_lt (kept.past row mem) entered
    rw [none]
    exact chargeOf_nonneg _

end BudgetStorage

def BudgetStorage.serve (outside : (effect : Effect) → Answer effect) (s : BudgetStorage) :
    (effect : BudgetEffect) → BudgetAnswer effect × BudgetStorage
  | .enterReserve _ _ => ((), s)
  | .newReservationId => ("reservation-1", s)
  | .selectPolicies tenantId =>
    (.ok (s.policies.filter fun policy => policy.tenantId == tenantId && policy.isActive), s)
  | .gateway (.resolveCostCenter _) => (.ok none, s)
  | .gateway .utcNow => (s.now, s)
  | .gateway (.usageForPolicy policy context start stop) =>
    (.ok (AgentHive.usageForPolicy s.usage policy context none (start, stop)), s)
  | .gateway (.policyById budgetId) =>
    (.ok (s.policies.find? fun policy => policy.id == budgetId), s)
  | .gateway (.storeLedger entry) => (.ok (), { s with ledger := s.ledger ++ [entry] })
  | .gateway (.recordUsage record context) =>
    (.ok (), { s with usage := s.usage ++ [usageRow record context none s.now] })
  | .gateway effect => (outside effect, s)

theorem BudgetStorage.serve_answers (outside : (effect : Effect) → Answer effect)
    (s : BudgetStorage) (effect : BudgetEffect) :
    s.Answers (fun _ costCenterId => costCenterId = none) effect (s.serve outside effect).1
      (s.serve outside effect).2 := by
  cases effect with
  | enterReserve | newReservationId => rfl
  | selectPolicies tenantId => exact ⟨by simp, rfl⟩
  | gateway effect =>
    cases effect with
    | resolveCostCenter | utcNow | policyById => exact ⟨rfl, rfl⟩
    | usageForPolicy => exact ⟨⟨none, rfl, rfl⟩, rfl⟩
    | recordUsage => exact ⟨none, s.now, rfl, DateTime.le_refl _, rfl⟩
    | _ => rfl

structure DateTime.Valid (t : DateTime) : Prop where
  year : 1 ≤ t.year ∧ t.year ≤ 9999
  month : 1 ≤ t.month ∧ t.month ≤ 12
  day : 1 ≤ t.day ∧ t.day ≤ daysInMonth t.year t.month

/-- `_period_window` at an instant: no date is later than the year 9999. -/
def periodWindowOrRaise (policy : LLMBudget) (now : DateTime) : Except Exc (DateTime × DateTime) :=
  let window := periodWindowAt policy now
  if window.2.year ≤ 9999 then .ok window
  else if policy.period = .daily then .error (.other "OverflowError" "date value out of range")
  else .error (.other "ValueError" "year 10000 is out of range")

def InWindow (window : DateTime × DateTime) (t : DateTime) : Prop := window.1 ≤ t ∧ t < window.2

def IsLastPeriod (period : BudgetPeriod) (t : DateTime) : Prop :=
  t.year = 9999 ∧
    match period with
    | .daily => t.month = 12 ∧ t.day = 31
    | .quarterly => 10 ≤ t.month
    | _ => t.month = 12

def TilesAt (policy : LLMBudget) (t : DateTime) : Prop :=
  ∃ window, periodWindowOrRaise policy t = .ok window ∧ InWindow window t ∧
    ∀ other : DateTime, other.Valid → InWindow window other →
      periodWindowOrRaise policy other = .ok window

def IsCalendar (period : BudgetPeriod) : Prop :=
  period = .daily ∨ period = .monthly ∨ period = .quarterly

variable {policy} {t other : DateTime}

theorem nextMidnight_tiles (valid : t.Valid) (validOther : other.Valid) :
    let start : DateTime := ⟨t.year, t.month, t.day, 0⟩
    start ≤ other ∧ other < nextMidnight start ↔
      other.year = t.year ∧ other.month = t.month ∧ other.day = t.day := by
  obtain ⟨⟨_, _⟩, ⟨_, _⟩, ⟨_, last⟩⟩ := valid
  obtain ⟨⟨_, _⟩, ⟨_, _⟩, ⟨_, lastOther⟩⟩ := validOther
  dsimp only
  rw [DateTime.le_iff, DateTime.lt_iff, DateTime.lt_iff]
  unfold nextMidnight
  dsimp only
  refine ⟨fun ⟨from_, upto⟩ => ?_, fun ⟨_, _, _⟩ => ?_⟩
  · by_cases same : other.year = t.year ∧ other.month = t.month
    · rw [same.1, same.2] at lastOther
      split_ifs at upto <;> dsimp only at upto <;> omega
    · split_ifs at upto <;> dsimp only at upto <;> omega
  · split_ifs <;> dsimp only <;> omega

theorem inWindow_iff (calendar : IsCalendar policy.period) (valid : t.Valid)
    (validOther : other.Valid) :
    InWindow (periodWindowAt policy t) other ↔
      periodWindowAt policy other = periodWindowAt policy t := by
  unfold InWindow periodWindowAt
  obtain daily | monthly | quarterly := calendar
  · rw [daily]
    refine (nextMidnight_tiles valid validOther).trans
      ⟨fun ⟨year, month, day⟩ => ?_, fun same => ?_⟩
    · simp only [year, month, day]
    · simpa using congrArg Prod.fst same
  all_goals
    obtain ⟨⟨_, _⟩, ⟨_, _⟩, ⟨_, _⟩⟩ := valid
    obtain ⟨⟨_, _⟩, ⟨_, _⟩, ⟨_, _⟩⟩ := validOther
  · rw [monthly]
    rw [DateTime.le_iff, DateTime.lt_iff, DateTime.lt_iff]
    dsimp only
    refine ⟨fun ⟨since, before⟩ => ?_, fun same => ?_⟩
    · have period : other.year = t.year ∧ other.month = t.month := by
        split_ifs at before <;> dsimp only at before <;> omega
      rw [period.1, period.2]
    · injection congrArg Prod.fst same with year month
      rw [year, month]
      split_ifs <;> dsimp only <;> omega
  · rw [quarterly]
    unfold quarterStartMonth
    rw [DateTime.le_iff, DateTime.lt_iff, DateTime.lt_iff]
    dsimp only
    refine ⟨fun ⟨since, before⟩ => ?_, fun same => ?_⟩
    · have period : other.year = t.year ∧ (other.month - 1) / 3 = (t.month - 1) / 3 := by
        split_ifs at before <;> dsimp only at before <;> omega
      simp only [period]
    · injection congrArg Prod.fst same with year month
      rw [year]
      split_ifs <;> dsimp only <;> omega

theorem window_year (valid : t.Valid) (calendar : IsCalendar policy.period) :
    (periodWindowAt policy t).2.year ≤ 9999 ↔ ¬ IsLastPeriod policy.period t := by
  obtain ⟨⟨_, upto⟩, ⟨_, _⟩, ⟨_, last⟩⟩ := valid
  unfold IsLastPeriod periodWindowAt
  obtain daily | monthly | quarterly := calendar
  · rw [daily]
    unfold nextMidnight
    have december : t.month = 12 → daysInMonth t.year t.month = 31 := fun month => by
      rw [month]
      rfl
    dsimp only
    split_ifs <;> dsimp only <;> omega
  · rw [monthly]
    split_ifs <;> dsimp only <;> omega
  · rw [quarterly]
    unfold quarterStartMonth
    dsimp only
    split_ifs <;> dsimp only <;> omega

/-- Every instant is in its window and shares it with the rest of the window,
except in the last day, month or quarter that dates reach. -/
theorem periodWindow_tiles (policy) (t : DateTime) (valid : t.Valid)
    (calendar : IsCalendar policy.period) :
    (TilesAt policy t ↔ ¬ IsLastPeriod policy.period t) ∧
      ((∃ error, periodWindowOrRaise policy t = .error error) ↔ IsLastPeriod policy.period t) := by
  have ends := window_year valid calendar
  unfold TilesAt periodWindowOrRaise
  dsimp only
  by_cases last : IsLastPeriod policy.period t
  · rw [if_neg fun early => ends.mp early last]
    split <;> simp [last]
  · rw [if_pos (ends.mpr last)]
    simp only [last, not_false_eq_true, iff_true, reduceCtorEq, exists_false]
    refine ⟨⟨_, rfl, (inWindow_iff calendar valid valid).mpr rfl, fun other validOther inside => ?_⟩,
      trivial⟩
    rw [(inWindow_iff calendar valid validOther).mp inside, if_pos (ends.mpr last)]

theorem periodWindow_tiles_leapDay :
    TilesAt { id := 1, tenantId := 1, scopeType := .tenant, period := .daily } ⟨2024, 2, 29, 0⟩ :=
  ((periodWindow_tiles _ ⟨2024, 2, 29, 0⟩ ⟨by decide, by decide, by decide⟩ (.inl rfl)).1).mpr
    (by rintro ⟨year, -⟩; revert year; decide)

theorem periodWindow_end_of_calendar :
    ¬ ∀ (policy : LLMBudget) (t : DateTime), t.Valid → IsCalendar policy.period →
      TilesAt policy t := by
  intro tiles
  obtain ⟨window, given, -⟩ := tiles { id := 1, tenantId := 1, scopeType := .tenant }
    ⟨9999, 12, 1, 0⟩ ⟨by decide, by decide, by decide⟩ (.inr (.inl rfl))
  exact absurd given (by simp [periodWindowOrRaise, periodWindowAt])

end AgentHive
