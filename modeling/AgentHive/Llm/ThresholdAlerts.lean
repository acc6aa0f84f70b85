import AgentHive.Llm.BudgetStorage
import AgentHive.Llm.GatewayRuns
import AgentHive.Process.Protocol
import Mathlib.Algebra.Order.Field.Rat
import Mathlib.Data.Fintype.Basic

/-!
The alerts of a budget, over calls that settle and record side by side.
-/

namespace AgentHive

open Process (Action Program Monitor Config Taken Interleaved Environment)

def alertThreshold (policy : LLMBudget) : ℚ := policy.alertThresholdPct / 100

def ReachesAmount (policy : LLMBudget) (charge : ℚ × Int) : Prop :=
  0 < policy.amountUsd ∧ alertThreshold policy ≤ ratio charge.1 policy.amountUsd

def ReachesTokens (policy : LLMBudget) (charge : ℚ × Int) : Prop :=
  ∃ limit ∈ policy.tokenLimit, alertThreshold policy ≤ ratio charge.2 limit

instance (policy : LLMBudget) (charge : ℚ × Int) : Decidable (ReachesAmount policy charge) :=
  inferInstanceAs (Decidable (_ ∧ _))

instance (policy : LLMBudget) (charge : ℚ × Int) : Decidable (ReachesTokens policy charge) :=
  inferInstanceAs (Decidable (∃ limit ∈ policy.tokenLimit, _))

def Crosses (policy : LLMBudget) (spent charge : ℚ × Int) : Prop :=
  (¬ ReachesAmount policy spent ∧ ReachesAmount policy (spent + charge)) ∨
    (¬ ReachesTokens policy spent ∧ ReachesTokens policy (spent + charge))

instance (policy : LLMBudget) (spent charge : ℚ × Int) : Decidable (Crosses policy spent charge) :=
  inferInstanceAs (Decidable (_ ∨ _))

def reached (policy : LLMBudget) (spent : ℚ × Int) : Nat :=
  (if ReachesAmount policy spent then 1 else 0) + if ReachesTokens policy spent then 1 else 0

theorem softLimitAlert_isSome (policy : LLMBudget) (spent : ℚ × Int) (actual : LLMUsageMetrics)
    (window : DateTime × DateTime) :
    (softLimitAlert policy spent actual window).isSome ↔ Crosses policy spent actual.charge := by
  have amount : (0 < policy.amountUsd ∧
        ratio spent.1 policy.amountUsd < policy.alertThresholdPct / 100 ∧
        (policy.alertThresholdPct / 100 : ℚ) ≤
          ratio (spent.1 + actual.costUsd) policy.amountUsd) ↔
      ¬ ReachesAmount policy spent ∧ ReachesAmount policy (spent + actual.charge) := by
    simp only [ReachesAmount, alertThreshold, LLMUsageMetrics.charge, Prod.fst_add, not_and, not_le]
    tauto
  have tokens : (∃ limit ∈ policy.tokenLimit,
        ratio spent.2 limit < policy.alertThresholdPct / 100 ∧
        (policy.alertThresholdPct / 100 : ℚ) ≤
          ratio ((spent.2 + actual.totalTokens : Int) : ℚ) limit) ↔
      ¬ ReachesTokens policy spent ∧ ReachesTokens policy (spent + actual.charge) := by
    cases limit : policy.tokenLimit <;>
      simp [ReachesTokens, alertThreshold, LLMUsageMetrics.charge, limit]
  unfold Crosses
  rw [← amount, ← tokens, softLimitAlert]
  split
  · rename_i alert
    exact iff_of_true rfl alert
  · rename_i quiet
    exact iff_of_false (by simp) quiet

variable {policy : LLMBudget} {window : DateTime × DateTime}

theorem softLimitAlert_window {spent : ℚ × Int} {actual : LLMUsageMetrics} {alert : SoftLimitAlert}
    (raised : softLimitAlert policy spent actual window = some alert) :
    (alert.periodStart, alert.periodEnd) = window := by
  unfold softLimitAlert at raised
  dsimp only at raised
  split at raised
  · cases raised
    rfl
  · cases raised

theorem ratio_mono {a b : ℚ} (limit : ℚ) (nonneg : 0 ≤ a) (le : a ≤ b) :
    ratio a limit ≤ ratio b limit := by
  unfold ratio
  split
  · exact le_refl 0
  · rename_i positive
    have limited : 0 < limit := not_le.mp positive
    exact ModelPricingCatalog.decimal_mono (div_nonneg nonneg limited.le)
      (div_le_div_of_nonneg_right le limited.le)

section

variable {policy : LLMBudget} {spent charge : ℚ × Int}

theorem ReachesAmount.add (reaches : ReachesAmount policy spent) (nonneg : 0 ≤ spent)
    (charged : 0 ≤ charge) : ReachesAmount policy (spent + charge) :=
  ⟨reaches.1, reaches.2.trans
    (ratio_mono _ nonneg.1 (le_add_of_nonneg_right (b := charge.1) charged.1))⟩

theorem ReachesTokens.add (reaches : ReachesTokens policy spent) (nonneg : 0 ≤ spent)
    (charged : 0 ≤ charge) : ReachesTokens policy (spent + charge) := by
  obtain ⟨limit, mem, reaches⟩ := reaches
  have more : spent.2 ≤ (spent + charge).2 := le_add_of_nonneg_right charged.2
  have start : (0 : Int) ≤ spent.2 := nonneg.2
  exact ⟨limit, mem, reaches.trans (ratio_mono _ (by exact_mod_cast start) (by exact_mod_cast more))⟩

theorem reached_add (nonneg : 0 ≤ spent) (charged : 0 ≤ charge) :
    reached policy spent ≤ reached policy (spent + charge) ∧
      (reached policy spent < reached policy (spent + charge) ↔ Crosses policy spent charge) := by
  have amount := fun reaches : ReachesAmount policy spent => reaches.add nonneg charged
  have tokens := fun reaches : ReachesTokens policy spent => reaches.add nonneg charged
  unfold reached Crosses
  by_cases ReachesAmount policy spent <;> by_cases ReachesTokens policy spent <;>
    by_cases ReachesAmount policy (spent + charge) <;>
    by_cases ReachesTokens policy (spent + charge) <;> simp_all

end

def crossings (policy : LLMBudget) : ℚ × Int → List (ℚ × Int) → Nat
  | _, [] => 0
  | spent, charge :: rest =>
    (if Crosses policy spent charge then 1 else 0) + crossings policy (spent + charge) rest

theorem crossings_append (policy : LLMBudget) (spent : ℚ × Int) (charges : List (ℚ × Int))
    (last : ℚ × Int) :
    crossings policy spent (charges ++ [last]) = crossings policy spent charges +
      if Crosses policy (spent + charges.sum) last then 1 else 0 := by
  induction charges generalizing spent with
  | nil => simp [crossings]
  | cons charge rest ih =>
    rw [List.cons_append, crossings, ih, crossings, List.sum_cons, add_assoc, add_assoc]

theorem crossings_bounds {spent : ℚ × Int} {charges : List (ℚ × Int)} (nonneg : 0 ≤ spent)
    (charged : ∀ charge ∈ charges, 0 ≤ charge) :
    crossings policy spent charges + reached policy spent ≤
        reached policy (spent + charges.sum) ∧
      (reached policy spent < reached policy (spent + charges.sum) →
        0 < crossings policy spent charges) := by
  induction charges generalizing spent with
  | nil => simp [crossings]
  | cons charge rest ih =>
    obtain ⟨first, later⟩ := List.forall_mem_cons.mp charged
    obtain ⟨most, least⟩ := ih (add_nonneg nonneg first) later
    obtain ⟨le, crosses⟩ := @reached_add policy spent charge nonneg first
    rw [List.sum_cons, ← add_assoc, crossings]
    by_cases crossing : Crosses policy spent charge
    · have more := crosses.mpr crossing
      rw [if_pos crossing]
      omega
    · have same : ¬ reached policy spent < reached policy (spent + charge) :=
        fun more => crossing (crosses.mp more)
      rw [if_neg crossing]
      omega

structure ClosingCall where
  guard : BudgetGuard
  reservation : BudgetReservation
  context : LLMRequestContext
  route : RouteSelection
  response : LLMResponse

/-- `settle`, then `record_success`. -/
def ClosingCall.close (call : ClosingCall) : Step Unit Unit := do
  call.guard.settle call.reservation call.response.usage call.context
  UsageCollector.append
    (UsageCollector.successRecord call.context call.route call.response) call.context

def ClosingCall.program (call : ClosingCall) : Program Effect Answer (Except Exc Unit) :=
  call.close.run ()

def isAlertOf (policy : LLMBudget) (window : DateTime × DateTime) (entry : LedgerEntry) : Bool :=
  entry.eventType == .alert && entry.scope.budgetId == policy.id &&
    entry.alert.any fun alert => (alert.periodStart, alert.periodEnd) == window

/-- Where a call stands towards a policy: before its comparison, with an alert
due, after that with its row still to store, and with its row stored. -/
inductive AlertPhase
  | waiting
  | due
  | clear
  | recorded
deriving DecidableEq

def AlertPhase.isPending : AlertPhase → Bool
  | .due | .clear => true
  | .waiting | .recorded => false

def alertMonitor (policy : LLMBudget) (window : DateTime × DateTime) (call : ClosingCall) :
    Monitor Effect Answer AlertPhase where
  next
    | .waiting, ⟨.usageForPolicy found _ _ _, .ok spent⟩ =>
      if found = policy then
        if Crosses policy spent call.response.usage.charge then .due else .clear
      else .waiting
    | .due, ⟨.storeLedger entry, .ok ()⟩ => if isAlertOf policy window entry then .clear else .due
    | _, ⟨.recordUsage _ _, .ok ()⟩ => .recorded
    | phase, _ => phase

def alertAllowed (policy : LLMBudget) (window : DateTime × DateTime) (call : ClosingCall)
    (phase : AlertPhase) : Effect → Prop
  | .usageForPolicy found context start stop =>
    found = policy → phase = .waiting ∧ context = call.context ∧ (start, stop) = window
  | .storeLedger entry => isAlertOf policy window entry = true ↔ phase = .due
  | .recordUsage record context =>
    phase = .clear ∧ record.status = .success ∧ record.usage = call.response.usage ∧
      context = call.context
  | _ => True

def Truthful (policy : LLMBudget) (window : DateTime × DateTime) : CallEvent → Prop
  | ⟨.storeLedger _, answer⟩ => answer = .ok ()
  | ⟨.recordUsage _ _, answer⟩ => answer = .ok ()
  | ⟨.usageForPolicy _ _ _ _, answer⟩ => ∃ spent, answer = .ok spent
  | ⟨.policyById budgetId, answer⟩ =>
    ∃ found, answer = .ok found ∧ (budgetId = policy.id → found = some policy) ∧
      (budgetId ≠ policy.id → found ≠ some policy)
  | ⟨.utcNow, now⟩ => periodWindowAt policy now = window
  | _ => True

namespace BudgetGuard

variable {σ : Type} {policy : LLMBudget} {window : DateTime × DateTime} {call : ClosingCall}
  {scope : BudgetReservationScope} {s : σ} {phase : AlertPhase}

abbrev Settles (policy : LLMBudget) (window : DateTime × DateTime) (call : ClosingCall)
    {α : Type} (m : Step σ α) (s : σ) (phase : AlertPhase) (Q : α → AlertPhase → Prop) : Prop :=
  m.Follows (alertMonitor policy window call) (alertAllowed policy window call)
    (Truthful policy window) s phase fun r s' after => s' = s ∧ ∃ a, r = .ok a ∧ Q a after

theorem Settles.bind {α β : Type} {m : Step σ α} {f : α → Step σ β} {Q : α → AlertPhase → Prop}
    {Q' : β → AlertPhase → Prop} (first : Settles policy window call m s phase Q)
    (rest : ∀ a after, Q a after → Settles policy window call (f a) s after Q') :
    Settles policy window call (m >>= f) s phase Q' := by
  refine (Action.follows_bind _ _ _ _ _).mpr (Action.Follows.mono first ?_)
  intro r s' after h
  obtain ⟨rfl, a, rfl, fits⟩ := h
  exact rest a after fits

theorem recordBudgetEvent_settles {entry : LedgerEntry}
    (due : isAlertOf policy window entry = true ↔ phase = .due) :
    Settles policy window call (recordBudgetEvent entry) s phase fun _ after =>
      after = if phase = .due then .clear else phase := by
  refine (Action.follows_bind _ _ _ _ _).mpr ⟨due, ?_⟩
  intro answer works
  cases works
  refine ⟨rfl, (), rfl, ?_⟩
  cases phase with
  | due => simp [alertMonitor, due]
  | waiting | clear | recorded => rfl

variable (current : ∃ now, periodWindowAt policy now = window)

include current

theorem periodWindow_settles (found : LLMBudget) :
    Settles policy window call (periodWindow found) s phase fun asked after =>
      after = phase ∧ (found = policy → asked = window) := by
  unfold periodWindow
  split
  · rename_i start stop period start_eq stop_eq
    refine ⟨rfl, _, rfl, rfl, ?_⟩
    intro same
    subst same
    obtain ⟨now, rfl⟩ := current
    simp [periodWindowAt, period, start_eq, stop_eq]
  · refine (Action.follows_bind _ _ _ _ _).mpr ⟨trivial, ?_⟩
    intro now inside
    refine ⟨rfl, _, rfl, by cases phase <;> rfl, ?_⟩
    intro same
    rw [same]
    exact inside

omit current in
theorem policyById_settles (budgetId : UUID) :
    Settles policy window call (policyById budgetId) s phase fun found after =>
      after = phase ∧ (budgetId = policy.id → found = some policy) ∧
        (budgetId ≠ policy.id → found ≠ some policy) := by
  refine (Action.follows_bind _ _ _ _ _).mpr ⟨trivial, ?_⟩
  intro answer works
  obtain ⟨found, rfl, own, others⟩ := works
  exact ⟨rfl, found, rfl, by cases phase <;> rfl, own, others⟩

omit current in
theorem usageForPolicy_settles {found : LLMBudget} {context : LLMRequestContext}
    {start stop : DateTime}
    (allowed : alertAllowed policy window call phase (.usageForPolicy found context start stop)) :
    Settles policy window call (do
      let answer : Except Fault (ℚ × Int) ←
        Action.perform (Effect.usageForPolicy found context start stop)
      Step.stored answer : Step σ (ℚ × Int)) s phase fun spent after =>
        after = (alertMonitor policy window call).next phase
          ⟨.usageForPolicy found context start stop, .ok spent⟩ := by
  refine (Action.follows_bind _ _ _ _ _).mpr ⟨allowed, ?_⟩
  intro answer works
  obtain ⟨spent, rfl⟩ := works
  exact ⟨rfl, spent, rfl, rfl⟩

variable (reservation : BudgetReservation)

theorem recordSoftLimitAlertIfNeeded_settles (own : scope.budgetId = policy.id) :
    Settles policy window call (recordSoftLimitAlertIfNeeded policy reservation call.context scope
      call.response.usage) s .waiting fun _ after => after = .clear := by
  refine (periodWindow_settles current policy).bind ?_
  intro asked after inside
  obtain ⟨rfl, inside⟩ := inside
  refine (usageForPolicy_settles fun _ => ⟨rfl, rfl, inside rfl⟩).bind ?_
  intro spent after compared
  have crosses := softLimitAlert_isSome policy spent call.response.usage asked
  cases raised : softLimitAlert policy spent call.response.usage asked with
  | none =>
    rw [raised] at crosses
    refine ⟨rfl, (), rfl, ?_⟩
    simpa [alertMonitor, ← crosses] using compared
  | some alert =>
    rw [raised] at crosses
    have due : after = .due := by simpa [alertMonitor, ← crosses] using compared
    have window_eq := softLimitAlert_window raised
    rw [inside rfl] at window_eq
    refine Action.Follows.mono (recordBudgetEvent_settles ?_) ?_
    · simp [isAlertOf, ledgerEntry, own, window_eq, due]
    · intro r s' last h
      obtain ⟨same, a, rfl, ends⟩ := h
      exact ⟨same, a, rfl, by rw [ends, if_pos due]⟩

theorem recordSoftLimitAlertIfNeeded_other
    {found : LLMBudget} (other : found ≠ policy) (reservation : BudgetReservation)
    (apart : scope.budgetId ≠ policy.id) (notDue : phase ≠ .due) :
    Settles policy window call (recordSoftLimitAlertIfNeeded found reservation call.context scope
      call.response.usage) s phase fun _ after => after = phase := by
  refine (periodWindow_settles current found).bind ?_
  intro asked after inside
  obtain ⟨rfl, _⟩ := inside
  refine (usageForPolicy_settles fun same => absurd same other).bind ?_
  intro spent last compared
  have kept : last = after := by
    cases after <;> simpa [alertMonitor, other] using compared
  subst kept
  cases raised : softLimitAlert found spent call.response.usage asked with
  | none => exact ⟨rfl, (), rfl, rfl⟩
  | some alert =>
    refine Action.Follows.mono (recordBudgetEvent_settles ?_) ?_
    · simp [isAlertOf, ledgerEntry, apart, notDue]
    · intro r s' last h
      obtain ⟨same, a, rfl, ends⟩ := h
      exact ⟨same, a, rfl, by rw [ends, if_neg notDue]⟩

theorem settleScope_other (apart : scope.budgetId ≠ policy.id) (notDue : phase ≠ .due) :
    Settles policy window call (settleScope reservation call.response.usage call.context scope) s
      phase fun _ after => after = phase := by
  refine (recordBudgetEvent_settles (by simp [isAlertOf, ledgerEntry, notDue])).bind ?_
  intro _ after kept
  rw [if_neg notDue] at kept
  subst kept
  refine (policyById_settles scope.budgetId).bind ?_
  intro found last h
  obtain ⟨rfl, _, others⟩ := h
  cases found with
  | none => exact ⟨rfl, (), rfl, rfl⟩
  | some found =>
    cases hard : found.hardLimit with
    | true => simp [hard]
    | false =>
      have other : found ≠ policy := by simpa using others apart
      simpa [hard] using
        recordSoftLimitAlertIfNeeded_other current other reservation apart notDue

theorem settleScope_own (soft : policy.hardLimit = false) (reservation : BudgetReservation)
    (own : scope.budgetId = policy.id) :
    Settles policy window call (settleScope reservation call.response.usage call.context scope) s
      .waiting fun _ after => after = .clear := by
  refine (recordBudgetEvent_settles (by simp [isAlertOf, ledgerEntry])).bind ?_
  intro _ after kept
  rw [if_neg (by decide)] at kept
  subst kept
  refine (policyById_settles scope.budgetId).bind ?_
  intro found last h
  obtain ⟨rfl, known, _⟩ := h
  rw [known own]
  simpa [soft] using recordSoftLimitAlertIfNeeded_settles current reservation own

theorem settleScopes_other {scopes : List BudgetReservationScope}
    (apart : policy.id ∉ scopes.map (·.budgetId)) (notDue : phase ≠ .due) :
    Settles policy window call
      (settleScopes reservation call.response.usage call.context scopes) s phase
      fun _ after => after = phase := by
  induction scopes with
  | nil => exact ⟨rfl, (), rfl, rfl⟩
  | cons scope rest ih =>
    obtain ⟨first, later⟩ := not_or.mp (List.mem_cons.not.mp apart)
    refine (settleScope_other current reservation (Ne.symm first) notDue).bind ?_
    intro _ after kept
    subst kept
    exact ih later

theorem settleScopes_own (soft : policy.hardLimit = false) (reservation : BudgetReservation)
    {scopes : List BudgetReservationScope} (once : (scopes.map (·.budgetId)).Nodup)
    (named : policy.id ∈ scopes.map (·.budgetId)) :
    Settles policy window call
      (settleScopes reservation call.response.usage call.context scopes) s .waiting
      fun _ after => after = .clear := by
  induction scopes with
  | nil => cases named
  | cons scope rest ih =>
    obtain ⟨fresh, distinct⟩ := List.nodup_cons.mp once
    by_cases own : scope.budgetId = policy.id
    · refine (settleScope_own current soft reservation own).bind ?_
      intro _ after cleared
      subst cleared
      exact settleScopes_other current reservation (own ▸ fresh) (by decide)
    · refine (settleScope_other current reservation own (by decide)).bind ?_
      intro _ after kept
      subst kept
      exact ih distinct ((List.mem_cons.mp named).resolve_left (Ne.symm own))

end BudgetGuard

structure AlertGoverned {ι : Type} (resolves : LLMRequestContext → Option UUID → Prop)
    (policy : LLMBudget) (window : DateTime × DateTime) (calls : ι → ClosingCall)
    (storage : BudgetStorage) : Prop where
  stored : storage.policies.find? (fun found => found.id == policy.id) = some policy
  current : periodWindowAt policy storage.now = window
  session : ∀ i, (calls i).guard.hasSession = true
  approved : ∀ i, (calls i).reservation.approved = true
  once : ∀ i, ((calls i).reservation.budgetScopes.map (·.budgetId)).Nodup
  named : ∀ i, policy.id ∈ (calls i).reservation.budgetScopes.map (·.budgetId)
  tenant : ∀ i, policy.tenantId = (calls i).context.tenantId
  matched : ∀ i costCenterId, resolves (calls i).context costCenterId →
    policyMatchesContext policy (calls i).context costCenterId = true

theorem ClosingCall.follows {ι : Type} {resolves : LLMRequestContext → Option UUID → Prop}
    {calls : ι → ClosingCall} {storage : BudgetStorage}
    (governed : AlertGoverned resolves policy window calls storage)
    (soft : policy.hardLimit = false) (i : ι) :
    (calls i).program.Follows (alertMonitor policy window (calls i))
      (alertAllowed policy window (calls i)) (Truthful policy window) .waiting
      fun r after => r = .ok () ∧ after = .recorded := by
  refine (Action.follows_run _ _ _ _).mpr ((Action.follows_bind _ _ _ _ _).mpr ?_)
  rw [BudgetGuard.settle, governed.session, governed.approved]
  refine Action.Follows.mono (BudgetGuard.settleScopes_own ⟨_, governed.current⟩ soft _
    (governed.once i) (governed.named i)) ?_
  intro r s after h
  obtain ⟨_, u, rfl, rfl⟩ := h
  refine (Action.follows_bind _ _ _ _ _).mpr ⟨⟨rfl, rfl, rfl, rfl⟩, ?_⟩
  intro answer works
  cases works
  exact ⟨rfl, rfl⟩

/-- The storage of the calls while a window is current: every row is stored in
the window, and the clock does not leave it. -/
def windowEnvironment (resolves : LLMRequestContext → Option UUID → Prop) (policy : LLMBudget)
    (window : DateTime × DateTime) : Environment Effect Answer BudgetStorage where
  answers s effect answer s' := s.Answers resolves (.gateway effect) answer s' ∧
    ∃ rows, s'.usage = s.usage ++ rows ∧ ∀ row ∈ rows, inWindow window row = true
  drifts s s' := ∃ later, s.now ≤ later ∧ periodWindowAt policy later = window ∧
    s' = { s with now := later }

abbrev AlertConfig (ι : Type) := Config ι Effect Answer (Except Exc Unit) BudgetStorage

abbrev AlertTaken (ι : Type) := Taken ι Effect Answer (Except Exc Unit) BudgetStorage

def alertsOf (policy : LLMBudget) (window : DateTime × DateTime) (ledger : List LedgerEntry) : Nat :=
  ledger.countP (isAlertOf policy window)

def chargesIn (policy : LLMBudget) (window : DateTime × DateTime) (rows : List UsageRow) :
    List (ℚ × Int) :=
  (rows.filter (countsFor policy window)).map fun row => row.usage.charge

theorem spentIn_append_rows (rows more : List UsageRow) (policy : LLMBudget)
    (window : DateTime × DateTime) :
    spentIn (rows ++ more) policy window =
      spentIn rows policy window + (chargesIn policy window more).sum := by
  rw [spentIn, List.filter_append, chargeOf_append]
  rfl

theorem chargesIn_nonneg {rows : List UsageRow} :
    ∀ charge ∈ chargesIn policy window rows, 0 ≤ charge := by
  intro charge mem
  obtain ⟨row, _, rfl⟩ := List.mem_map.mp mem
  exact row.usage.charge_nonneg

theorem chargesIn_append_counted {row : UsageRow} (counts : countsFor policy window row = true)
    (rows : List UsageRow) :
    chargesIn policy window (rows ++ [row]) =
      chargesIn policy window rows ++ [row.usage.charge] := by
  simp [chargesIn, counts]

def comparesPolicy (policy : LLMBudget) : CallEvent → Bool
  | ⟨.usageForPolicy found _ _ _, _⟩ => found == policy
  | _ => false

def fails : CallEvent → Bool
  | ⟨.storeLedger _, .error _⟩ | ⟨.recordUsage _ _, .error _⟩ | ⟨.policyById _, .error _⟩
  | ⟨.usageForPolicy _ _ _ _, .error _⟩ => true
  | _ => false

section

variable {ι : Type} (policy : LLMBudget) (window : DateTime × DateTime) (calls : ι → ClosingCall)
  (c : AlertConfig ι)

def alertPhase (i : ι) : AlertPhase :=
  (alertMonitor policy window (calls i)).stateAfter .waiting (c.history i)

def NonePending : Prop := ∀ i, (alertPhase policy window calls c i).isPending = false

def ComparesAlone (step : AlertTaken ι) : Prop :=
  comparesPolicy policy step.event = true → NonePending policy window calls step.before

instance [Fintype ι] : Decidable (NonePending policy window calls c) :=
  inferInstanceAs (Decidable (∀ _ : ι, _ = _))

instance [Fintype ι] (step : AlertTaken ι) : Decidable (ComparesAlone policy window calls step) :=
  inferInstanceAs (Decidable (_ → _))

inductive InFlight (phases : ι → AlertPhase) : Nat → List (ℚ × Int) → Prop
  | none (idle : ∀ j, (phases j).isPending = false) : InFlight phases 0 []
  | due (i : ι) (own : phases i = .due) (idle : ∀ j ≠ i, (phases j).isPending = false) :
      InFlight phases 1 [(calls i).response.usage.charge]
  | clear (i : ι) (own : phases i = .clear) (idle : ∀ j ≠ i, (phases j).isPending = false) :
      InFlight phases 0 [(calls i).response.usage.charge]

def AlertsMatch (storage : BudgetStorage) : Prop :=
  ∃ rows late charges, c.shared.usage = storage.usage ++ rows ∧
    InFlight calls (alertPhase policy window calls c) late charges ∧
    alertsOf policy window c.shared.ledger + late = alertsOf policy window storage.ledger +
      crossings policy (spentIn storage.usage policy window)
        (chargesIn policy window rows ++ charges)

end

section

variable {ι : Type} {calls : ι → ClosingCall} {phases : ι → AlertPhase} {late : Nat}
  {charges : List (ℚ × Int)}

namespace InFlight

theorem of_idle (inFlight : InFlight calls phases late charges)
    (idle : ∀ j, (phases j).isPending = false) : late = 0 ∧ charges = [] := by
  cases inFlight with
  | none => exact ⟨rfl, rfl⟩
  | due i own | clear i own =>
    have pending := idle i
    rw [own] at pending
    cases pending

theorem of_pending (inFlight : InFlight calls phases late charges) {i : ι}
    (pending : (phases i).isPending = true) :
    late = (if phases i = .due then 1 else 0) ∧ charges = [(calls i).response.usage.charge] ∧
      ∀ j ≠ i, (phases j).isPending = false := by
  have only : ∀ j, (∀ k ≠ j, (phases k).isPending = false) → i = j := by
    intro j idle
    by_contra other
    rw [idle i other] at pending
    cases pending
  cases inFlight with
  | none idle =>
    rw [idle i] at pending
    cases pending
  | due j own idle =>
    cases only j idle
    exact ⟨by rw [if_pos own], rfl, idle⟩
  | clear j own idle =>
    cases only j idle
    exact ⟨by rw [own, if_neg (by decide)], rfl, idle⟩

variable [DecidableEq ι] {i : ι}

theorem compare (idle : ∀ j, (phases j).isPending = false) (crosses : Prop) [Decidable crosses] :
    InFlight calls (Function.update phases i (if crosses then .due else .clear))
      (if crosses then 1 else 0) [(calls i).response.usage.charge] := by
  have others : ∀ phase, ∀ j ≠ i, (Function.update phases i phase j).isPending = false := by
    intro phase j other
    rw [Function.update_of_ne other]
    exact idle j
  by_cases crossing : crosses
  · simp only [if_pos crossing]
    exact .due i (Function.update_self ..) (others _)
  · simp only [if_neg crossing]
    exact .clear i (Function.update_self ..) (others _)

theorem alert (idle : ∀ j ≠ i, (phases j).isPending = false) :
    InFlight calls (Function.update phases i .clear) 0 [(calls i).response.usage.charge] := by
  refine .clear i (Function.update_self ..) ?_
  intro j other
  rw [Function.update_of_ne other]
  exact idle j other

theorem record (idle : ∀ j ≠ i, (phases j).isPending = false) :
    InFlight calls (Function.update phases i .recorded) 0 [] := by
  refine .none ?_
  intro j
  by_cases same : j = i
  · rw [same, Function.update_self]
    rfl
  · rw [Function.update_of_ne same]
    exact idle j same

end InFlight

end

theorem inScope_usageRow {context : LLMRequestContext} {costCenterId : Option UUID}
    (matched : policyMatchesContext policy context costCenterId = true) {record : UsageRecord}
    {createdAt : DateTime} :
    inScope policy (usageRow record context costCenterId createdAt) = true := by
  unfold policyMatchesContext at matched
  unfold inScope
  cases scope : policy.scopeType with
  | tenant | other => rfl
  | department | costCenter | user | agent | channel =>
    simp only [scope, Bool.and_eq_true, beq_iff_eq] at matched
    simp [usageRow, ← matched.2]

section

variable {ι : Type} [DecidableEq ι] {resolves : LLMRequestContext → Option UUID → Prop}
  {policy : LLMBudget} {window : DateTime × DateTime} {calls : ι → ClosingCall}
  {storage shared : BudgetStorage} {c : AlertConfig ι} {i : ι} {effect : Effect}
  {answer : Answer effect} {rest : Program Effect Answer (Except Exc Unit)}

theorem alertPhase_advance :
    alertPhase policy window calls (c.advance i ⟨effect, answer⟩ rest shared) =
      Function.update (alertPhase policy window calls c) i
        ((alertMonitor policy window (calls i)).next (alertPhase policy window calls c i)
          ⟨effect, answer⟩) := by
  funext j
  by_cases same : j = i
  · subst same
    simp only [alertPhase, Config.advance, Function.update_self, Monitor.stateAfter_append]
    rfl
  · simp only [alertPhase, Config.advance, Function.update_of_ne same]

theorem AlertsMatch.still (matching : AlertsMatch policy window calls c storage)
    (kept : (alertMonitor policy window (calls i)).next (alertPhase policy window calls c i)
      ⟨effect, answer⟩ = alertPhase policy window calls c i)
    (usage : shared.usage = c.shared.usage)
    (alerts : alertsOf policy window shared.ledger = alertsOf policy window c.shared.ledger) :
    AlertsMatch policy window calls (c.advance i ⟨effect, answer⟩ rest shared) storage := by
  obtain ⟨rows, late, charges, stored, inFlight, counted⟩ := matching
  refine ⟨rows, late, charges, usage.trans stored, ?_, ?_⟩
  · rw [alertPhase_advance, kept, Function.update_eq_self]
    exact inFlight
  · rw [← counted, ← alerts]
    rfl

variable (governed : AlertGoverned resolves policy window calls storage)

include governed in
theorem AlertsMatch.compare (matching : AlertsMatch policy window calls c storage)
    (idle : NonePending policy window calls c) {spent : ℚ × Int}
    (waiting : alertPhase policy window calls c i = .waiting)
    (read : c.shared.Answers resolves
      (.gateway (.usageForPolicy policy (calls i).context window.1 window.2)) (.ok spent) shared) :
    AlertsMatch policy window calls (c.advance i
      ⟨.usageForPolicy policy (calls i).context window.1 window.2, .ok spent⟩ rest shared)
      storage := by
  obtain ⟨rows, late, charges, stored, inFlight, counted⟩ := matching
  obtain ⟨rfl, rfl⟩ := inFlight.of_idle idle
  obtain ⟨⟨costCenterId, resolved, spent_eq⟩, rfl⟩ := read
  rw [usageForPolicy_of_matches (governed.tenant i) (governed.matched i _ resolved), stored,
    spentIn_append_rows] at spent_eq
  refine ⟨rows, if Crosses policy spent (calls i).response.usage.charge then 1 else 0,
    [(calls i).response.usage.charge], stored, ?_, ?_⟩
  · rw [alertPhase_advance, waiting]
    simp only [alertMonitor, if_true]
    exact .compare idle (Crosses policy spent (calls i).response.usage.charge)
  · rw [crossings_append, ← spent_eq, ← add_assoc]
    rw [List.append_nil] at counted
    rw [← counted]
    rfl

theorem AlertsMatch.alert (matching : AlertsMatch policy window calls c storage)
    (due : alertPhase policy window calls c i = .due) {entry : LedgerEntry}
    (alert : isAlertOf policy window entry = true) :
    AlertsMatch policy window calls (c.advance i ⟨.storeLedger entry, .ok ()⟩ rest
      { c.shared with ledger := c.shared.ledger ++ [entry] }) storage := by
  obtain ⟨rows, late, charges, stored, inFlight, counted⟩ := matching
  obtain ⟨rfl, rfl, idle⟩ := inFlight.of_pending (i := i) (by rw [due]; rfl)
  rw [if_pos due] at counted
  refine ⟨rows, 0, [(calls i).response.usage.charge], stored, ?_, ?_⟩
  · rw [alertPhase_advance, due]
    simp only [alertMonitor, alert, if_true]
    exact .alert idle
  · rw [← counted]
    simp [Config.advance, alertsOf, alert]

include governed in
theorem AlertsMatch.record (matching : AlertsMatch policy window calls c storage)
    (clear : alertPhase policy window calls c i = .clear) {record : UsageRecord}
    (success : record.status = .success) (usage : record.usage = (calls i).response.usage)
    {costCenterId : Option UUID} (resolved : resolves (calls i).context costCenterId)
    {createdAt : DateTime}
    (inside : inWindow window (usageRow record (calls i).context costCenterId createdAt) = true) :
    AlertsMatch policy window calls (c.advance i ⟨.recordUsage record (calls i).context, .ok ()⟩ rest
      { c.shared with
        usage := c.shared.usage ++ [usageRow record (calls i).context costCenterId createdAt] })
      storage := by
  obtain ⟨rows, late, charges, stored, inFlight, counted⟩ := matching
  obtain ⟨rfl, rfl, idle⟩ := inFlight.of_pending (i := i) (by rw [clear]; rfl)
  rw [clear, if_neg (by decide)] at counted
  refine ⟨rows ++ [usageRow record (calls i).context costCenterId createdAt], 0, [], ?_, ?_, ?_⟩
  · rw [← List.append_assoc, ← stored]
    rfl
  · rw [alertPhase_advance, clear]
    exact .record idle
  · have charges : chargesIn policy window
        (rows ++ [usageRow record (calls i).context costCenterId createdAt]) =
          chargesIn policy window rows ++ [(calls i).response.usage.charge] := by
      have counts : countsFor policy window
          (usageRow record (calls i).context costCenterId createdAt) = true := by
        rw [countsFor, inside, inScope_usageRow (governed.matched i costCenterId resolved)]
        simp [usageRow, governed.tenant i, success]
      rw [chargesIn_append_counted counts, usageRow, usage]
    rw [charges, List.append_nil, ← counted]
    rfl

include governed in
theorem AlertsMatch.step {e : Effect} {r : Answer e}
    (matching : AlertsMatch policy window calls c storage)
    (asked : alertAllowed policy window (calls i) (alertPhase policy window calls c i) e)
    (works : Truthful policy window ⟨e, r⟩)
    (alone : ComparesAlone policy window calls ⟨c, i, ⟨e, r⟩⟩)
    (answered : (windowEnvironment resolves policy window).answers c.shared e r shared) :
    AlertsMatch policy window calls (c.advance i ⟨e, r⟩ rest shared) storage := by
  obtain ⟨answered, inside⟩ := answered
  cases e with
  | usageForPolicy found context start stop =>
    obtain ⟨spent, rfl⟩ := works
    by_cases own : found = policy
    · subst own
      obtain ⟨waiting, rfl, rfl⟩ := asked rfl
      exact matching.compare governed (alone (beq_self_eq_true found)) waiting answered
    · refine matching.still ?_ (by rw [answered.2]) (by rw [answered.2])
      cases alertPhase policy window calls c i <;> simp [alertMonitor, own]
  | storeLedger entry =>
    cases works
    obtain rfl := answered
    cases alert : isAlertOf policy window entry with
    | true => exact matching.alert (asked.mp alert) alert
    | false =>
      refine matching.still ?_ rfl (by simp [alertsOf, alert])
      cases alertPhase policy window calls c i <;> simp [alertMonitor, alert]
  | recordUsage record context =>
    cases works
    obtain ⟨clear, success, usage, rfl⟩ := asked
    obtain ⟨costCenterId, createdAt, resolved, _, rfl⟩ := answered
    obtain ⟨rows, added, inside⟩ := inside
    rw [← List.append_cancel_left added] at inside
    exact matching.record governed clear success usage resolved (inside _ List.mem_cons_self)
  | utcNow =>
    obtain rfl := answered.2
    exact matching.still (by cases alertPhase policy window calls c i <;> rfl) rfl rfl
  | resolveCostCenter | policyById =>
    cases r with
    | error f =>
      obtain rfl := answered
      exact matching.still (by cases alertPhase policy window calls c i <;> rfl) rfl rfl
    | ok found =>
      obtain rfl := answered.2
      exact matching.still (by cases alertPhase policy window calls c i <;> rfl) rfl rfl
  | _ =>
    obtain rfl := answered
    exact matching.still (by cases alertPhase policy window calls c i <;> rfl) rfl rfl

theorem truthful_of_answered {s : BudgetStorage} {e : CallEvent}
    (stored : s.policies.find? (fun found => found.id == policy.id) = some policy)
    (current : periodWindowAt policy s.now = window)
    (answered : s.Answers resolves (.gateway e.1) e.2 shared) (works : fails e = false) :
    Truthful policy window e := by
  obtain ⟨effect, answer⟩ := e
  cases effect with
  | storeLedger | recordUsage =>
    cases answer with
    | error f => cases works
    | ok u => rfl
  | usageForPolicy =>
    cases answer with
    | error f => cases works
    | ok spent => exact ⟨spent, rfl⟩
  | policyById budgetId =>
    cases answer with
    | error f => cases works
    | ok found =>
      refine ⟨found, rfl, ?_, ?_⟩
      · intro own
        rw [answered.1, own, stored]
      · intro apart same
        rw [answered.1] at same
        have matched := List.find?_some same
        exact apart (beq_iff_eq.mp matched).symm
  | utcNow =>
    have now : answer = s.now := answered.1
    subst now
    exact current
  | _ => trivial

variable {steps : List (AlertTaken ι)}

include governed in
theorem AlertGoverned.truthful (run : Interleaved (windowEnvironment resolves policy window)
      (.start (fun i => (calls i).program) storage) steps c)
    (works : ∀ step ∈ steps, fails step.event = false) :
    ∀ step ∈ steps, Truthful policy window step.event := by
  intro step mem
  let I : BudgetStorage → Prop := fun s =>
    s.policies = storage.policies ∧ periodWindowAt policy s.now = window
  have taken := run.taken I ⟨rfl, governed.current⟩ ?_ ?_
  · obtain ⟨⟨policies, current⟩, s', answered, _⟩ := taken.2 step mem
    have stored := governed.stored
    rw [← policies] at stored
    exact truthful_of_answered stored current answered (works step mem)
  · intro s e r s' answered kept
    obtain rfl | ⟨entry, rfl⟩ | ⟨record, context, costCenterId, createdAt, _, _, rfl⟩ :=
      answered.1.change
    · exact kept
    · exact kept
    · exact kept
  · intro s s' moved kept
    obtain ⟨later, _, current, rfl⟩ := moved
    exact ⟨kept.1, current⟩

include governed in
theorem AlertGoverned.alertsMatch (soft : policy.hardLimit = false)
    (run : Interleaved (windowEnvironment resolves policy window)
      (.start (fun i => (calls i).program) storage) steps c)
    (works : ∀ step ∈ steps, fails step.event = false)
    (alone : ∀ step ∈ steps, ComparesAlone policy window calls step) :
    AlertsMatch policy window calls c storage := by
  induction run with
  | start => exact ⟨[], 0, [], (List.append_nil _).symm, .none fun _ => rfl, rfl⟩
  | call run asks answered ih =>
    obtain ⟨worked, works⟩ := List.forall_mem_append.mp works
    obtain ⟨earlier, alone⟩ := List.forall_mem_append.mp alone
    have asked := run.allowed_of_asks (governed.truthful run worked)
      (fun i => ClosingCall.follows governed soft i) asks
    have truthful := governed.truthful (run.call asks answered)
      (List.forall_mem_append.mpr ⟨worked, works⟩)
    exact (ih worked earlier).step governed asked
      (truthful _ (List.mem_append_right _ List.mem_cons_self)) (alone _ List.mem_cons_self)
      answered
  | drift run moved ih =>
    obtain ⟨later, _, _, rfl⟩ := moved
    exact ih works alone

/-- In every run of calls that a soft policy governs, whose steps do not fail
and whose comparisons of the policy find no other call between its comparison
and its row: when no call is there, one alert is written for every call that
takes the spending over a threshold. From below the thresholds that is one alert
at least where one of them is reached, and one at most for each. -/
theorem soft_budget_alerts_at_crossings
    (governed : AlertGoverned resolves policy window calls storage)
    (soft : policy.hardLimit = false)
    (run : Interleaved (windowEnvironment resolves policy window)
      (.start (fun i => (calls i).program) storage) steps c)
    (works : ∀ step ∈ steps, fails step.event = false)
    (alone : ∀ step ∈ steps, ComparesAlone policy window calls step)
    (idle : NonePending policy window calls c) :
    ∃ rows, c.shared.usage = storage.usage ++ rows ∧
      alertsOf policy window c.shared.ledger = alertsOf policy window storage.ledger +
        crossings policy (spentIn storage.usage policy window) (chargesIn policy window rows) ∧
      (reached policy (spentIn storage.usage policy window) = 0 →
        alertsOf policy window c.shared.ledger ≤ alertsOf policy window storage.ledger +
            reached policy (spentIn c.shared.usage policy window) ∧
          (0 < reached policy (spentIn c.shared.usage policy window) →
            alertsOf policy window storage.ledger <
              alertsOf policy window c.shared.ledger)) := by
  obtain ⟨rows, late, charges, stored, inFlight, counted⟩ :=
    governed.alertsMatch soft run works alone
  obtain ⟨rfl, rfl⟩ := inFlight.of_idle idle
  rw [add_zero, List.append_nil] at counted
  refine ⟨rows, stored, counted, ?_⟩
  intro below
  obtain ⟨most, least⟩ := @crossings_bounds policy
    (spentIn storage.usage policy window) (chargesIn policy window rows) (chargeOf_nonneg _)
    chargesIn_nonneg
  rw [stored, spentIn_append_rows]
  omega

end

section

open LLMGateway

def june : DateTime × DateTime := (⟨2025, 6, 1, 0⟩, ⟨2025, 7, 1, 0⟩)

variable (hardLimit : Bool)

def tenantAlertBudget : LLMBudget :=
  { id := 7, tenantId := tenantContext.tenantId, scopeType := .tenant, tokenLimit := some 100
    hardLimit := hardLimit }

def alertStorage : BudgetStorage :=
  { now := june.1, policies := [tenantAlertBudget hardLimit] }

def closingCalls (tokens : Nat) : Fin 2 → ClosingCall := fun _ =>
  { guard := {}
    reservation := heldReservation
    context := tenantContext
    route := ModelPolicyEngine.mimoRoute
    response := { helloResponse with usage := { totalTokens := tokens } } }

def closingTurns (tokens : Nat) (turns : List (Fin 2)) :
    List (AlertTaken (Fin 2)) × AlertConfig (Fin 2) :=
  Process.takeTurns (fun s effect => s.serve quiet (.gateway effect)) turns
    (.start (fun i => (closingCalls tokens i).program) (alertStorage hardLimit))

theorem closingTurns_run (tokens : Nat) (turns : List (Fin 2)) :
    Interleaved (windowEnvironment (fun _ costCenterId => costCenterId = none)
        (tenantAlertBudget hardLimit) june)
      (.start (fun i => (closingCalls tokens i).program) (alertStorage hardLimit))
      (closingTurns hardLimit tokens turns).1 (closingTurns hardLimit tokens turns).2 := by
  refine Process.takeTurns_run_within (I := fun s => s.now = june.1) ?_ .start rfl turns
  intro s effect now
  refine ⟨⟨s.serve_answers quiet (.gateway effect), ?_⟩, ?_⟩
  · cases effect with
    | recordUsage record context =>
      refine ⟨_, rfl, List.forall_mem_singleton.mpr ?_⟩
      rw [inWindow, usageRow, now]
      rfl
    | _ => exact ⟨[], (List.append_nil _).symm, by simp⟩
  · cases effect <;> exact now

theorem closingCalls_governed (tokens : Nat) :
    AlertGoverned (fun _ costCenterId => costCenterId = none) (tenantAlertBudget hardLimit) june
      (closingCalls tokens) (alertStorage hardLimit) where
  stored := by cases hardLimit <;> decide
  current := by cases hardLimit <;> decide
  session _ := rfl
  approved _ := rfl
  once _ := List.nodup_singleton _
  named _ := List.mem_singleton.mpr rfl
  tenant _ := rfl
  matched _ _ _ := rfl

def CloseAbove (tokens alerts : Nat) : Prop :=
  ∃ steps c, Interleaved (windowEnvironment (fun _ costCenterId => costCenterId = none)
        (tenantAlertBudget hardLimit) june)
      (.start (fun i => (closingCalls tokens i).program) (alertStorage hardLimit)) steps c ∧
    AlertGoverned (fun _ costCenterId => costCenterId = none) (tenantAlertBudget hardLimit) june
      (closingCalls tokens) (alertStorage hardLimit) ∧
    (∀ step ∈ steps, fails step.event = false) ∧ c.shared.usage.length = 2 ∧
    reached (tenantAlertBudget hardLimit)
      (spentIn (alertStorage hardLimit).usage (tenantAlertBudget hardLimit) june) = 0 ∧
    0 < reached (tenantAlertBudget hardLimit)
      (spentIn c.shared.usage (tenantAlertBudget hardLimit) june) ∧
    alertsOf (tenantAlertBudget hardLimit) june c.shared.ledger = alerts

theorem threshold_event_is_missed_or_doubled :
    CloseAbove true 50 0 ∧ CloseAbove false 50 0 ∧ CloseAbove false 90 2 :=
  ⟨⟨_, _, closingTurns_run true 50 (List.replicate 6 0 ++ List.replicate 6 1),
      closingCalls_governed _ _, by decide +kernel⟩,
    ⟨_, _, closingTurns_run false 50 (List.replicate 6 [0, 1]).flatten,
      closingCalls_governed _ _, by decide +kernel⟩,
    ⟨_, _, closingTurns_run false 90 (List.replicate 6 [0, 1]).flatten,
      closingCalls_governed _ _, by decide +kernel⟩⟩

theorem second_call_alerts :
    alertsOf (tenantAlertBudget false) june
      (closingTurns false 50 (List.replicate 6 0 ++ List.replicate 6 1)).2.shared.ledger = 1 := by
  obtain ⟨rows, _, _, bounds⟩ := soft_budget_alerts_at_crossings (closingCalls_governed false 50)
    rfl (closingTurns_run false 50 (List.replicate 6 0 ++ List.replicate 6 1))
    (by decide +kernel) (by decide +kernel) (by decide +kernel)
  obtain ⟨most, least⟩ := bounds (by decide +kernel)
  have reaches : reached (tenantAlertBudget false)
      (spentIn (closingTurns false 50 (List.replicate 6 0 ++ List.replicate 6 1)).2.shared.usage
        (tenantAlertBudget false) june) = 1 := by decide +kernel
  have none : alertsOf (tenantAlertBudget false) june (alertStorage false).ledger = 0 := rfl
  rw [reaches] at most least
  omega

end

end AgentHive
