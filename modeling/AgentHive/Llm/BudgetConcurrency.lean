import AgentHive.Llm.BudgetHolds
import AgentHive.Process.Escrow

/-!
Calls of `chat` side by side on one budget storage.
-/

namespace AgentHive

open Process (Program Config Taken Interleaved Escrow)

def WithinLimits (policy : LLMBudget) (charge : ℚ × Int) : Prop :=
  exceedsLimits policy charge = false

instance (policy : LLMBudget) (charge : ℚ × Int) : Decidable (WithinLimits policy charge) :=
  inferInstanceAs (Decidable (_ = _))

theorem withinLimits_iff {policy : LLMBudget} {charge : ℚ × Int} :
    WithinLimits policy charge ↔
      (0 < policy.amountUsd → charge.1 ≤ policy.amountUsd) ∧
        ∀ limit, policy.tokenLimit = some limit → charge.2 ≤ limit := by
  cases limit : policy.tokenLimit <;>
    simp [WithinLimits, exceedsLimits, exceedsAmount, exceedsTokens, limit]

theorem WithinLimits.of_le {policy : LLMBudget} {less charge : ℚ × Int} (le : less ≤ charge)
    (within : WithinLimits policy charge) : WithinLimits policy less := by
  rw [withinLimits_iff] at within ⊢
  exact ⟨fun limited => le.1.trans (within.1 limited),
    fun limit some_ => le.2.trans (within.2 limit some_)⟩

abbrev BudgetConfig (ι : Type) :=
  Config ι BudgetEffect BudgetAnswer (Except Exc LLMResponse) BudgetStorage

abbrev BudgetTaken (ι : Type) :=
  Taken ι BudgetEffect BudgetAnswer (Except Exc LLMResponse) BudgetStorage

def Hold.amount : Hold → ℚ × Int
  | .held estimate => estimate.charge
  | _ => 0

theorem Hold.amount_nonneg (s : Hold) : 0 ≤ s.amount := by
  cases s with
  | held estimate => exact estimate.charge_nonneg
  | idle | asking => exact le_refl 0

section

variable {ι : Type} (policy : LLMBudget) (c : BudgetConfig ι)

def holdOf (i : ι) : Hold :=
  match c.threads i with
  | .ret _ => .idle
  | .call _ _ => (holdMonitor policy).stateAfter .idle (c.history i)

def accountOf : Escrow ι (ℚ × Int) where
  spent := c.shared.spent policy
  held i := (holdOf policy c i).amount
  held_nonneg i := (holdOf policy c i).amount_nonneg

end

section

variable {ι : Type} [Fintype ι]

/-- A check of the policy that passes finds its window current and nothing held
by the calls in flight, or it finds room for its estimate beside all of them. -/
def hasRoom (policy : LLMBudget) (step : BudgetTaken ι) : Bool :=
  match step.event, holdOf policy step.before step.thread with
  | ⟨.gateway (.usageForPolicy found asked start stop), .ok spent⟩, .asking estimate context =>
    !(found == policy && asked == context &&
        !exceedsLimits policy (spent + estimate.charge)) ||
      ((start, stop) == periodWindowAt policy step.before.shared.now &&
        decide (∀ j, (holdOf policy step.before j).amount = 0)) ||
      !exceedsLimits policy ((accountOf policy step.before).total + estimate.charge)
  | _, _ => true

omit [Fintype ι] in
def withinEstimate (policy : LLMBudget) (step : BudgetTaken ι) : Bool :=
  match step.event, holdOf policy step.before step.thread with
  | ⟨.gateway (.recordUsage record _), .ok ()⟩, .held estimate =>
    record.status != .success || decide (record.usage.costUsd ≤ estimate.costUsd ∧
      record.usage.totalTokens ≤ estimate.totalTokens)
  | _, _ => true

end

section

variable {ι : Type} {policy : LLMBudget} {c : BudgetConfig ι} {i : ι} {effect : BudgetEffect}
  {rest : BudgetAnswer effect → Program BudgetEffect BudgetAnswer (Except Exc LLMResponse)}

theorem holdOf_of_asks (asks : c.threads i = .call effect rest) :
    holdOf policy c i = (holdMonitor policy).stateAfter .idle (c.history i) := by
  simp [holdOf, asks]

variable {estimate : LLMUsageMetrics} {context : LLMRequestContext}

theorem room_of_check [Fintype ι] {start stop : DateTime} {spent : ℚ × Int}
    (asking : holdOf policy c i = .asking estimate context)
    (within : WithinLimits policy (spent + estimate.charge)) (room : hasRoom policy
      ⟨c, i, ⟨.gateway (.usageForPolicy policy context start stop), .ok spent⟩⟩ = true) :
    ((start, stop) = periodWindowAt policy c.shared.now ∧
        ∀ j, (holdOf policy c j).amount = 0) ∨
      WithinLimits policy ((accountOf policy c).total + estimate.charge) := by
  have passed : exceedsLimits policy (spent + estimate.charge) = false := within
  simpa [hasRoom, asking, passed, WithinLimits] using room

variable [DecidableEq ι] {answer : BudgetAnswer effect}
  {next : Program BudgetEffect BudgetAnswer (Except Exc LLMResponse)} {shared : BudgetStorage}

theorem holdOf_advance_of_ne {j : ι} (other : j ≠ i) :
    holdOf policy (c.advance i ⟨effect, answer⟩ next shared) j = holdOf policy c j := by
  simp [holdOf, Config.advance, other]

theorem holdOf_advance (policy : LLMBudget) (asks : c.threads i = .call effect rest) :
    holdOf policy (c.advance i ⟨effect, answer⟩ next shared) i = .idle ∨
      holdOf policy (c.advance i ⟨effect, answer⟩ next shared) i =
        (holdMonitor policy).next (holdOf policy c i) ⟨effect, answer⟩ := by
  rw [holdOf_of_asks asks]
  cases next with
  | ret r => exact .inl (by simp [holdOf, Config.advance])
  | call effect' rest' =>
    right
    simp only [holdOf, Config.advance, Function.update_self]
    rw [Process.Monitor.stateAfter_append]
    rfl

theorem held_advance :
    (accountOf policy (c.advance i ⟨effect, answer⟩ next shared)).held =
      Function.update (accountOf policy c).held i
        (holdOf policy (c.advance i ⟨effect, answer⟩ next shared) i).amount := by
  funext j
  by_cases same : j = i
  · subst same
    simp [accountOf]
  · simp only [accountOf, Function.update_of_ne same, holdOf_advance_of_ne same]

theorem amount_next {s : Hold} (e : BudgetEvent)
    (unchecked : ∀ estimate context, s = .asking estimate context →
      (holdMonitor policy).next s e ≠ .held estimate) :
    ((holdMonitor policy).next s e).amount = s.amount ∨
      ((holdMonitor policy).next s e).amount = 0 := by
  obtain ⟨effect, answer⟩ := e
  cases effect with
  | enterReserve => exact .inr rfl
  | selectPolicies | newReservationId => exact .inl rfl
  | gateway effect =>
    cases effect with
    | usageForPolicy found context start stop =>
      cases answer with
      | error f => exact .inl rfl
      | ok spent =>
        cases s with
        | idle | held => exact .inl rfl
        | asking estimate context =>
          have kept := unchecked estimate context rfl
          simp only [holdMonitor, Hold.read] at kept ⊢
          split at kept
          · exact absurd rfl kept
          · rename_i failed
            rw [if_neg failed]
            exact .inl rfl
    | recordUsage record =>
      cases answer with
      | error f => exact .inl rfl
      | ok u =>
        cases s with
        | idle | asking => exact .inl rfl
        | held estimate =>
          simp only [holdMonitor, Hold.record]
          split
          · exact .inr rfl
          · exact .inl rfl
    | _ => exact .inl rfl

theorem spent_of_read {resolves : LLMRequestContext → Option UUID → Prop} {s s' : BudgetStorage}
    {start stop : DateTime} {spent : ℚ × Int} (tenant : policy.tenantId = context.tenantId)
    (matched : ∀ costCenterId, resolves context costCenterId →
      policyMatchesContext policy context costCenterId = true)
    (read : s.Answers resolves (.gateway (.usageForPolicy policy context start stop)) (.ok spent) s')
    (current : (start, stop) = periodWindowAt policy s.now) : spent = s.spent policy := by
  obtain ⟨⟨costCenterId, resolved, rfl⟩, _⟩ := read
  rw [usageForPolicy_of_matches tenant (matched _ resolved), current]
  rfl

theorem read_of_held {e : BudgetEvent}
    (held : (holdMonitor policy).next (.asking estimate context) e = .held estimate) :
    ∃ start stop spent,
      e = ⟨.gateway (.usageForPolicy policy context start stop), .ok spent⟩ ∧
        WithinLimits policy (spent + estimate.charge) := by
  obtain ⟨effect, answer⟩ := e
  cases effect with
  | enterReserve | selectPolicies | newReservationId => cases held
  | gateway effect =>
    cases effect with
    | usageForPolicy found asked start stop =>
      cases answer with
      | error f => cases held
      | ok spent =>
        simp only [holdMonitor, Hold.read] at held
        split at held
        · rename_i passed
          obtain ⟨rfl, rfl, within⟩ := passed
          exact ⟨start, stop, spent, rfl, within⟩
        · cases held
    | recordUsage => cases answer <;> cases held
    | _ => cases held

variable [Fintype ι] {resolves : LLMRequestContext → Option UUID → Prop}
  {context : LLMRequestContext}

theorem step_of_unchecked (asks : c.threads i = .call effect rest)
    (answered : c.shared.Answers resolves effect answer shared)
    (stored : storedWhileHeld context (holdOf policy c i) ⟨effect, answer⟩ = true)
    (cheap : withinEstimate policy ⟨c, i, ⟨effect, answer⟩⟩ = true)
    (unchecked : ∀ estimate context, holdOf policy c i = .asking estimate context →
      (holdMonitor policy).next (holdOf policy c i) ⟨effect, answer⟩ ≠ .held estimate) :
    Escrow.Step (WithinLimits policy) (accountOf policy c)
      (accountOf policy (c.advance i ⟨effect, answer⟩ next shared)) := by
  obtain less | ⟨record, asked, event, success, more⟩ := answered.spent_le policy
  · have amount : (holdOf policy (c.advance i ⟨effect, answer⟩ next shared) i).amount =
          (holdOf policy c i).amount ∨
        (holdOf policy (c.advance i ⟨effect, answer⟩ next shared) i).amount = 0 := by
      obtain ended | holds := holdOf_advance policy asks
      · exact .inr (by rw [ended]; rfl)
      · rw [holds]
        exact amount_next _ unchecked
    obtain kept | dropped := amount
    · refine .roll less ?_
      rw [held_advance, kept]
      exact Function.update_eq_self i _
    · refine .settle i (less.trans (le_add_of_nonneg_right ((accountOf policy c).held_nonneg i))) ?_
      rw [held_advance, dropped]
  · cases event
    cases hold : holdOf policy c i with
    | idle | asking => simp [storedWhileHeld, storesSuccess, hold, Hold.isHeld, success] at stored
    | held estimate =>
      have dropped : holdOf policy (c.advance i
          ⟨.gateway (.recordUsage record asked), .ok ()⟩ next shared) i = .idle := by
        obtain ended | holds := holdOf_advance policy asks
        · exact ended
        · rw [holds, hold]
          simp [holdMonitor, Hold.record, success]
      simp only [withinEstimate, hold, success, bne_self_eq_false, Bool.false_or,
        decide_eq_true_eq] at cheap
      refine .settle i (more.trans ?_) ?_
      · have charge : record.usage.charge ≤ estimate.charge :=
          ⟨cheap.1, Int.ofNat_le.mpr cheap.2⟩
        simp only [accountOf, hold, Hold.amount]
        gcongr
      · rw [held_advance, dropped]
        rfl

theorem step_of_call (tenant : policy.tenantId = context.tenantId)
    (matched : ∀ costCenterId, resolves context costCenterId →
      policyMatchesContext policy context costCenterId = true)
    (asks : c.threads i = .call effect rest)
    (answered : c.shared.Answers resolves effect answer shared)
    (stored : (holdMonitor policy).Always (storedWhileHeld context) .idle
      (c.history i ++ [⟨effect, answer⟩]))
    (room : hasRoom policy ⟨c, i, ⟨effect, answer⟩⟩ = true)
    (cheap : withinEstimate policy ⟨c, i, ⟨effect, answer⟩⟩ = true) :
    Escrow.Step (WithinLimits policy) (accountOf policy c)
      (accountOf policy (c.advance i ⟨effect, answer⟩ next shared)) := by
  obtain ⟨before, last, _⟩ := (Process.Monitor.always_append _ _ _).mp stored
  rw [← holdOf_of_asks asks] at last
  by_cases checks : ∃ estimate asked, holdOf policy c i = .asking estimate asked ∧
      (holdMonitor policy).next (holdOf policy c i) ⟨effect, answer⟩ = .held estimate
  · obtain ⟨estimate, asked, asking, passed⟩ := checks
    have own : asked = context := asking_own before (by rw [← holdOf_of_asks asks, asking])
    subst own
    rw [asking] at passed
    obtain ⟨start, stop, spent, event, within⟩ := read_of_held passed
    cases event
    have same : shared = c.shared := answered.2
    obtain ended | holds := holdOf_advance policy asks
    · refine .settle i ?_ (by rw [held_advance, ended]; rfl)
      rw [same]
      exact le_add_of_nonneg_right ((accountOf policy c).held_nonneg i)
    · refine .hold i estimate.charge (by simp [accountOf, asking, Hold.amount]) ?_
        (by rw [same]; rfl) (by rw [held_advance, holds, asking, passed]; rfl)
      obtain ⟨current, free⟩ | beside := room_of_check asking within room
      · have spent_eq := spent_of_read tenant matched answered current
        have total : (accountOf policy c).total = spent := by
          simp [Escrow.total, accountOf, free, spent_eq]
        rwa [total]
      · exact beside
  · exact step_of_unchecked asks answered last cheap fun estimate asked asking passed =>
      checks ⟨estimate, asked, asking, passed⟩

end

/-- An active hard policy of the storage, and calls whose contexts it matches. -/
structure Governed {ι : Type} (resolves : LLMRequestContext → Option UUID → Prop)
    (policy : LLMBudget) (calls : ι → ChatCall) (storage : BudgetStorage) : Prop where
  stored : policy ∈ storage.policies
  active : policy.isActive = true
  hard : policy.hardLimit = true
  session : ∀ i, (calls i).gateway.budget.hasSession = true
  tenant : ∀ i, policy.tenantId = (calls i).context.tenantId
  matched : ∀ i costCenterId, resolves (calls i).context costCenterId →
    policyMatchesContext policy (calls i).context costCenterId = true
  past : ∀ row ∈ storage.usage, row.createdAt ≤ storage.now

section

variable {ι : Type} [DecidableEq ι] {resolves : LLMRequestContext → Option UUID → Prop}
  {policy : LLMBudget} {calls : ι → ChatCall} {storage : BudgetStorage} {text : ℚ → String}
  {steps : List (BudgetTaken ι)} {c : BudgetConfig ι}

theorem Governed.keeps (governed : Governed resolves policy calls storage)
    (run : Interleaved (budgetEnvironment resolves)
      (.start (fun i => (calls i).program text) storage) steps c) :
    c.shared.Keeps storage.policies := by
  refine Interleaved.induct (fun c => c.shared.Keeps storage.policies) (fun _ => True) run
    (by simp) ⟨rfl, governed.past⟩ ?_ ?_
  · intro _ _ _ _ _ _ _ _ _ answered _ kept
    exact BudgetStorage.Answers.keeps answered kept
  · intro _ _ _ _ moved kept
    obtain ⟨later, passed, rfl⟩ := moved
    exact kept.drift passed

theorem Governed.answerable (governed : Governed resolves policy calls storage)
    (run : Interleaved (budgetEnvironment resolves)
      (.start (fun i => (calls i).program text) storage) steps c) (i : ι) :
    ∀ e ∈ c.history i, Answerable policy (calls i).context e := by
  intro e mem
  obtain ⟨before, _, after, earlier, answered⟩ := run.answered_of_mem mem
  have kept := governed.keeps earlier
  obtain ⟨effect, answer⟩ := e
  cases effect with
  | enterReserve | newReservationId => trivial
  | selectPolicies tenantId =>
    cases answer with
    | error f => trivial
    | ok found =>
      intro same
      refine (answered.1 policy).mpr ⟨?_, ?_, governed.active⟩
      · rw [kept.policies_eq]
        exact governed.stored
      · rw [same, governed.tenant i]
  | gateway effect =>
    cases effect with
    | resolveCostCenter asked =>
      cases answer with
      | error f => trivial
      | ok costCenterId =>
        intro same
        subst same
        exact governed.matched i costCenterId answered.1
    | _ => trivial

/-- In every run of calls that a hard policy governs, what its window has spent
stays within its limits, as long as every check that passes has room and every
success costs what its call holds. -/
theorem hard_budget_never_overspent [Fintype ι] (governed : Governed resolves policy calls storage)
    (within : WithinLimits policy (storage.spent policy))
    (run : Interleaved (budgetEnvironment resolves)
      (.start (fun i => (calls i).program text) storage) steps c)
    (cheap : ∀ step ∈ steps, withinEstimate policy step = true)
    (room : ∀ step ∈ steps, hasRoom policy step = true) :
    WithinLimits policy (c.shared.spent policy) := by
  suffices total : WithinLimits policy (accountOf policy c).total from
    total.of_le (accountOf policy c).spent_le_total
  refine Interleaved.induct (fun c => WithinLimits policy (accountOf policy c).total)
    (fun step => withinEstimate policy step = true ∧ hasRoom policy step = true) run
    (fun step mem => ⟨cheap step mem, room step mem⟩) ?_ ?_ ?_
  · have free : ∀ i, (holdOf policy (.start (fun i => (calls i).program text) storage) i).amount =
        0 := by
      intro i
      unfold holdOf
      split <;> rfl
    have total : (accountOf policy (.start (fun i => (calls i).program text) storage)).total =
        storage.spent policy := by
      simp only [Escrow.total, accountOf, free, Finset.sum_const_zero, add_zero]
      rfl
    rwa [total]
  · intro _ c i effect rest answer shared earlier asks answered met total
    have later := earlier.call asks answered
    have stored := (calls i).stored_while_held (governed.session i) governed.hard
      (later.reaches i) (governed.answerable later i)
    simp only [Config.advance, Function.update_self] at stored
    exact (step_of_call (governed.tenant i) (governed.matched i) asks answered stored met.2
      met.1).total_within WithinLimits.of_le total
  · intro _ c _ earlier moved total
    obtain ⟨later, passed, rfl⟩ := moved
    have rolled : Escrow.Step (WithinLimits policy) (accountOf policy c) (accountOf policy
        { c with shared := { c.shared with now := later } }) :=
      .roll ((governed.keeps earlier).spent_drift policy passed) rfl
    exact rolled.total_within WithinLimits.of_le total

end

section

open LLMGateway

def tenantTokenBudget : LLMBudget :=
  { id := 7, tenantId := tenantContext.tenantId, scopeType := .tenant, tokenLimit := some 600 }

def unspentStorage : BudgetStorage := { now := ⟨2025, 6, 1, 0⟩, policies := [tenantTokenBudget] }

def answersAtLength : (effect : Effect) → Answer effect
  | .adapterChat _ _ _ =>
    .ok { helloResponse with
      usage := { inputTokens := 1, outputTokens := 500, totalTokens := 501 } }
  | effect => quiet effect

def helloCalls : Fin 2 → ChatCall := fun _ => ⟨defaultGateway, helloRequest, tenantContext⟩

def helloTurns (turns : List (Fin 2)) : List (BudgetTaken (Fin 2)) × BudgetConfig (Fin 2) :=
  Process.takeTurns (BudgetStorage.serve answersAtLength) turns
    (.start (fun i => (helloCalls i).program toString) unspentStorage)

theorem helloTurns_run (turns : List (Fin 2)) :
    Interleaved (budgetEnvironment fun _ costCenterId => costCenterId = none)
      (.start (fun i => (helloCalls i).program toString) unspentStorage) (helloTurns turns).1
      (helloTurns turns).2 :=
  Process.takeTurns_run (BudgetStorage.serve_answers answersAtLength) .start turns

theorem helloCalls_governed :
    Governed (fun _ costCenterId => costCenterId = none) tenantTokenBudget helloCalls
      unspentStorage where
  stored := List.mem_singleton.mpr rfl
  active := rfl
  hard := rfl
  session _ := rfl
  tenant _ := rfl
  matched _ _ _ := rfl
  past _ mem := by cases mem

theorem concurrent_calls_overspend :
    ∃ steps c, Interleaved (budgetEnvironment fun _ costCenterId => costCenterId = none)
        (.start (fun i => (helloCalls i).program toString) unspentStorage) steps c ∧
      Governed (fun _ costCenterId => costCenterId = none) tenantTokenBudget helloCalls
        unspentStorage ∧
      WithinLimits tenantTokenBudget (unspentStorage.spent tenantTokenBudget) ∧
      (∀ step ∈ steps, withinEstimate tenantTokenBudget step = true) ∧
      ¬ WithinLimits tenantTokenBudget (c.shared.spent tenantTokenBudget) :=
  ⟨_, _, helloTurns_run (List.replicate 14 [0, 1]).flatten, helloCalls_governed,
    by decide +kernel⟩

theorem serial_calls_stay_within :
    WithinLimits tenantTokenBudget
      ((helloTurns (List.replicate 14 0 ++ List.replicate 14 1)).2.shared.spent
        tenantTokenBudget) :=
  hard_budget_never_overspent helloCalls_governed (by decide +kernel) (helloTurns_run _)
    (by decide +kernel) (by decide +kernel)

end

end AgentHive
