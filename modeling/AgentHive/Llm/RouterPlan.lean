import AgentHive.Llm.CircuitClock
import AgentHive.Llm.Router
import AgentHive.Store.StableSort

/-!
The plan of the router over the circuits of a breaker: when it finds a route,
and which routes it returns in which order.
-/

namespace AgentHive

namespace ModelRouter

def askCircuits (config : BreakerConfig) (reading : Nat → ℚ) :
    List DeploymentConfig → Circuits → List (DeploymentConfig × Bool) × Circuits
  | [], circuits => ([], circuits)
  | d :: rest, circuits =>
    let answer := CircuitBreaker.isOpen config (reading 0) (toString d.id) circuits
    let others := askCircuits config (fun n => reading (n + 1)) rest answer.2
    ((d, answer.1) :: others.1, others.2)

def planOver (router : ModelRouter) (config : BreakerConfig) (clock : ClockReadings)
    (circuits : Circuits) (request : LLMChatRequest) (decision : PolicyDecision) :
    Except Exc (List RouteSelection) × Circuits :=
  match router.candidates request decision with
  | .error x => (.error x, circuits)
  | .ok found =>
    let asked := askCircuits config clock.reading found circuits
    (router.routesFrom request decision asked.1, asked.2)

def isMatch (request : LLMChatRequest) (decision : PolicyDecision) (d : DeploymentConfig) : Bool :=
  let carries := fun (key : Option String) (field : String) => !truthy key || some field == key
  d.status == .active && carries (pyOr decision.modelKey request.modelKey) d.modelKey &&
    carries decision.routingKey d.routingKey && carries request.routingKey d.routingKey

def matching (router : ModelRouter) (request : LLMChatRequest) (decision : PolicyDecision) :
    List DeploymentConfig :=
  router.deployments.filter (isMatch request decision)

theorem withKey_eq_filter (key : Option String) (field : DeploymentConfig → String)
    (deployments : List DeploymentConfig) :
    withKey key field deployments =
      deployments.filter fun d => !truthy key || some (field d) == key := by
  cases given : truthy key <;> simp [withKey, given]

theorem filters_eq_matching (router : ModelRouter) (request : LLMChatRequest)
    (decision : PolicyDecision) :
    withKey request.routingKey (·.routingKey)
        (withKey decision.routingKey (·.routingKey)
          (withKey (pyOr decision.modelKey request.modelKey) (·.modelKey)
            (router.deployments.filter (·.status == .active)))) =
      router.matching request decision := by
  simp only [withKey_eq_filter, List.filter_filter, matching]
  refine List.filter_congr fun d _ => ?_
  simp only [isMatch]
  cases d.status == .active <;> simp [Bool.and_comm, Bool.and_left_comm]

theorem candidates_eq (router : ModelRouter) (request : LLMChatRequest)
    (decision : PolicyDecision) :
    router.candidates request decision = .ok (router.matching request decision) ∧
        router.matching request decision ≠ [] ∨
      (∃ x, router.candidates request decision = .error x) ∧
        router.matching request decision = [] := by
  rw [← filters_eq_matching]
  simp only [candidates]
  split
  · rename_i none
    simp only [Bool.and_eq_true, List.isEmpty_iff] at none
    refine .inr ⟨⟨_, rfl⟩, ?_⟩
    rw [none.2]
    simp [withKey]
  · split
    · rename_i none
      exact .inr ⟨⟨_, rfl⟩, List.isEmpty_iff.mp none⟩
    · rename_i some
      exact .inl ⟨rfl, fun none => some (List.isEmpty_iff.mpr none)⟩

def routeOrder (router : ModelRouter) (decision : PolicyDecision) (d e : DeploymentConfig) : Prop :=
  match router.isCostAware decision, router.pricing with
  | true, some pricing => costKeyLe pricing d e
  | _, _ => d.priority ≤ e.priority

instance (router : ModelRouter) (decision : PolicyDecision) :
    DecidableRel (router.routeOrder decision) := fun d e => by
  unfold routeOrder
  split <;> infer_instance

instance (pricing : ModelPricingCatalog) : Std.Total (costKeyLe pricing) where
  total d e := by
    unfold costKeyLe
    rcases lt_trichotomy d.priority e.priority with lt | eq | gt
    · exact .inl (.inl lt)
    · rcases le_total ((pricing.pricesFor (some d.modelKey)).1 +
          (pricing.pricesFor (some d.modelKey)).2)
        ((pricing.pricesFor (some e.modelKey)).1 +
          (pricing.pricesFor (some e.modelKey)).2) with le | le
      · exact .inl (.inr ⟨eq, le⟩)
      · exact .inr (.inr ⟨eq.symm, le⟩)
    · exact .inr (.inl gt)

instance (pricing : ModelPricingCatalog) : IsTrans DeploymentConfig (costKeyLe pricing) where
  trans c d e first second := by
    unfold costKeyLe at *
    rcases first with lt | ⟨eq, le⟩
    · rcases second with lt' | ⟨eq', _⟩
      · exact .inl (lt.trans lt')
      · exact .inl (eq' ▸ lt)
    · rcases second with lt' | ⟨eq', le'⟩
      · exact .inl (eq ▸ lt')
      · exact .inr ⟨eq.trans eq', le.trans le'⟩

variable {router : ModelRouter} {decision : PolicyDecision}

theorem routeOrder_cost {pricing : ModelPricingCatalog} (aware : router.isCostAware decision = true)
    (priced : router.pricing = some pricing) : router.routeOrder decision = costKeyLe pricing := by
  funext d e
  simp only [routeOrder, aware, priced]

theorem routeOrder_priority (plain : router.isCostAware decision = false) :
    router.routeOrder decision = fun d e => d.priority ≤ e.priority := by
  funext d e
  simp only [routeOrder, plain]

private theorem insertionSort_congr {r s : DeploymentConfig → DeploymentConfig → Prop}
    [DecidableRel r] [DecidableRel s] (same : r = s) (l : List DeploymentConfig) :
    l.insertionSort r = l.insertionSort s := by
  subst same
  congr

theorem isCostAware_priced (aware : router.isCostAware decision = true) :
    ∃ pricing, router.pricing = some pricing := by
  simp only [isCostAware, Bool.and_eq_true] at aware
  exact Option.isSome_iff_exists.mp aware.1.2

theorem sortCandidates_stably (router : ModelRouter) (decision : PolicyDecision)
    (kept : List DeploymentConfig) :
    SortsStably (router.routeOrder decision) kept
      (router.sortCandidates kept (router.isCostAware decision)) := by
  cases aware : router.isCostAware decision with
  | true =>
    obtain ⟨pricing, priced⟩ := isCostAware_priced aware
    have order := routeOrder_cost aware priced
    have : Std.Total (router.routeOrder decision) := order ▸ inferInstance
    have : IsTrans DeploymentConfig (router.routeOrder decision) := order ▸ inferInstance
    have sorted : router.sortCandidates kept true =
        kept.insertionSort (router.routeOrder decision) := by
      simp only [sortCandidates, priced]
      exact insertionSort_congr order.symm kept
    rw [sorted]
    exact .insertionSort kept
  | false =>
    have order := routeOrder_priority aware
    have : Std.Total (router.routeOrder decision) := by
      rw [order]
      exact ⟨fun d e => le_total d.priority e.priority⟩
    have : IsTrans DeploymentConfig (router.routeOrder decision) := by
      rw [order]
      exact ⟨fun _ _ _ first second => le_trans first second⟩
    have sorted : router.sortCandidates kept false =
        kept.insertionSort (router.routeOrder decision) := by
      simp only [sortCandidates]
      exact insertionSort_congr order.symm kept
    rw [sorted]
    exact .insertionSort kept

def isRegistered (router : ModelRouter) (d : DeploymentConfig) : Bool :=
  (router.provider d.providerKey).isSome

def usable (router : ModelRouter) (asked : List (DeploymentConfig × Bool)) :
    List DeploymentConfig :=
  healthy (asked.filter fun entry => router.isRegistered entry.1)

/-- A result finds routes whenever a deployment is registered, and its routes
are the usable deployments in order, each with its provider. -/
def FindsUsable (router : ModelRouter) (decision : PolicyDecision)
    (asked : List (DeploymentConfig × Bool)) (result : Except Exc (List RouteSelection)) : Prop :=
  ((∃ routes, result = .ok routes) ↔ ∃ entry ∈ asked, router.isRegistered entry.1 = true) ∧
    ∀ routes, result = .ok routes →
      SortsStably (router.routeOrder decision) (router.usable asked)
          (routes.map (·.deployment)) ∧
        ∀ route ∈ routes, router.provider route.deployment.providerKey = some route.provider

/-- Where every registered deployment has an open circuit, every other one has. -/
def OpenTogether (router : ModelRouter) (asked : List (DeploymentConfig × Bool)) : Prop :=
  (∃ entry ∈ asked, router.isRegistered entry.1 = true) →
    (∀ entry ∈ asked, router.isRegistered entry.1 = true → entry.2 = true) →
    ∀ entry ∈ asked, entry.2 = true

instance (router : ModelRouter) (asked : List (DeploymentConfig × Bool)) :
    Decidable (router.OpenTogether asked) :=
  inferInstanceAs (Decidable (_ → _ → _))

theorem routesOver_deployments (router : ModelRouter) (reason : String)
    (sorted : List DeploymentConfig) :
    (router.routesOver reason sorted).map (·.deployment) = sorted.filter router.isRegistered := by
  induction sorted with
  | nil => rfl
  | cons d rest ih =>
    unfold routesOver at ih ⊢
    cases registered : router.provider d.providerKey <;>
      simp [isRegistered, registered, ih]

theorem routesOver_provider (router : ModelRouter) (reason : String)
    (sorted : List DeploymentConfig) :
    ∀ route ∈ router.routesOver reason sorted,
      router.provider route.deployment.providerKey = some route.provider := by
  intro route mem
  rw [routesOver, List.mem_filterMap] at mem
  obtain ⟨d, _, built⟩ := mem
  obtain ⟨p, registered, same⟩ := Option.map_eq_some_iff.mp built
  subst same
  exact registered

theorem filter_map_fst (router : ModelRouter) (asked : List (DeploymentConfig × Bool)) :
    (asked.map (·.1)).filter router.isRegistered =
      (asked.filter fun entry => router.isRegistered entry.1).map (·.1) :=
  List.filter_map

def closedCircuits (asked : List (DeploymentConfig × Bool)) : List DeploymentConfig :=
  (asked.filter fun entry => !entry.2).map (·.1)

theorem healthy_eq (asked : List (DeploymentConfig × Bool)) :
    healthy asked = if closedCircuits asked = [] then asked.map (·.1) else closedCircuits asked := by
  unfold healthy
  by_cases none : closedCircuits asked = []
  · rw [if_pos none]
    exact if_pos (List.isEmpty_iff.mpr none)
  · rw [if_neg none]
    exact if_neg fun empty => none (List.isEmpty_iff.mp empty)

theorem closedCircuits_filter (router : ModelRouter) (asked : List (DeploymentConfig × Bool)) :
    closedCircuits (asked.filter fun entry => router.isRegistered entry.1) =
      (closedCircuits asked).filter router.isRegistered := by
  rw [closedCircuits, closedCircuits, filter_map_fst, List.filter_comm]

theorem closedCircuits_eq_nil {asked : List (DeploymentConfig × Bool)} :
    closedCircuits asked = [] ↔ ∀ entry ∈ asked, entry.2 = true := by
  simp [closedCircuits, List.filter_eq_nil_iff]

theorem healthy_filter (router : ModelRouter) (asked : List (DeploymentConfig × Bool))
    (kept : (healthy asked).filter router.isRegistered ≠ []) :
    (healthy asked).filter router.isRegistered = router.usable asked := by
  rw [usable, healthy_eq (asked.filter _), closedCircuits_filter]
  rw [healthy_eq] at kept ⊢
  by_cases allOpen : closedCircuits asked = []
  · rw [if_pos allOpen, allOpen, List.filter_nil, if_pos rfl, filter_map_fst]
  · rw [if_neg allOpen] at kept ⊢
    rw [if_neg kept]

theorem healthy_filter_ne_nil_iff (router : ModelRouter) (asked : List (DeploymentConfig × Bool)) :
    (healthy asked).filter router.isRegistered ≠ [] ↔
      (∃ entry ∈ asked, router.isRegistered entry.1 = true) ∧ router.OpenTogether asked := by
  rw [healthy_eq]
  by_cases allOpen : closedCircuits asked = []
  · have every := closedCircuits_eq_nil.mp allOpen
    rw [if_pos allOpen, filter_map_fst, Ne, List.map_eq_nil_iff, List.filter_eq_nil_iff]
    push Not
    exact ⟨fun found => ⟨found, fun _ _ => every⟩, fun found => found.1⟩
  · rw [if_neg allOpen, ← closedCircuits_filter, Ne, closedCircuits_eq_nil]
    simp only [List.mem_filter, and_imp, not_forall]
    constructor
    · intro found
      obtain ⟨entry, mem, registered, closed⟩ := found
      refine ⟨⟨entry, mem, registered⟩, fun _ every => ?_⟩
      exact absurd (every entry mem registered) closed
    · intro found
      by_contra every
      push Not at every
      exact allOpen (closedCircuits_eq_nil.mpr (found.2 found.1 every))

theorem routesFrom_finds (router : ModelRouter) (request : LLMChatRequest)
    (decision : PolicyDecision) (asked : List (DeploymentConfig × Bool)) :
    router.FindsUsable decision asked (router.routesFrom request decision asked) ↔
      router.OpenTogether asked := by
  set sorted := router.sortCandidates (healthy asked) (router.isCostAware decision) with sorts
  set routes := router.routesOver (routeReason (router.isCostAware decision)) sorted with isOver
  have deployments : routes.map (·.deployment) = sorted.filter router.isRegistered :=
    routesOver_deployments router _ sorted
  have stably : SortsStably (router.routeOrder decision)
      ((healthy asked).filter router.isRegistered) (routes.map (·.deployment)) :=
    deployments ▸ (router.sortCandidates_stably decision (healthy asked)).filter _
  have nonempty : routes ≠ [] ↔ (healthy asked).filter router.isRegistered ≠ [] := by
    rw [Ne, ← List.map_eq_nil_iff (f := (·.deployment)), Ne, not_iff_not]
    exact ⟨fun none => (none ▸ stably.perm).nil_eq.symm, fun none => (none ▸ stably.perm).eq_nil⟩
  have returns : (∃ found, router.routesFrom request decision asked = .ok found) ↔ routes ≠ [] := by
    simp only [routesFrom_ok, ← sorts, ← isOver]
    exact ⟨fun ⟨_, found, same⟩ => same ▸ found, fun found => ⟨routes, found, rfl⟩⟩
  have finds := returns.trans (nonempty.trans (router.healthy_filter_ne_nil_iff asked))
  constructor
  · intro ⟨iff, _⟩ registered
    exact (finds.mp (iff.mpr registered)).2 registered
  · intro together
    refine ⟨finds.trans (and_iff_left together), fun found returned => ?_⟩
    have isRoutes : found = routes := (routesFrom_ok.mp returned).2
    have kept := nonempty.mp (returns.mp ⟨found, returned⟩)
    rw [isRoutes]
    refine ⟨?_, routesOver_provider router _ sorted⟩
    rw [← router.healthy_filter asked kept]
    exact stably

def askedFor (router : ModelRouter) (config : BreakerConfig) (clock : ClockReadings)
    (circuits : Circuits) (request : LLMChatRequest) (decision : PolicyDecision) :
    List (DeploymentConfig × Bool) :=
  (askCircuits config clock.reading (router.matching request decision) circuits).1

/-- The plan finds the usable deployments among the matching ones exactly where
no deployment without a provider hides those whose circuits are open. -/
theorem plan_finds_iff (router : ModelRouter) (config : BreakerConfig) (clock : ClockReadings)
    (circuits : Circuits) (request : LLMChatRequest) (decision : PolicyDecision) :
    router.FindsUsable decision (router.askedFor config clock circuits request decision)
        (router.planOver config clock circuits request decision).1 ↔
      router.OpenTogether (router.askedFor config clock circuits request decision) := by
  unfold planOver askedFor
  rcases router.candidates_eq request decision with ⟨found, _⟩ | ⟨⟨x, failed⟩, none⟩
  · rw [found]
    exact router.routesFrom_finds request decision _
  · rw [failed, none]
    simp [FindsUsable, OpenTogether, askCircuits]

def hiddenRouter : ModelRouter :=
  { providers := [litellmProvider none false]
    deployments :=
      [{ defaultChatDeployment none false with id := 1, providerKey := "retired" },
        { defaultChatDeployment none false with id := 2 }] }

def afterOneFailure : Circuits :=
  CircuitBreaker.recordFailure CircuitBreaker.hastyBreaker 0 0 "2" none OrderedDict.empty

theorem hidden_deployment_is_not_planned :
    ¬ hiddenRouter.FindsUsable { allowed := true }
      (hiddenRouter.askedFor CircuitBreaker.hastyBreaker (.still 1) afterOneFailure helloRequest
        { allowed := true })
      (hiddenRouter.planOver CircuitBreaker.hastyBreaker (.still 1) afterOneFailure helloRequest
        { allowed := true }).1 := by
  intro finds
  have registered : ∃ entry ∈ hiddenRouter.askedFor CircuitBreaker.hastyBreaker (.still 1)
      afterOneFailure helloRequest { allowed := true },
      hiddenRouter.isRegistered entry.1 = true := by decide +kernel
  have fails : (hiddenRouter.planOver CircuitBreaker.hastyBreaker (.still 1) afterOneFailure
      helloRequest { allowed := true }).1.toOption.isNone = true := by decide +kernel
  obtain ⟨routes, returned⟩ := finds.1.mpr registered
  rw [returned] at fails
  cases fails

end ModelRouter

end AgentHive
