import AgentHive.Llm.Policy
import AgentHive.Llm.Pricing

/-!
The router: which deployments a decided request may be sent to, and in which
order they are tried.
-/

namespace AgentHive

structure ModelRouter where
  providers : List ProviderConfig
  deployments : List DeploymentConfig
  pricing : Option ModelPricingCatalog := none
  costAwareRoutingEnabled : Bool := false

def effectiveRequest (request : LLMChatRequest) (decision : PolicyDecision) : LLMChatRequest :=
  { request with
    modelKey := pyOr request.modelKey decision.modelKey
    routingKey := pyOr request.routingKey decision.routingKey
    maxTokens := if decision.maxTokens.isSome then decision.maxTokens else request.maxTokens }

def routeErrorDetail (code message : String) (request : LLMChatRequest)
    (decision : PolicyDecision) (candidateCount : Nat)
    (missingProviderKeys : List String := []) : HttpDetail :=
  .fields [("code", .str code), ("message", .str message),
    ("request_model_key", .ofOption request.modelKey),
    ("request_routing_key", .ofOption request.routingKey),
    ("policy_model_key", .ofOption decision.modelKey),
    ("policy_routing_key", .ofOption decision.routingKey),
    ("candidate_count", .int candidateCount),
    ("missing_provider_keys", .strs (missingProviderKeys.dedup.insertionSort (· ≤ ·)))]

namespace ModelRouter

def provider (router : ModelRouter) (key : String) : Option ProviderConfig :=
  router.providers.reverse.find? fun p => p.providerKey == key

def withKey (key : Option String) (field : DeploymentConfig → String)
    (deployments : List DeploymentConfig) : List DeploymentConfig :=
  if truthy key then deployments.filter fun d => some (field d) == key else deployments

def candidates (router : ModelRouter) (request : LLMChatRequest) (decision : PolicyDecision) :
    Except Exc (List DeploymentConfig) :=
  let active := router.deployments.filter (·.status == .active)
  let byModel := withKey (pyOr decision.modelKey request.modelKey) (·.modelKey) active
  let byPolicyRoute := withKey decision.routingKey (·.routingKey) byModel
  if truthy decision.routingKey && byPolicyRoute.isEmpty then
    .error (.http 404 (routeErrorDetail "policy_routing_key_not_found"
      "No active LLM deployment matched the policy routing key." request decision
      byModel.length))
  else
    let byRoute := withKey request.routingKey (·.routingKey) byPolicyRoute
    if byRoute.isEmpty then
      .error (.http 404 (routeErrorDetail "deployment_not_found"
        "No active LLM deployment matched the request." request decision 0))
    else .ok byRoute

def costKeyLe (pricing : ModelPricingCatalog) (d e : DeploymentConfig) : Prop :=
  d.priority < e.priority ∨ (d.priority = e.priority ∧
    (pricing.pricesFor (some d.modelKey)).1 + (pricing.pricesFor (some d.modelKey)).2 ≤
      (pricing.pricesFor (some e.modelKey)).1 + (pricing.pricesFor (some e.modelKey)).2)

instance (pricing : ModelPricingCatalog) : DecidableRel (costKeyLe pricing) :=
  fun _ _ => inferInstanceAs (Decidable (_ ∨ _))

def sortCandidates (router : ModelRouter) (candidates : List DeploymentConfig)
    (costAware : Bool) : List DeploymentConfig :=
  match costAware, router.pricing with
  | true, some pricing => candidates.insertionSort (costKeyLe pricing)
  | _, _ => candidates.insertionSort fun d e => d.priority ≤ e.priority

def isCostAware (router : ModelRouter) (decision : PolicyDecision) : Bool :=
  router.costAwareRoutingEnabled && router.pricing.isSome &&
    decision.metadata.get "routing_strategy" == .str "cost_priority"

def healthy (flagged : List (DeploymentConfig × Bool)) : List DeploymentConfig :=
  let closed := (flagged.filter fun entry => !entry.2).map (·.1)
  if closed.isEmpty then flagged.map (·.1) else closed

def routeReason (costAware : Bool) : String :=
  if costAware then "cost_priority_route" else "priority_route"

def routesOver (router : ModelRouter) (reason : String) (sorted : List DeploymentConfig) :
    List RouteSelection :=
  sorted.filterMap fun d => (router.provider d.providerKey).map fun p =>
    { deployment := d, provider := p, reason := reason }

def routesFrom (router : ModelRouter) (request : LLMChatRequest) (decision : PolicyDecision)
    (flagged : List (DeploymentConfig × Bool)) : Except Exc (List RouteSelection) :=
  let costAware := router.isCostAware decision
  let kept := healthy flagged
  let sorted := router.sortCandidates kept costAware
  let routes := router.routesOver (routeReason costAware) sorted
  let missing := (sorted.filter fun d => (router.provider d.providerKey).isNone).map
    (·.providerKey)
  if !routes.isEmpty then .ok routes
  else if !missing.isEmpty then
    .error (.http 500 (routeErrorDetail "deployment_provider_not_registered"
      "LLM deployment provider is not registered." request decision kept.length missing))
  else
    .error (.http 404 (routeErrorDetail "usable_deployment_not_found"
      "No usable LLM deployment matched the request." request decision kept.length))

/-- The routes of a request, tried in this order. `isOpen` is the circuit
breaker's answer for each deployment. -/
def plan (router : ModelRouter) (isOpen : UUID → Bool) (request : LLMChatRequest)
    (decision : PolicyDecision) : Except Exc (List RouteSelection) := do
  let found ← router.candidates request decision
  router.routesFrom request decision (found.map fun d => (d, isOpen d.id))

structure Matches (router : ModelRouter) (modelKey policyKey requestKey : Option String)
    (d : DeploymentConfig) : Prop where
  listed : d ∈ router.deployments
  active : d.status = .active
  model : truthy modelKey = true → some d.modelKey = modelKey
  policyRoute : truthy policyKey = true → some d.routingKey = policyKey
  requestRoute : truthy requestKey = true → some d.routingKey = requestKey

/-- A matching deployment the router is left with: its circuit is not open, or
every matching circuit is, and its provider is registered. -/
structure Routable (router : ModelRouter) (isOpen : UUID → Bool)
    (modelKey policyKey requestKey : Option String) (d : DeploymentConfig) : Prop where
  isMatch : router.Matches modelKey policyKey requestKey d
  circuit : isOpen d.id = false ∨
    ∀ e, router.Matches modelKey policyKey requestKey e → isOpen e.id = true
  registered : (router.provider d.providerKey).isSome

theorem mem_withKey (key : Option String) (field : DeploymentConfig → String)
    (deployments : List DeploymentConfig) (d : DeploymentConfig) :
    d ∈ withKey key field deployments ↔
      d ∈ deployments ∧ (truthy key = true → some (field d) = key) := by
  cases h : truthy key <;> simp [withKey, h]

private theorem mem_filters (router : ModelRouter) (request : LLMChatRequest)
    (decision : PolicyDecision) (d : DeploymentConfig) :
    d ∈ withKey request.routingKey (·.routingKey)
        (withKey decision.routingKey (·.routingKey)
          (withKey (pyOr decision.modelKey request.modelKey) (·.modelKey)
            (router.deployments.filter (·.status == .active)))) ↔
      router.Matches (pyOr decision.modelKey request.modelKey) decision.routingKey
        request.routingKey d := by
  simp only [mem_withKey, List.mem_filter, beq_iff_eq]
  constructor
  · rintro ⟨⟨⟨⟨listed, active⟩, model⟩, policyRoute⟩, requestRoute⟩
    exact ⟨listed, active, model, policyRoute, requestRoute⟩
  · rintro ⟨listed, active, model, policyRoute, requestRoute⟩
    exact ⟨⟨⟨⟨listed, active⟩, model⟩, policyRoute⟩, requestRoute⟩

variable {router : ModelRouter} {request : LLMChatRequest} {decision : PolicyDecision}

theorem mem_candidates {found : List DeploymentConfig}
    (h : router.candidates request decision = .ok found) (d : DeploymentConfig) :
    d ∈ found ↔ router.Matches (pyOr decision.modelKey request.modelKey) decision.routingKey
        request.routingKey d := by
  simp only [candidates] at h
  split at h
  · cases h
  · split at h
    · cases h
    · cases h
      exact mem_filters router request decision d

theorem candidates_error {x : Exc} (h : router.candidates request decision = .error x)
    (d : DeploymentConfig) :
    ¬ router.Matches (pyOr decision.modelKey request.modelKey) decision.routingKey
        request.routingKey d := by
  intro isMatch
  have kept := (mem_filters router request decision d).mpr isMatch
  have byRoute := (mem_withKey _ _ _ _).mp kept
  simp only [candidates] at h
  split at h
  · rename_i none
    simp only [Bool.and_eq_true, List.isEmpty_iff] at none
    rw [none.2] at byRoute
    exact List.not_mem_nil byRoute.1
  · split at h
    · rename_i none
      rw [List.isEmpty_iff.mp none] at kept
      exact List.not_mem_nil kept
    · cases h

theorem mem_sortCandidates (router : ModelRouter) (found : List DeploymentConfig)
    (costAware : Bool) (d : DeploymentConfig) :
    d ∈ router.sortCandidates found costAware ↔ d ∈ found := by
  simp only [sortCandidates]
  split <;> exact (List.perm_insertionSort _ _).mem_iff

theorem mem_healthy (isOpen : UUID → Bool) (found : List DeploymentConfig) (d : DeploymentConfig) :
    d ∈ healthy (found.map fun e => (e, isOpen e.id)) ↔
      d ∈ found ∧ (isOpen d.id = false ∨ ∀ e ∈ found, isOpen e.id = true) := by
  have closed : ((found.map fun e => (e, isOpen e.id)).filter fun entry => !entry.2).map (·.1) =
      found.filter fun e => !isOpen e.id := by
    induction found with
    | nil => rfl
    | cons e rest ih =>
      cases h : isOpen e.id <;> simp [h, ih]
  simp only [healthy, closed]
  split
  · rename_i none
    simp only [List.isEmpty_iff, List.filter_eq_nil_iff, Bool.not_eq_true',
      Bool.not_eq_false] at none
    simpa [List.mem_map] using fun _ => Or.inr none
  · rename_i some
    simp only [List.isEmpty_iff, List.filter_eq_nil_iff] at some
    simp only [List.mem_filter, Bool.not_eq_true', and_congr_right_iff]
    intro _
    refine ⟨Or.inl, fun h => h.elim id fun all => ?_⟩
    exact absurd (fun e mem => by simp [all e mem]) some

theorem mem_routesOver (router : ModelRouter) (reason : String)
    (sorted : List DeploymentConfig) (d : DeploymentConfig) :
    (∃ r ∈ router.routesOver reason sorted, r.deployment = d) ↔
      d ∈ sorted ∧ (router.provider d.providerKey).isSome := by
  simp only [routesOver, List.mem_filterMap, Option.map_eq_some_iff]
  constructor
  · rintro ⟨r, ⟨e, inSorted, p, registered, rfl⟩, rfl⟩
    exact ⟨inSorted, by simp [registered]⟩
  · rintro ⟨inSorted, registered⟩
    obtain ⟨p, registered⟩ := Option.isSome_iff_exists.mp registered
    exact ⟨⟨d, p, reason⟩, ⟨d, inSorted, p, registered, rfl⟩, rfl⟩

variable {flagged : List (DeploymentConfig × Bool)} {routes : List RouteSelection}

theorem routesFrom_ok :
    router.routesFrom request decision flagged = .ok routes ↔
      routes ≠ [] ∧ routes = router.routesOver (routeReason (router.isCostAware decision))
        (router.sortCandidates (healthy flagged) (router.isCostAware decision)) := by
  simp only [routesFrom]
  generalize router.routesOver _ _ = isOver
  cases isOver with
  | nil =>
    simp only [List.isEmpty_nil, Bool.not_true, Bool.false_eq_true, if_false]
    split <;> simp +contextual
  | cons r rest => simp +contextual [eq_comm]

theorem mem_plan_iff (router : ModelRouter) (isOpen : UUID → Bool)
    (request : LLMChatRequest) (decision : PolicyDecision) (d : DeploymentConfig) :
    (∃ routes, router.plan isOpen request decision = .ok routes ∧
        ∃ r ∈ routes, r.deployment = d) ↔
      router.Routable isOpen (pyOr decision.modelKey request.modelKey) decision.routingKey
        request.routingKey d := by
  cases found : router.candidates request decision with
  | error x =>
    refine ⟨fun ⟨routes, h, _⟩ => ?_, fun h => ?_⟩
    · simp [plan, found, bind, Except.bind] at h
    · exact absurd h.isMatch (candidates_error found d)
  | ok ds =>
    have members := mem_candidates found
    have onRoute := mem_routesOver router (routeReason (router.isCostAware decision))
      (router.sortCandidates (healthy (ds.map fun e => (e, isOpen e.id)))
        (router.isCostAware decision)) d
    simp only [mem_sortCandidates, mem_healthy, members] at onRoute
    simp only [plan, found, bind, Except.bind, routesFrom_ok]
    constructor
    · rintro ⟨routes, ⟨_, rfl⟩, mem⟩
      obtain ⟨⟨isMatch, circuit⟩, registered⟩ := onRoute.mp mem
      exact ⟨isMatch, circuit, registered⟩
    · rintro ⟨isMatch, circuit, registered⟩
      obtain ⟨r, inRoutes, same⟩ := onRoute.mpr ⟨⟨isMatch, circuit⟩, registered⟩
      exact ⟨_, ⟨List.ne_nil_of_mem inRoutes, rfl⟩, r, inRoutes, same⟩

theorem routesFrom_ne_nil (h : router.routesFrom request decision flagged = .ok routes) :
    routes ≠ [] :=
  (routesFrom_ok.mp h).1

theorem routesFrom_registered (h : router.routesFrom request decision flagged = .ok routes) :
    ∀ route ∈ routes, route.provider ∈ router.providers := by
  intro route mem
  rw [(routesFrom_ok.mp h).2, routesOver, List.mem_filterMap] at mem
  obtain ⟨d, _, built⟩ := mem
  obtain ⟨p, registered, rfl⟩ := Option.map_eq_some_iff.mp built
  exact List.mem_reverse.mp (List.mem_of_find?_eq_some registered)

end ModelRouter
def defaultRouter : ModelRouter :=
  { providers := [litellmProvider none false], deployments := [defaultChatDeployment none false] }

def helloRequest : LLMChatRequest :=
  { messages := [{ role := "user", content := "hello" }] }

def tenantContext : LLMRequestContext := { tenantId := 1, requestId := "r-1" }

end AgentHive
