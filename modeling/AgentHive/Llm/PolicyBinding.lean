import AgentHive.Llm.PolicyValidation
import AgentHive.Llm.Router

/-!
What a policy decision guarantees about the deployments that are then used.

The engine compares its lists with the keys the request names. The router
filters by the keys of the decision, which are the named keys completed with
the defaults of the admitting rule. A list therefore binds the deployment in a
dimension the request names; in a dimension it leaves open, only a default, or
the deployments that happen to be routable, can make it bind.
-/

namespace AgentHive.ModelPolicyEngine

def completedModelKey (matched : List ModelPolicyRule) (request : LLMChatRequest) : Option String :=
  match firstAllow matched request with
  | some allow => pyOr request.modelKey allow.defaultModelKey
  | none => request.modelKey

def completedRoutingKey (matched : List ModelPolicyRule) (request : LLMChatRequest) :
    Option String :=
  match firstAllow matched request with
  | some allow => pyOr request.routingKey allow.defaultRoutingKey
  | none =>
    if request.modelKey == none && request.routingKey == none then some "default-chat"
    else request.routingKey

variable {matched : List ModelPolicyRule} {request : LLMChatRequest} {context : LLMRequestContext}

theorem decideMatched_allowed (h : (decideMatched matched request context).allowed = true) :
    firstDeny matched request = none ∧
      ((firstAllow matched request).isSome ∨ matched = []) := by
  simp only [decideMatched] at h
  cases deny : firstDeny matched request with
  | some rule => simp [deny] at h
  | none =>
    refine ⟨rfl, ?_⟩
    cases allow : firstAllow matched request with
    | some rule => exact Or.inl rfl
    | none =>
      right
      by_cases empty : matched = []
      · exact empty
      · simp [deny, allow, empty] at h

theorem decideMatched_keys (h : (decideMatched matched request context).allowed = true) :
    let decision := decideMatched matched request context
    decision.modelKey = completedModelKey matched request ∧
      decision.routingKey = completedRoutingKey matched request ∧
      (effectiveRequest request decision).modelKey = decision.modelKey ∧
      (effectiveRequest request decision).routingKey = decision.routingKey := by
  obtain ⟨deny, admitted⟩ := decideMatched_allowed h
  simp only [effectiveRequest, decideMatched, deny, completedModelKey, completedRoutingKey]
  cases allow : firstAllow matched request with
  | some rule => simp only [allowDecision, pyOr_pyOr, and_self]
  | none =>
    have unmatched : matched = [] := by simpa [allow] using admitted
    simp only [unmatched, List.isEmpty_nil, Bool.not_true, Bool.false_eq_true, if_false]
    split
    · rename_i bare
      simp only [Bool.and_eq_true, beq_iff_eq] at bare
      simp [bare.1, bare.2, pyOr, truthy]
    · simp [pyOr]

variable {policies : List ModelPolicyRule} {resolved : Option UUID}

theorem evaluate_eq (h : (evaluate policies request context resolved).allowed = true) :
    evaluate policies request context resolved =
      decideMatched (matchingPolicies policies context (costCenterId policies context resolved))
        request context := by
  simp only [evaluate] at h ⊢
  split
  · rename_i empty
    simp [empty] at h
  · rfl

theorem completedModelKey_of_named (named : truthy request.modelKey = true) :
    completedModelKey matched request = request.modelKey := by
  simp only [completedModelKey]
  split
  · exact pyOr_of_truthy named _
  · rfl

theorem completedRoutingKey_of_named (named : truthy request.routingKey = true) :
    completedRoutingKey matched request = request.routingKey := by
  simp only [completedRoutingKey]
  split
  · exact pyOr_of_truthy named _
  · obtain ⟨key, given, _⟩ := truthy_iff.mp named
    simp [given]

/-- `plan` on the request the gateway sends on has a route to the deployment. -/
def Routed (router : ModelRouter) (isOpen : UUID → Bool) (request : LLMChatRequest)
    (decision : PolicyDecision) (d : DeploymentConfig) : Prop :=
  ∃ routes, router.plan isOpen (effectiveRequest request decision) decision = .ok routes ∧
    ∃ r ∈ routes, r.deployment = d

def matchedRules (policies : List ModelPolicyRule) (context : LLMRequestContext)
    (resolved : Option UUID) : List ModelPolicyRule :=
  matchingPolicies policies context (costCenterId policies context resolved)

theorem routed_iff (h : (evaluate policies request context resolved).allowed = true)
    (router : ModelRouter) (isOpen : UUID → Bool) (d : DeploymentConfig) :
    Routed router isOpen request (evaluate policies request context resolved) d ↔
      router.Routable isOpen
        (completedModelKey (matchedRules policies context resolved) request)
        (completedRoutingKey (matchedRules policies context resolved) request)
        (completedRoutingKey (matchedRules policies context resolved) request) d := by
  have decided := evaluate_eq h
  rw [decided] at h
  obtain ⟨model, routing, sentModel, sentRouting⟩ := decideMatched_keys h
  rw [Routed, decided, ModelRouter.mem_plan_iff, sentModel, sentRouting, model, routing]
  simp only [pyOr, ite_self, matchedRules]

theorem matchedRules_allowed (h : (evaluate policies request context resolved).allowed = true) :
    firstDeny (matchedRules policies context resolved) request = none ∧
      ((firstAllow (matchedRules policies context resolved) request).isSome ∨
        matchedRules policies context resolved = []) := by
  rw [evaluate_eq h] at h
  exact decideMatched_allowed h

variable {rule : ModelPolicyRule}

theorem not_targets_of_firstDeny (h : firstDeny matched request = none) (mem : rule ∈ matched)
    (deny : rule.effect = .deny) : policyTargetsRequest rule request = false := by
  have skipped := List.find?_eq_none.mp h rule mem
  simpa [deny] using skipped

theorem firstAllow_mem (h : firstAllow matched request = some rule) :
    rule ∈ matched ∧ rule.effect = .allow ∧ policyAllowsRequest rule request = true := by
  have admits := List.find?_some h
  simp only [Bool.and_eq_true, beq_iff_eq] at admits
  exact ⟨List.mem_of_find?_eq_some h, admits⟩

theorem not_listed_of_not_targets (h : policyTargetsRequest rule request = false) :
    ¬ (rule.allowedModels = [] ∧ rule.allowedRoutingKeys = []) ∧
      (truthy request.modelKey = true → isIn request.modelKey rule.allowedModels = false) ∧
      (truthy request.routingKey = true →
        isIn request.routingKey rule.allowedRoutingKeys = false) := by
  simp only [policyTargetsRequest] at h
  split at h
  · cases h
  · rename_i listed
    simp only [Bool.and_eq_true, List.isEmpty_iff] at listed
    simp only [Bool.or_eq_false_iff, Bool.and_eq_false_imp] at h
    exact ⟨listed, h⟩

theorem listed_of_allows (h : policyAllowsRequest rule request = true) :
    (truthy request.modelKey = true → rule.allowedModels ≠ [] →
        isIn request.modelKey rule.allowedModels = true) ∧
      (truthy request.routingKey = true → rule.allowedRoutingKeys ≠ [] →
        isIn request.routingKey rule.allowedRoutingKeys = true) := by
  simp only [policyAllowsRequest] at h
  split at h
  · cases h
  · rename_i model
    split at h
    · cases h
    · rename_i routing
      refine ⟨?_, ?_⟩
      · intro named listed
        simpa [named, listed] using model
      · intro named listed
        simpa [named, listed] using routing

theorem Routed.named_keys {router : ModelRouter} {isOpen : UUID → Bool} {d : DeploymentConfig}
    (allowed : (evaluate policies request context resolved).allowed = true)
    (h : Routed router isOpen request (evaluate policies request context resolved) d) :
    (truthy request.modelKey = true → request.modelKey = some d.modelKey) ∧
      (truthy request.routingKey = true → request.routingKey = some d.routingKey) := by
  have isMatch := ((routed_iff allowed router isOpen d).mp h).isMatch
  refine ⟨?_, ?_⟩
  · intro named
    rw [completedModelKey_of_named named] at isMatch
    exact (isMatch.model named).symm
  · intro named
    rw [completedRoutingKey_of_named named] at isMatch
    exact (isMatch.policyRoute named).symm

theorem matchedRules_subset (mem : rule ∈ matchedRules policies context resolved) :
    rule ∈ policies := by
  rw [matchedRules, matchingPolicies, (List.perm_insertionSort _ _).mem_iff] at mem
  exact List.mem_of_mem_filter mem

def Lists (rule : ModelPolicyRule) (d : DeploymentConfig) : Prop :=
  d.modelKey ∈ rule.allowedModels ∨ d.routingKey ∈ rule.allowedRoutingKeys

/-- No deployment of the plan is listed by a matched deny rule, and no matched
deny rule denies everything. -/
def DenyRulesBind (policies : List ModelPolicyRule) (context : LLMRequestContext)
    (resolved : Option UUID) (request : LLMChatRequest) (router : ModelRouter)
    (isOpen : UUID → Bool) : Prop :=
  (∀ d, Routed router isOpen request (evaluate policies request context resolved) d →
    ∀ rule ∈ matchedRules policies context resolved, rule.effect = .deny → ¬ Lists rule d) ∧
  ∀ rule ∈ matchedRules policies context resolved, rule.effect = .deny →
    ¬ (rule.allowedModels = [] ∧ rule.allowedRoutingKeys = [])

/-- A matched deny rule lists no key of the deployment in a dimension the
request leaves open. -/
def SparedByDefaults (matched : List ModelPolicyRule) (request : LLMChatRequest)
    (d : DeploymentConfig) : Prop :=
  ∀ rule ∈ matched, rule.effect = .deny →
    (truthy request.modelKey = false → d.modelKey ∉ rule.allowedModels) ∧
      (truthy request.routingKey = false → d.routingKey ∉ rule.allowedRoutingKeys)

/-- Deny rules bind the deployment used exactly when none of the deployments
the completed keys lead to is listed in a dimension the request does not name:
the engine has checked the named ones. -/
theorem denyRulesBind_iff (policies : List ModelPolicyRule) (context : LLMRequestContext)
    (resolved : Option UUID) (request : LLMChatRequest) (router : ModelRouter)
    (isOpen : UUID → Bool) (allowed : (evaluate policies request context resolved).allowed = true) :
    DenyRulesBind policies context resolved request router isOpen ↔
      ∀ d, router.Routable isOpen
          (completedModelKey (matchedRules policies context resolved) request)
          (completedRoutingKey (matchedRules policies context resolved) request)
          (completedRoutingKey (matchedRules policies context resolved) request) d →
        SparedByDefaults (matchedRules policies context resolved) request d := by
  constructor
  · intro binds d routable rule mem deny
    have spared := binds.1 d ((routed_iff allowed router isOpen d).mpr routable) rule mem deny
    exact ⟨fun _ listed => spared (Or.inl listed), fun _ listed => spared (Or.inr listed)⟩
  · intro spared
    have undenied := (matchedRules_allowed allowed).1
    refine ⟨?_, ?_⟩
    · intro d routed rule mem deny listed
      obtain ⟨_, models, routes⟩ :=
        not_listed_of_not_targets (not_targets_of_firstDeny undenied mem deny)
      obtain ⟨model, route⟩ := routed.named_keys allowed
      obtain ⟨openModel, openRoute⟩ :=
        spared d ((routed_iff allowed router isOpen d).mp routed) rule mem deny
      cases listed with
      | inl listed =>
        cases named : truthy request.modelKey with
        | false => exact openModel named listed
        | true =>
          have unlisted := models named
          rw [model named] at unlisted
          simp [isIn, listed] at unlisted
      | inr listed =>
        cases named : truthy request.routingKey with
        | false => exact openRoute named listed
        | true =>
          have unlisted := routes named
          rw [route named] at unlisted
          simp [isIn, listed] at unlisted
    · intro rule mem deny
      exact (not_listed_of_not_targets (not_targets_of_firstDeny undenied mem deny)).1

def allowMini : ModelPolicyRule :=
  { id := 1, name := "allow-mini", scopeType := .tenant, effect := .allow
    allowedModels := ["gpt-4o-mini"], defaultModelKey := some "gpt-4o-mini" }

def denyMini : ModelPolicyRule :=
  { id := 2, name := "deny-mini", scopeType := .tenant, effect := .deny
    allowedModels := ["gpt-4o-mini"] }

theorem denied_default_is_routed :
    (evaluate [allowMini, denyMini] helloRequest tenantContext none).allowed = true ∧
      ¬ DenyRulesBind [allowMini, denyMini] tenantContext none helloRequest defaultRouter
        (fun _ => false) := by
  refine ⟨by decide, ?_⟩
  intro binds
  apply binds.1 (defaultChatDeployment none false) ⟨_, rfl, _, List.mem_singleton.mpr rfl, rfl⟩
    denyMini (by decide) rfl
  exact Or.inl (by decide)

theorem denyRulesBind_default :
    DenyRulesBind [allowMini, { denyMini with allowedModels := ["gpt-4o"] }] tenantContext none
      helloRequest defaultRouter (fun _ => false) := by
  refine (denyRulesBind_iff _ _ _ _ _ _ (by decide)).mpr ?_
  intro d routable rule mem deny
  have model : some d.modelKey = some "gpt-4o-mini" := routable.isMatch.model (by decide)
  have listed : rule.allowedModels = ["gpt-4o"] ∧ rule.allowedRoutingKeys = [] := by
    revert rule
    decide
  rw [listed.1, listed.2, Option.some.inj model]
  exact ⟨fun _ => by decide, fun _ => List.not_mem_nil⟩

def WithinLists (allow : ModelPolicyRule) (d : DeploymentConfig) : Prop :=
  (allow.allowedModels ≠ [] → d.modelKey ∈ allow.allowedModels) ∧
    (allow.allowedRoutingKeys ≠ [] → d.routingKey ∈ allow.allowedRoutingKeys)

def WithinOpenLists (allow : ModelPolicyRule) (request : LLMChatRequest)
    (d : DeploymentConfig) : Prop :=
  (truthy request.modelKey = false → truthy allow.defaultModelKey = false →
      allow.allowedModels ≠ [] → d.modelKey ∈ allow.allowedModels) ∧
    (truthy request.routingKey = false → truthy allow.defaultRoutingKey = false →
      allow.allowedRoutingKeys ≠ [] → d.routingKey ∈ allow.allowedRoutingKeys)

theorem Routed.default_keys {router : ModelRouter} {isOpen : UUID → Bool} {d : DeploymentConfig}
    {allow : ModelPolicyRule}
    (allowed : (evaluate policies request context resolved).allowed = true)
    (through : firstAllow (matchedRules policies context resolved) request = some allow)
    (h : Routed router isOpen request (evaluate policies request context resolved) d) :
    (truthy request.modelKey = false → truthy allow.defaultModelKey = true →
        allow.defaultModelKey = some d.modelKey) ∧
      (truthy request.routingKey = false → truthy allow.defaultRoutingKey = true →
        allow.defaultRoutingKey = some d.routingKey) := by
  have isMatch := ((routed_iff allowed router isOpen d).mp h).isMatch
  simp only [completedModelKey, completedRoutingKey, through] at isMatch
  refine ⟨?_, ?_⟩
  · intro unnamed default
    have key := pyOr_of_not_truthy unnamed allow.defaultModelKey
    rw [key] at isMatch
    exact (isMatch.model default).symm
  · intro unnamed default
    have key := pyOr_of_not_truthy unnamed allow.defaultRoutingKey
    rw [key] at isMatch
    exact (isMatch.policyRoute default).symm

/-- The allow lists of a stored rule bind the deployment used exactly when they
contain it in the dimensions that nothing fills in: a named key was checked by
the engine, a default by the validation of the rule. -/
theorem allowLists_bind_iff (policies : List ModelPolicyRule) (context : LLMRequestContext)
    (resolved : Option UUID) (request : LLMChatRequest) (router : ModelRouter)
    (isOpen : UUID → Bool) (allow : ModelPolicyRule)
    (stored : ∀ rule ∈ policies, rule.effect = .allow → PolicyValidation.Validated rule)
    (allowed : (evaluate policies request context resolved).allowed = true)
    (through : firstAllow (matchedRules policies context resolved) request = some allow) :
    (∀ d, Routed router isOpen request (evaluate policies request context resolved) d →
        WithinLists allow d) ↔
      ∀ d, router.Routable isOpen
          (completedModelKey (matchedRules policies context resolved) request)
          (completedRoutingKey (matchedRules policies context resolved) request)
          (completedRoutingKey (matchedRules policies context resolved) request) d →
        WithinOpenLists allow request d := by
  obtain ⟨mem, effect, admits⟩ := firstAllow_mem through
  constructor
  · intro binds d routable
    obtain ⟨model, route⟩ := binds d ((routed_iff allowed router isOpen d).mpr routable)
    exact ⟨fun _ _ => model, fun _ _ => route⟩
  · intro binds d routed
    obtain ⟨openModel, openRoute⟩ := binds d ((routed_iff allowed router isOpen d).mp routed)
    obtain ⟨namedModel, namedRoute⟩ := routed.named_keys allowed
    obtain ⟨defaultModel, defaultRoute⟩ := routed.default_keys allowed through
    obtain ⟨checkedModel, checkedRoute⟩ := listed_of_allows admits
    obtain ⟨validModel, validRoute⟩ := (stored allow (matchedRules_subset mem) effect).default_listed
    refine ⟨?_, ?_⟩
    · intro listed
      cases named : truthy request.modelKey with
      | true => simpa [isIn, namedModel named] using checkedModel named listed
      | false =>
        cases default : truthy allow.defaultModelKey with
        | true => simpa [isIn, defaultModel named default] using validModel default
        | false => exact openModel named default listed
    · intro listed
      cases named : truthy request.routingKey with
      | true => simpa [isIn, namedRoute named] using checkedRoute named listed
      | false =>
        cases default : truthy allow.defaultRoutingKey with
        | true => simpa [isIn, defaultRoute named default] using validRoute default
        | false => exact openRoute named default listed

def allowMiniOnTeam : ModelPolicyRule :=
  { id := 3, name := "allow-mini", scopeType := .tenant, effect := .allow
    allowedModels := ["gpt-4o-mini"], allowedRoutingKeys := ["team-chat"] }

def miniRequest : LLMChatRequest := { helloRequest with modelKey := some "gpt-4o-mini" }

theorem unlisted_route_is_used :
    PolicyValidation.Validated allowMiniOnTeam ∧
      (evaluate [allowMiniOnTeam] miniRequest tenantContext none).allowed = true ∧
      firstAllow (matchedRules [allowMiniOnTeam] tenantContext none) miniRequest =
        some allowMiniOnTeam ∧
      ∃ d, Routed defaultRouter (fun _ => false) miniRequest
          (evaluate [allowMiniOnTeam] miniRequest tenantContext none) d ∧
        ¬ WithinLists allowMiniOnTeam d := by
  have stored : PolicyValidation.Validated allowMiniOnTeam :=
    ⟨⟨"allow-mini", none, .allow, ["gpt-4o-mini"], ["team-chat"], none, none, none⟩, _,
      rfl, rfl, rfl, rfl, rfl, rfl⟩
  refine ⟨stored, by decide, by decide, defaultChatDeployment none false,
    ⟨_, rfl, _, List.mem_singleton.mpr rfl, rfl⟩, ?_⟩
  simp only [WithinLists]
  decide

theorem allowLists_bind_default :
    ∃ d, Routed defaultRouter (fun _ => false) helloRequest
        (evaluate [allowMini] helloRequest tenantContext none) d ∧ WithinLists allowMini d := by
  have routed : Routed defaultRouter (fun _ => false) helloRequest
      (evaluate [allowMini] helloRequest tenantContext none) (defaultChatDeployment none false) :=
    ⟨_, rfl, _, List.mem_singleton.mpr rfl, rfl⟩
  refine ⟨_, routed,
    (allowLists_bind_iff _ _ _ _ _ _ _ ?_ (by decide) (by decide)).mpr ?_ _ routed⟩
  · intro rule mem _
    rw [List.mem_singleton.mp mem]
    exact ⟨⟨"allow-mini", none, .allow, ["gpt-4o-mini"], [], some "gpt-4o-mini", none, none⟩, _,
      rfl, rfl, rfl, rfl, rfl, rfl⟩
  · intro d _
    refine ⟨?_, ?_⟩
    · intro _ default
      cases default
    · intro _ _ listed
      exact absurd rfl listed

end AgentHive.ModelPolicyEngine
