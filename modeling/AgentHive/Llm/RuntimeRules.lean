import AgentHive.Llm.PolicyBinding

/-!
The rule set of a runtime gateway: the stored rules, cut down to the keys that
active deployments carry. Access may widen by this, because an emptied list
and an empty rule set mean "unrestricted" to the engine.
-/

namespace AgentHive.RuntimeRules

open ModelPolicyEngine

variable (deployments : List DeploymentConfig)

def activeDeployments : List DeploymentConfig :=
  deployments.filter (·.status == .active)

def availableModelKeys : List String :=
  (activeDeployments deployments).map (·.modelKey)

def availableRoutingKeys : List String :=
  (activeDeployments deployments).map (·.routingKey)

def restricted (models routes : List String) (rule : ModelPolicyRule) : ModelPolicyRule :=
  { rule with
    allowedModels := rule.allowedModels.filter models.contains
    allowedRoutingKeys := rule.allowedRoutingKeys.filter routes.contains
    defaultModelKey := if isIn rule.defaultModelKey models then rule.defaultModelKey else none
    defaultRoutingKey :=
      if isIn rule.defaultRoutingKey routes then rule.defaultRoutingKey else none }

def isDropped (models routes : List String) (rule : ModelPolicyRule) : Bool :=
  let cut := restricted models routes rule
  match rule.effect with
  | .deny =>
    (!rule.allowedModels.isEmpty || !rule.allowedRoutingKeys.isEmpty) &&
      !(!cut.allowedModels.isEmpty || !cut.allowedRoutingKeys.isEmpty)
  | .allow =>
    !(!cut.allowedModels.isEmpty || !cut.allowedRoutingKeys.isEmpty ||
      truthy cut.defaultModelKey || truthy cut.defaultRoutingKey)
  | .other _ => false

def policyRulesMatchingDeployments (rules : List ModelPolicyRule)
    (deployments : List DeploymentConfig) : List ModelPolicyRule :=
  let models := availableModelKeys deployments
  let routes := availableRoutingKeys deployments
  rules.filterMap fun rule =>
    if isDropped models routes rule then none else some (restricted models routes rule)

@[simp] theorem matchesContext_restricted (models routes : List String)
    (rule : ModelPolicyRule) (context : LLMRequestContext) (center : Option UUID) :
    matchesContext (restricted models routes rule) context center =
      matchesContext rule context center := rfl

variable {rules : List ModelPolicyRule}

theorem mem_policyRulesMatchingDeployments {deployments : List DeploymentConfig}
    {cut : ModelPolicyRule} :
    cut ∈ policyRulesMatchingDeployments rules deployments ↔
      ∃ rule ∈ rules,
        isDropped (availableModelKeys deployments) (availableRoutingKeys deployments) rule =
          false ∧
        restricted (availableModelKeys deployments) (availableRoutingKeys deployments) rule =
          cut := by
  simp [policyRulesMatchingDeployments, List.mem_filterMap]

variable {policies : List ModelPolicyRule} {context : LLMRequestContext} {resolved : Option UUID}
    {rule : ModelPolicyRule}

theorem mem_matchedRules :
    rule ∈ matchedRules policies context resolved ↔
      rule ∈ policies ∧
        matchesContext rule context (costCenterId policies context resolved) = true := by
  rw [matchedRules, matchingPolicies, (List.perm_insertionSort _ _).mem_iff, List.mem_filter]

theorem matchesContext_costCenterId (mem : rule ∈ policies) :
    matchesContext rule context (costCenterId policies context resolved) =
      matchesContext rule context (context.costCenterId.or resolved) := by
  cases scope : rule.scopeType with
  | costCenter =>
    have needed : (policies.any fun policy => policy.scopeType == .costCenter) = true :=
      List.any_eq_true.mpr ⟨rule, mem, by simp [scope]⟩
    simp only [costCenterId, needed, if_true]
    cases context.costCenterId <;> simp
  | tenant | department | user | agent | channel | other _ => simp [matchesContext, scope]

theorem restricted_mem_matchedRules {deployments : List DeploymentConfig}
    (mem : rule ∈ matchedRules rules context resolved)
    (kept : isDropped (availableModelKeys deployments) (availableRoutingKeys deployments) rule =
      false) :
    restricted (availableModelKeys deployments) (availableRoutingKeys deployments) rule ∈
      matchedRules (policyRulesMatchingDeployments rules deployments) context resolved := by
  obtain ⟨listed, isMatch⟩ := mem_matchedRules.mp mem
  have survives := mem_policyRulesMatchingDeployments.mpr ⟨rule, listed, kept, rfl⟩
  rw [mem_matchedRules, matchesContext_costCenterId survives, matchesContext_restricted,
    ← matchesContext_costCenterId listed]
  exact ⟨survives, isMatch⟩

theorem isIn_filter (key : Option String) (listed available : List String) :
    isIn key (listed.filter available.contains) = (isIn key listed && isIn key available) := by
  cases key with
  | none => rfl
  | some k =>
    simp only [isIn, List.contains_eq_mem, List.mem_filter, decide_eq_true_eq,
      Bool.decide_and]

theorem isEmpty_eq_false_of_isIn {key : Option String} {keys : List String}
    (h : isIn key keys = true) : keys.isEmpty = false := by
  obtain ⟨k, _, mem⟩ := isIn_iff.mp h
  simpa [List.isEmpty_iff] using List.ne_nil_of_mem mem

variable {request : LLMChatRequest}

theorem restricted_targets {models routes : List String} (deny : rule.effect = .deny)
    (model : truthy request.modelKey = true → isIn request.modelKey models = true)
    (route : truthy request.routingKey = true → isIn request.routingKey routes = true)
    (targets : policyTargetsRequest rule request = true) :
    isDropped models routes rule = false ∧
      policyTargetsRequest (restricted models routes rule) request = true := by
  simp only [policyTargetsRequest] at targets
  split at targets
  · rename_i unlisted
    simp only [Bool.and_eq_true, List.isEmpty_iff] at unlisted
    simp [isDropped, policyTargetsRequest, restricted, deny, unlisted.1, unlisted.2]
  · simp only [Bool.or_eq_true, Bool.and_eq_true] at targets
    -- the listed key the request names survives the cut
    have named : (truthy request.modelKey = true ∧
          isIn request.modelKey (rule.allowedModels.filter models.contains) = true) ∨
        (truthy request.routingKey = true ∧
          isIn request.routingKey (rule.allowedRoutingKeys.filter routes.contains) = true) := by
      cases targets with
      | inl h => exact Or.inl ⟨h.1, by rw [isIn_filter, h.2, model h.1]; rfl⟩
      | inr h => exact Or.inr ⟨h.1, by rw [isIn_filter, h.2, route h.1]; rfl⟩
    refine ⟨?_, ?_⟩
    · cases named with
      | inl h => simp [isDropped, deny, restricted, isEmpty_eq_false_of_isIn h.2]
      | inr h => simp [isDropped, deny, restricted, isEmpty_eq_false_of_isIn h.2]
    · simp only [policyTargetsRequest, restricted, Bool.if_true_left, Bool.or_eq_true,
        Bool.and_eq_true]
      exact Or.inr named

theorem routed_available {router : ModelRouter} {isOpen : UUID → Bool} {d : DeploymentConfig}
    (allowed : (evaluate policies request context resolved).allowed = true)
    (h : Routed router isOpen request (evaluate policies request context resolved) d) :
    d.modelKey ∈ availableModelKeys router.deployments ∧
      d.routingKey ∈ availableRoutingKeys router.deployments := by
  have isMatch := ((routed_iff allowed router isOpen d).mp h).isMatch
  have active : d ∈ activeDeployments router.deployments := by
    rw [activeDeployments, List.mem_filter]
    exact ⟨isMatch.listed, by simp [isMatch.active]⟩
  exact ⟨List.mem_map_of_mem active, List.mem_map_of_mem active⟩

theorem firstDeny_stored {router : ModelRouter} {isOpen : UUID → Bool} {d : DeploymentConfig}
    (allowed : (evaluate (policyRulesMatchingDeployments rules router.deployments) request
      context resolved).allowed = true) (h : Routed router isOpen request (evaluate
      (policyRulesMatchingDeployments rules router.deployments) request context resolved) d) :
    firstDeny (matchedRules rules context resolved) request = none := by
  obtain ⟨model, route⟩ := routed_available allowed h
  obtain ⟨namedModel, namedRoute⟩ := h.named_keys allowed
  rw [firstDeny, List.find?_eq_none]
  intro rule mem targeted
  simp only [Bool.and_eq_true, beq_iff_eq] at targeted
  obtain ⟨deny, targets⟩ := targeted
  obtain ⟨kept, stillTargets⟩ := restricted_targets deny
    (fun named => isIn_iff.mpr ⟨_, namedModel named, model⟩)
    (fun named => isIn_iff.mpr ⟨_, namedRoute named, route⟩) targets
  have cut := not_targets_of_firstDeny (matchedRules_allowed allowed).1
    (restricted_mem_matchedRules mem kept) deny
  rw [stillTargets] at cut
  cases cut

def StoredRulesAllow (rules : List ModelPolicyRule) (context : LLMRequestContext)
    (resolved : Option UUID) (request : LLMChatRequest) (d : DeploymentConfig) : Prop :=
  (evaluate rules request context resolved).allowed = true ∧
    ∀ allow, firstAllow (matchedRules rules context resolved) request = some allow →
      WithinLists allow d

def WithinUnnamedLists (allow : ModelPolicyRule) (request : LLMChatRequest)
    (d : DeploymentConfig) : Prop :=
  (truthy request.modelKey = false → allow.allowedModels ≠ [] →
      d.modelKey ∈ allow.allowedModels) ∧
    (truthy request.routingKey = false → allow.allowedRoutingKeys ≠ [] →
      d.routingKey ∈ allow.allowedRoutingKeys)

def allowRetired : ModelPolicyRule :=
  { id := 4, name := "allow-retired", scopeType := .tenant, effect := .allow
    allowedModels := ["retired-model"], allowedRoutingKeys := ["default-chat"] }

end AgentHive.RuntimeRules
