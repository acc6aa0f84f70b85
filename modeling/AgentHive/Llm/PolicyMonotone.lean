import AgentHive.Llm.PolicyBinding
import AgentHive.Store.StableSort

/-!
What one more deny rule does to a decision.
-/

namespace AgentHive.ModelPolicyEngine

variable {before after policies : List ModelPolicyRule} {rule : ModelPolicyRule}
variable {request : LLMChatRequest} {context : LLMRequestContext} {resolved : Option UUID}

instance : Std.Total keyLe where
  total p q := by
    unfold keyLe
    have names := String.le_total p.name q.name
    grind

instance : IsTrans ModelPolicyRule keyLe where
  trans p q r := by
    unfold keyLe
    intro first second
    have names : p.name ≤ q.name → q.name ≤ r.name → p.name ≤ r.name := String.le_trans
    grind

theorem allows_matching (policies : List ModelPolicyRule) (context : LLMRequestContext)
    (costCenter : Option UUID) :
    (matchingPolicies policies context costCenter).filter (fun policy => policy.effect == .allow) =
      ((policies.filter fun policy => policy.effect == .allow).filter fun policy =>
        matchesContext policy context costCenter).insertionSort keyLe := by
  rw [matchingPolicies, filter_insertionSort, List.filter_comm]

theorem firstAllow_eq (matched : List ModelPolicyRule) :
    firstAllow matched request =
      (matched.filter fun policy => policy.effect == .allow).find? fun policy =>
        policyAllowsRequest policy request := by
  rw [firstAllow, List.find?_filter]
  congr 1
  funext policy
  rw [Bool.decide_and, Bool.decide_eq_true, Bool.decide_eq_true]

theorem firstAllow_insert (deny : rule.effect = .deny) (costCenter : Option UUID) :
    firstAllow (matchingPolicies (before ++ rule :: after) context costCenter) request =
      firstAllow (matchingPolicies (before ++ after) context costCenter) request := by
  have skipped : (rule.effect == PolicyEffect.allow) = false := by rw [deny]; rfl
  have same : ((before ++ rule :: after).filter fun policy => policy.effect == .allow) =
      (before ++ after).filter fun policy => policy.effect == .allow := by
    rw [List.filter_append, List.filter_append, List.filter_cons, skipped]
    rfl
  rw [firstAllow_eq, firstAllow_eq, allows_matching, allows_matching, same]

variable {costCenter : Option UUID}

theorem mem_matchingPolicies {policy : ModelPolicyRule} :
    policy ∈ matchingPolicies policies context costCenter ↔
      policy ∈ policies ∧ matchesContext policy context costCenter = true := by
  rw [matchingPolicies, List.mem_insertionSort, List.mem_filter]

theorem firstDeny_insert
    (fine : firstDeny (matchingPolicies (before ++ rule :: after) context costCenter) request =
      none) : firstDeny (matchingPolicies (before ++ after) context costCenter) request = none := by
  unfold firstDeny at fine ⊢
  rw [List.find?_eq_none] at fine ⊢
  intro policy mem
  rw [mem_matchingPolicies] at mem
  refine fine policy (mem_matchingPolicies.mpr ⟨?_, mem.2⟩)
  simp only [List.mem_append, List.mem_cons] at mem ⊢
  tauto

theorem matching_insert_of_not (costCenter : Option UUID)
    (other : ¬ matchesContext rule context costCenter = true) :
    matchingPolicies (before ++ rule :: after) context costCenter =
      matchingPolicies (before ++ after) context costCenter := by
  rw [matchingPolicies, matchingPolicies, List.filter_append, List.filter_append,
    List.filter_cons, if_neg other]

theorem firstDeny_insert_of_not (rule : ModelPolicyRule)
    (untargeted : policyTargetsRequest rule request = false)
    (fine : firstDeny (matchingPolicies (before ++ after) context costCenter) request = none) :
    firstDeny (matchingPolicies (before ++ rule :: after) context costCenter) request = none := by
  unfold firstDeny at fine ⊢
  rw [List.find?_eq_none] at fine ⊢
  intro policy mem
  rw [mem_matchingPolicies] at mem
  by_cases same : policy = rule
  · simp [same, untargeted]
  · refine fine policy (mem_matchingPolicies.mpr ⟨?_, mem.2⟩)
    simp only [List.mem_append, List.mem_cons] at mem ⊢
    tauto

theorem decide_of_allow {matched : List ModelPolicyRule} {allow : ModelPolicyRule}
    (fine : firstDeny matched request = none) (admits : firstAllow matched request = some allow) :
    decideMatched matched request context = allowDecision allow request context := by
  simp only [decideMatched, fine, admits]

theorem denied_of_unallowed {matched : List ModelPolicyRule} (nonempty : matched ≠ [])
    (none : firstAllow matched request = none) :
    (decideMatched matched request context).allowed = false := by
  unfold decideMatched
  cases firstDeny matched request with
  | some rule => rfl
  | none => simp [none, nonempty]

theorem decide_insert (before after : List ModelPolicyRule) (request : LLMChatRequest)
    (context : LLMRequestContext) (deny : rule.effect = .deny) (costCenter : Option UUID) :
    let old := decideMatched (matchingPolicies (before ++ after) context costCenter) request context
    let new := decideMatched (matchingPolicies (before ++ rule :: after) context costCenter) request
      context
    (new.allowed = false ∨ new = old) ∧
      (old.allowed = true → new.allowed = false → matchesContext rule context costCenter = true ∧
        (policyTargetsRequest rule request = true ∨
          matchingPolicies (before ++ after) context costCenter = [])) := by
  intro old new
  by_cases matched : matchesContext rule context costCenter = true
  · have inside : matchingPolicies (before ++ rule :: after) context costCenter ≠ [] := by
      have mem : rule ∈ matchingPolicies (before ++ rule :: after) context costCenter :=
        mem_matchingPolicies.mpr ⟨List.mem_append_right _ (.head _), matched⟩
      exact List.ne_nil_of_mem mem
    constructor
    · cases admits : firstAllow (matchingPolicies (before ++ after) context costCenter) request with
      | none =>
        rw [← firstAllow_insert deny] at admits
        exact .inl (denied_of_unallowed inside admits)
      | some allow =>
        cases denies : firstDeny (matchingPolicies (before ++ rule :: after) context costCenter)
            request with
        | some denier =>
          refine .inl ?_
          simp only [new, decideMatched, denies]
        | none =>
          have admits' := admits
          rw [← firstAllow_insert deny] at admits'
          refine .inr ?_
          exact (decide_of_allow denies admits').trans
            (decide_of_allow (firstDeny_insert denies) admits).symm
    · intro approved withdrawn
      refine ⟨matched, ?_⟩
      by_contra neither
      obtain ⟨untargeted, nonempty⟩ := not_or.mp neither
      obtain ⟨fine, admitted⟩ := decideMatched_allowed approved
      obtain ⟨allow, admits⟩ := Option.isSome_iff_exists.mp (admitted.resolve_right nonempty)
      have fine' := firstDeny_insert_of_not rule (Bool.eq_false_iff.mpr untargeted) fine
      have admits' := admits
      rw [← firstAllow_insert deny] at admits'
      have same : new = old := (decide_of_allow fine' admits').trans
        (decide_of_allow fine admits).symm
      rw [same, approved] at withdrawn
      cases withdrawn
  · have same : new = old := by
      simp only [new, old, matching_insert_of_not costCenter matched]
    refine ⟨.inr same, fun approved withdrawn => ?_⟩
    rw [same, approved] at withdrawn
    cases withdrawn

/-- One more deny rule, wherever it stands, makes a denial of a decision or leaves it as it is; it
takes an approval away only where it targets the request, or where no other rule matched. -/
theorem deny_rule_monotone (before after : List ModelPolicyRule) (rule : ModelPolicyRule)
    (deny : rule.effect = .deny) (request : LLMChatRequest) (context : LLMRequestContext)
    (resolved : Option UUID) (known : context.costCenterId.isSome = true) :
    let old := evaluate (before ++ after) request context resolved
    let new := evaluate (before ++ rule :: after) request context resolved
    (new.allowed = false ∨ new = old) ∧ (old.allowed = false → new.allowed = false) ∧
      (old.allowed = true → new.allowed = false →
        matchesContext rule context context.costCenterId = true ∧
          (policyTargetsRequest rule request = true ∨
            matchingPolicies (before ++ after) context context.costCenterId = [])) := by
  intro old new
  have centers : ∀ policies, costCenterId policies context resolved = context.costCenterId :=
    fun policies => if_pos known
  by_cases empty : request.messages.isEmpty = true
  · have same : new = old := by simp only [new, old, evaluate, if_pos empty]
    have denied : old.allowed = false := by simp only [old, evaluate, if_pos empty]
    refine ⟨.inr same, fun refused => by rw [same, refused], fun approved => ?_⟩
    rw [denied] at approved
    cases approved
  · have olds : old = decideMatched (matchingPolicies (before ++ after) context
        context.costCenterId) request context := by
      simp only [old, evaluate, if_neg empty, centers]
    have news : new = decideMatched (matchingPolicies (before ++ rule :: after) context
        context.costCenterId) request context := by
      simp only [new, evaluate, if_neg empty, centers]
    obtain ⟨either, withdrawn⟩ := decide_insert before after request context deny
      context.costCenterId
    rw [← olds, ← news] at either withdrawn
    refine ⟨either, fun refused => ?_, withdrawn⟩
    cases either with
    | inl denied => exact denied
    | inr same => rw [same, refused]

def sampleContext : LLMRequestContext where
  tenantId := 1
  costCenterId := some 2
  requestId := "r"

def sampleRequest : LLMChatRequest where
  messages := [{ role := "user", content := "hello" }]

def tenantDeny : ModelPolicyRule where
  id := 3
  name := "freeze"
  scopeType := .tenant
  effect := .deny

theorem tenant_deny_withdraws :
    (evaluate [tenantDeny] sampleRequest sampleContext none).allowed = false ∨
      evaluate [tenantDeny] sampleRequest sampleContext none =
        evaluate [] sampleRequest sampleContext none :=
  (deny_rule_monotone [] [] tenantDeny rfl sampleRequest sampleContext none rfl).1

end AgentHive.ModelPolicyEngine
