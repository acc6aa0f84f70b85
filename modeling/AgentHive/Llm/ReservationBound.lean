import AgentHive.Llm.PolicyBinding

/-!
How the cost reserved before a call bounds the cost charged after it.
-/

namespace AgentHive

namespace ModelPricingCatalog

def NonnegativePrices (catalog : ModelPricingCatalog) : Prop :=
  ∀ rule ∈ catalog.overrides, 0 ≤ rule.inputPer1k ∧ 0 ≤ rule.outputPer1k

theorem rules_nonneg : ∀ rule ∈ rules, 0 ≤ rule.inputPer1k ∧ 0 ≤ rule.outputPer1k := by
  decide +kernel

theorem defaultRule_nonneg : 0 ≤ defaultRule.inputPer1k ∧ 0 ≤ defaultRule.outputPer1k := by
  decide +kernel

theorem pricesFor_nonneg {catalog : ModelPricingCatalog} (nonneg : catalog.NonnegativePrices)
    (key : Option String) : 0 ≤ (catalog.pricesFor key).1 ∧ 0 ≤ (catalog.pricesFor key).2 := by
  simp only [pricesFor, priceRuleFor]
  split
  · cases found : (catalog.overrides ++ rules).find? (ruleMatches catalog.lower
      [catalog.lower (key.getD ""), lastSegment (catalog.lower (key.getD ""))]) with
    | none => exact defaultRule_nonneg
    | some rule =>
      cases List.mem_append.mp (List.mem_of_find?_eq_some found) with
      | inl override => exact nonneg rule override
      | inr builtin => exact rules_nonneg rule builtin
  · exact defaultRule_nonneg

/-- A call priced by the key that stays within the estimated tokens costs no
more than was estimated. -/
def Covers (catalog : ModelPricingCatalog) (reserved : LLMUsageMetrics) (key : String) : Prop :=
  ∀ input output : Nat, input ≤ reserved.inputTokens → output ≤ reserved.outputTokens →
    ∃ used, catalog.calculate input output (some key) = .ok used ∧
      used.costUsd ≤ reserved.costUsd

theorem covers_iff {catalog : ModelPricingCatalog} (nonneg : catalog.NonnegativePrices)
    {request : LLMChatRequest} {reserved : LLMUsageMetrics}
    (estimated : catalog.estimate request = .ok reserved) (key : String) :
    catalog.Covers reserved key ↔
      costUnits (catalog.pricesFor (some key)) (estimateInputTokens request)
          (estimateOutputTokens request) ≤
        costUnits (catalog.pricesFor request.modelKey) (estimateInputTokens request)
          (estimateOutputTokens request) := by
  obtain ⟨inputs, outputs, input, output, _, cost, short⟩ := calculate_ok estimated
  obtain ⟨inputPriced, outputPriced⟩ := pricesFor_nonneg nonneg (some key)
  have reservedUnits := costUnits_nonneg (pricesFor_nonneg nonneg request.modelKey).1
    (pricesFor_nonneg nonneg request.modelKey).2 inputs outputs
  constructor
  · intro covers
    obtain ⟨used, calculated, within⟩ := covers reserved.inputTokens reserved.outputTokens
      le_rfl le_rfl
    rw [input, output] at calculated
    obtain ⟨_, _, _, _, _, usedCost, _⟩ := calculate_ok calculated
    rw [usedCost, cost, div_le_div_iff_of_pos_right (by norm_num)] at within
    exact_mod_cast within
  · intro units usedInput usedOutput fewerInputs fewerOutputs
    have lessInput : (usedInput : Int) ≤ estimateInputTokens request := by omega
    have lessOutput : (usedOutput : Int) ≤ estimateOutputTokens request := by omega
    have fewer := costUnits_mono inputPriced outputPriced (Int.natCast_nonneg usedInput)
      (Int.natCast_nonneg usedOutput) lessInput lessOutput
    have used := costUnits_nonneg inputPriced outputPriced (Int.natCast_nonneg usedInput)
      (Int.natCast_nonneg usedOutput)
    obtain ⟨usage, calculated, usedCost⟩ := calculate_of_short (Int.natCast_nonneg usedInput)
      (Int.natCast_nonneg usedOutput) used (by omega)
    refine ⟨usage, calculated, ?_⟩
    rw [usedCost, cost, div_le_div_iff_of_pos_right (by norm_num)]
    exact_mod_cast fewer.trans units

end ModelPricingCatalog

open ModelPolicyEngine ModelPricingCatalog

/-- The reservation covers a planned route exactly when a model is named or
defaulted before the estimate, or the deployment's price for the reserved
tokens does not exceed the price of the default rule. -/
theorem reservation_covers_route_iff (catalog : ModelPricingCatalog)
    (policies : List ModelPolicyRule) (context : LLMRequestContext) (resolved : Option UUID)
    (request : LLMChatRequest) (router : ModelRouter) (isOpen : UUID → Bool)
    (d : DeploymentConfig) (reserved : LLMUsageMetrics) (nonneg : catalog.NonnegativePrices)
    (allowed : (evaluate policies request context resolved).allowed = true)
    (routed : Routed router isOpen request (evaluate policies request context resolved) d)
    (estimated : catalog.estimate
      (effectiveRequest request (evaluate policies request context resolved)) = .ok reserved) :
    let sent := effectiveRequest request (evaluate policies request context resolved)
    catalog.Covers reserved d.modelKey ↔
      truthy (completedModelKey (matchedRules policies context resolved) request) = true ∨
        costUnits (catalog.pricesFor (some d.modelKey)) (estimateInputTokens sent)
            (estimateOutputTokens sent) ≤
          costUnits (defaultRule.inputPer1k, defaultRule.outputPer1k) (estimateInputTokens sent)
            (estimateOutputTokens sent) := by
  intro sent
  have sentModel : sent.modelKey =
      completedModelKey (matchedRules policies context resolved) request := by
    have decided := evaluate_eq allowed
    rw [decided] at allowed
    obtain ⟨model, _, sentModel, _⟩ := decideMatched_keys allowed
    simp only [sent, decided, sentModel, model, matchedRules]
  have isMatch := ((routed_iff allowed router isOpen d).mp routed).isMatch
  rw [covers_iff nonneg estimated, sentModel]
  cases named : truthy (completedModelKey (matchedRules policies context resolved) request) with
  | true =>
    rw [← isMatch.model named]
    simp
  | false =>
    simp only [pricesFor, priceRuleFor_of_not_truthy catalog named, Bool.false_eq_true,
      false_or]
    rfl

def dearRouter : ModelRouter :=
  { providers := [litellmProvider none false]
    deployments := [{ defaultChatDeployment none false with modelKey := "gpt-4o" }] }

theorem default_estimate_is_exceeded :
    let decision := evaluate [] helloRequest tenantContext none
    let dear := { defaultChatDeployment none false with modelKey := "gpt-4o" }
    decision.allowed = true ∧ Routed dearRouter (fun _ => false) helloRequest decision dear ∧
      ∃ reserved, ({} : ModelPricingCatalog).estimate (effectiveRequest helloRequest decision) =
          .ok reserved ∧
        ¬ ({} : ModelPricingCatalog).Covers reserved dear.modelKey := by
  have priced : ({} : ModelPricingCatalog).NonnegativePrices := by
    intro rule mem
    cases mem
  obtain ⟨reserved, estimated, _⟩ : ∃ reserved, ({} : ModelPricingCatalog).estimate
      (effectiveRequest helloRequest (evaluate [] helloRequest tenantContext none)) =
        .ok reserved ∧ reserved.costUsd = costUnits (1 / 1000, 2 / 1000) 1 512 / 10 ^ 6 :=
    calculate_of_short (by decide) (by decide) (by decide +kernel) (by decide +kernel)
  refine ⟨by decide, ⟨_, rfl, _, List.mem_singleton.mpr rfl, rfl⟩, _, estimated, ?_⟩
  rw [covers_iff priced estimated]
  decide +kernel

theorem default_model_is_covered :
    ∃ reserved, ({} : ModelPricingCatalog).estimate (effectiveRequest helloRequest
        (evaluate [allowMini] helloRequest tenantContext none)) = .ok reserved ∧
      ({} : ModelPricingCatalog).Covers reserved "gpt-4o-mini" := by
  have priced : ({} : ModelPricingCatalog).NonnegativePrices := by
    intro rule mem
    cases mem
  obtain ⟨reserved, estimated, _⟩ : ∃ reserved, ({} : ModelPricingCatalog).estimate
      (effectiveRequest helloRequest (evaluate [allowMini] helloRequest tenantContext none)) =
        .ok reserved ∧ reserved.costUsd = costUnits (15 / 100000, 6 / 10000) 1 512 / 10 ^ 6 :=
    calculate_of_short (by decide) (by decide) (by decide +kernel) (by decide +kernel)
  refine ⟨reserved, estimated, ?_⟩
  exact (reservation_covers_route_iff {} [allowMini] tenantContext none helloRequest defaultRouter
    (fun _ => false) (defaultChatDeployment none false) reserved priced (by decide)
    ⟨_, rfl, _, List.mem_singleton.mpr rfl, rfl⟩ estimated).mpr (Or.inl (by decide))

end AgentHive
