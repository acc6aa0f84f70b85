import AgentHive.Llm.Schemas
import AgentHive.Numeric.Rounding
import Mathlib.Data.List.Infix

/-!
The pricing catalog: which rule prices a model key, and the cost of a number
of tokens under it.

`Decimal` values are rationals, and each operation rounds to the 28 digits of
the default context; `quantize` rounds to six places and raises where the
result would need more than 28 digits. Lower-casing is the catalog's own
function, so that nothing depends on a Unicode table.
-/

namespace AgentHive

open Numeric

inductive PricingMatchType
  | exact
  | withPrefix
  | contains
  | default
deriving DecidableEq

structure PricingRule where
  pattern : String
  inputPer1k : ℚ
  outputPer1k : ℚ
  matchType : PricingMatchType := .exact
  source : String := "agenthive_builtin"
deriving DecidableEq

def asciiLower (s : String) : String := String.ofList (s.toList.map Char.toLower)

structure ModelPricingCatalog where
  overrides : List PricingRule := []
  lower : String → String := asciiLower

namespace ModelPricingCatalog

def defaultInputPer1k : ℚ := 1 / 1000
def defaultOutputPer1k : ℚ := 2 / 1000

def rules : List PricingRule := [
  { pattern := "gpt-4o", inputPer1k := 25 / 10000, outputPer1k := 10 / 1000 },
  { pattern := "gpt-4o-mini", inputPer1k := 15 / 100000, outputPer1k := 6 / 10000 },
  { pattern := "claude-3-5-sonnet", inputPer1k := 3 / 1000, outputPer1k := 15 / 1000,
    matchType := .contains },
  { pattern := "claude-compatible", inputPer1k := 0, outputPer1k := 0 },
  { pattern := "gemini-1.5-pro", inputPer1k := 125 / 100000, outputPer1k := 5 / 1000 },
  { pattern := "mistral-large", inputPer1k := 2 / 1000, outputPer1k := 6 / 1000,
    matchType := .withPrefix },
  { pattern := "command-r-plus", inputPer1k := 3 / 1000, outputPer1k := 15 / 1000 },
  { pattern := "grok-2", inputPer1k := 2 / 1000, outputPer1k := 10 / 1000,
    matchType := .withPrefix },
  { pattern := "qwen-plus", inputPer1k := 28 / 100000, outputPer1k := 84 / 100000 },
  { pattern := "deepseek-v4-flash", inputPer1k := 14 / 100000, outputPer1k := 28 / 100000 },
  { pattern := "deepseek-chat", inputPer1k := 14 / 100000, outputPer1k := 28 / 100000 },
  { pattern := "moonshot-v1-128k", inputPer1k := 17 / 10000, outputPer1k := 17 / 10000 },
  { pattern := "mimo-chat", inputPer1k := defaultInputPer1k,
    outputPer1k := defaultOutputPer1k },
  { pattern := "abab6.5s-chat", inputPer1k := 2 / 10000, outputPer1k := 6 / 10000 },
  { pattern := "glm-4-plus", inputPer1k := 7 / 1000, outputPer1k := 7 / 1000 },
  { pattern := "doubao-pro", inputPer1k := 11 / 100000, outputPer1k := 22 / 100000,
    matchType := .withPrefix },
  { pattern := "ernie-4.0", inputPer1k := 17 / 10000, outputPer1k := 17 / 10000,
    matchType := .withPrefix },
  { pattern := "hunyuan-pro", inputPer1k := 4 / 1000, outputPer1k := 4 / 1000 },
  { pattern := "spark-max", inputPer1k := 35 / 10000, outputPer1k := 35 / 10000 },
  { pattern := "llama-3.1-70b", inputPer1k := 9 / 10000, outputPer1k := 9 / 10000,
    matchType := .contains },
  { pattern := "llama-v3p1-70b", inputPer1k := 9 / 10000, outputPer1k := 9 / 10000,
    matchType := .contains },
  { pattern := "DeepSeek-V3", inputPer1k := 14 / 100000, outputPer1k := 28 / 100000,
    matchType := .contains },
  { pattern := "llama3.1", inputPer1k := 0, outputPer1k := 0 },
  { pattern := "local-chat", inputPer1k := 0, outputPer1k := 0 },
  { pattern := "local-model", inputPer1k := 0, outputPer1k := 0 },
  { pattern := "openai/gpt-image-2", inputPer1k := 0, outputPer1k := 0 },
  { pattern := "google/nano-banana", inputPer1k := 0, outputPer1k := 0 },
  { pattern := "volcengine/seedance-2.0", inputPer1k := 0, outputPer1k := 0 },
  { pattern := "openai-compatible-image", inputPer1k := 0, outputPer1k := 0 }]

def defaultRule : PricingRule :=
  { pattern := "*", inputPer1k := defaultInputPer1k, outputPer1k := defaultOutputPer1k,
    matchType := .default, source := "agenthive_default" }

def lastSegment (text : String) : String :=
  String.ofList (text.toList.reverse.takeWhile (· != '/')).reverse

def ruleMatches (lower : String → String) (aliases : List String) (rule : PricingRule) : Bool :=
  let pattern := lower rule.pattern
  match rule.matchType with
  | .exact => aliases.contains pattern
  | .withPrefix => aliases.any fun a => pattern.toList.isPrefixOf a.toList
  | .contains => aliases.any fun a => decide (pattern.toList <:+: a.toList)
  | .default => false

variable (catalog : ModelPricingCatalog)

def priceRuleFor (modelKey : Option String) : PricingRule :=
  if truthy modelKey then
    let normalized := catalog.lower (modelKey.getD "")
    let aliases := [normalized, lastSegment normalized]
    ((catalog.overrides ++ rules).find? (ruleMatches catalog.lower aliases)).getD defaultRule
  else
    defaultRule

def pricesFor (modelKey : Option String) : ℚ × ℚ :=
  let rule := catalog.priceRuleFor modelKey
  (rule.inputPer1k, rule.outputPer1k)

/-- `cost.quantize(Decimal("0.000001"))` in the default context. -/
def quantize (cost : ℚ) : Except Exc ℚ :=
  let units := roundHalfEven (cost * 10 ^ 6)
  if units.natAbs < 10 ^ 28 then .ok (units / 10 ^ 6)
  else .error (.other "InvalidOperation" "quantize result has too many digits")

def decimal (q : ℚ) : ℚ := roundSignificant 28 q

def partCost (price : ℚ) (tokens : Int) : ℚ := decimal (decimal (tokens / 1000) * price)

def rawCost (prices : ℚ × ℚ) (inputTokens outputTokens : Int) : ℚ :=
  decimal (partCost prices.1 inputTokens + partCost prices.2 outputTokens)

def calculate (inputTokens outputTokens : Int) (modelKey : Option String) :
    Except Exc LLMUsageMetrics := do
  let cost ← quantize (rawCost (catalog.pricesFor modelKey) inputTokens outputTokens)
  LLMUsageMetrics.validate inputTokens outputTokens (inputTokens + outputTokens) cost

def joinedLength : List Message → Nat
  | [] => 0
  | [message] => message.content.length
  | message :: rest => message.content.length + 1 + joinedLength rest

def estimateInputTokens (request : LLMChatRequest) : Int :=
  max 1 (joinedLength request.messages / 4 : Nat)

def estimateOutputTokens (request : LLMChatRequest) : Int :=
  match request.maxTokens with
  | some n => if n = 0 then 512 else n
  | none => 512

def estimate (request : LLMChatRequest) : Except Exc LLMUsageMetrics :=
  catalog.calculate (estimateInputTokens request) (estimateOutputTokens request)
    request.modelKey

def recalculateUsage (usage : LLMUsageMetrics) (modelKey : Option String) :
    Except Exc LLMUsageMetrics :=
  catalog.calculate usage.inputTokens usage.outputTokens modelKey

theorem decimal_mono {p q : ℚ} (nonneg : 0 ≤ p) (h : p ≤ q) : decimal p ≤ decimal q :=
  roundSignificant_mono (by norm_num) nonneg h

theorem decimal_nonneg {q : ℚ} (h : 0 ≤ q) : 0 ≤ decimal q := roundSignificant_nonneg 28 h

theorem partCost_nonneg {price : ℚ} {tokens : Int} (priced : 0 ≤ price) (counted : 0 ≤ tokens) :
    0 ≤ partCost price tokens := by
  have count : (0 : ℚ) ≤ tokens := by exact_mod_cast counted
  exact decimal_nonneg (mul_nonneg (decimal_nonneg (div_nonneg count (by norm_num))) priced)

theorem partCost_mono {price : ℚ} {tokens more : Int} (priced : 0 ≤ price)
    (counted : 0 ≤ tokens) (h : tokens ≤ more) : partCost price tokens ≤ partCost price more := by
  have count : (0 : ℚ) ≤ tokens := by exact_mod_cast counted
  have thousands : (tokens : ℚ) / 1000 ≤ more / 1000 := by
    have cast : (tokens : ℚ) ≤ more := by exact_mod_cast h
    exact div_le_div_of_nonneg_right cast (by norm_num)
  have nonneg : (0 : ℚ) ≤ tokens / 1000 := div_nonneg count (by norm_num)
  refine decimal_mono (mul_nonneg (decimal_nonneg nonneg) priced) ?_
  exact mul_le_mul_of_nonneg_right (decimal_mono nonneg thousands) priced

variable {prices : ℚ × ℚ} {input output : Int}

theorem rawCost_nonneg (inputPriced : 0 ≤ prices.1) (outputPriced : 0 ≤ prices.2)
    (inputs : 0 ≤ input) (outputs : 0 ≤ output) : 0 ≤ rawCost prices input output :=
  decimal_nonneg (add_nonneg (partCost_nonneg inputPriced inputs)
    (partCost_nonneg outputPriced outputs))

theorem rawCost_mono {moreInput moreOutput : Int} (inputPriced : 0 ≤ prices.1)
    (outputPriced : 0 ≤ prices.2) (inputs : 0 ≤ input) (outputs : 0 ≤ output)
    (moreInputs : input ≤ moreInput) (moreOutputs : output ≤ moreOutput) :
    rawCost prices input output ≤ rawCost prices moreInput moreOutput :=
  decimal_mono (add_nonneg (partCost_nonneg inputPriced inputs)
    (partCost_nonneg outputPriced outputs))
    (add_le_add (partCost_mono inputPriced inputs moreInputs)
      (partCost_mono outputPriced outputs moreOutputs))

/-- The cost in millionths, as `quantize` rounds it. -/
def costUnits (prices : ℚ × ℚ) (input output : Int) : Int :=
  roundHalfEven (rawCost prices input output * 10 ^ 6)

theorem costUnits_nonneg (inputPriced : 0 ≤ prices.1) (outputPriced : 0 ≤ prices.2)
    (inputs : 0 ≤ input) (outputs : 0 ≤ output) : 0 ≤ costUnits prices input output :=
  roundHalfEven_nonneg
    (mul_nonneg (rawCost_nonneg inputPriced outputPriced inputs outputs) (by norm_num))

theorem costUnits_mono {moreInput moreOutput : Int} (inputPriced : 0 ≤ prices.1)
    (outputPriced : 0 ≤ prices.2) (inputs : 0 ≤ input) (outputs : 0 ≤ output)
    (moreInputs : input ≤ moreInput) (moreOutputs : output ≤ moreOutput) :
    costUnits prices input output ≤ costUnits prices moreInput moreOutput :=
  roundHalfEven_mono (mul_le_mul_of_nonneg_right
    (rawCost_mono inputPriced outputPriced inputs outputs moreInputs moreOutputs) (by norm_num))

theorem calculate_ok {catalog : ModelPricingCatalog} {key : Option String} {usage : LLMUsageMetrics}
    (h : catalog.calculate input output key = .ok usage) :
    0 ≤ input ∧ 0 ≤ output ∧ (usage.inputTokens : Int) = input ∧
      (usage.outputTokens : Int) = output ∧ (usage.totalTokens : Int) = input + output ∧
      usage.costUsd = costUnits (catalog.pricesFor key) input output / 10 ^ 6 ∧
      (costUnits (catalog.pricesFor key) input output).natAbs < 10 ^ 28 := by
  simp only [calculate, quantize, LLMUsageMetrics.validate, bind, Except.bind] at h
  split at h
  · cases h
  · rename_i cost rounded
    split at rounded
    · rename_i short
      cases rounded
      split at h
      · rename_i signs
        cases h
        simp only [Int.toNat_of_nonneg signs.1, Int.toNat_of_nonneg signs.2.1,
          Int.toNat_of_nonneg signs.2.2.1]
        exact ⟨signs.1, signs.2.1, trivial, trivial, trivial, rfl, short⟩
      · cases h
    · cases rounded

theorem calculate_of_short {catalog : ModelPricingCatalog} {key : Option String}
    (inputs : 0 ≤ input) (outputs : 0 ≤ output)
    (units : 0 ≤ costUnits (catalog.pricesFor key) input output)
    (short : costUnits (catalog.pricesFor key) input output < 10 ^ 28) :
    ∃ usage, catalog.calculate input output key = .ok usage ∧
      usage.costUsd = costUnits (catalog.pricesFor key) input output / 10 ^ 6 := by
  have digits : (costUnits (catalog.pricesFor key) input output).natAbs < 10 ^ 28 := by omega
  have cost : (0 : ℚ) ≤ (costUnits (catalog.pricesFor key) input output : ℚ) / 10 ^ 6 :=
    div_nonneg (by exact_mod_cast units) (by norm_num)
  simp only [costUnits] at digits cost
  simp only [calculate, quantize, bind, Except.bind, digits, if_true, LLMUsageMetrics.validate,
    inputs, outputs, add_nonneg inputs outputs, cost, and_self, dite_true]
  exact ⟨_, rfl, rfl⟩

theorem priceRuleFor_of_not_truthy {key : Option String} (h : truthy key = false) :
    catalog.priceRuleFor key = defaultRule := by
  simp [priceRuleFor, h]

end ModelPricingCatalog
end AgentHive
