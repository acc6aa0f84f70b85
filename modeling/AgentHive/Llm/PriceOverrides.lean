import AgentHive.Llm.Pricing
import AgentHive.Store.OrderedDict
import Mathlib.Data.List.Sort
import Mathlib.Data.List.TakeWhile

/-!
The prices an administrator has entered, as the gateway reads them: of the
rows in effect the latest one of each model, all models in one list that the
catalog searches for a key and for what follows its last slash.
-/

namespace AgentHive.PriceTables

open ModelPricingCatalog (lastSegment priceRuleFor ruleMatches)

structure LLMModel where
  id : UUID
  modelKey : String
deriving DecidableEq

structure LLMModelPrice where
  modelId : UUID
  currency : String := "USD"
  inputPer1kTokens : ℚ
  outputPer1kTokens : ℚ
  effectiveFrom : Int
  effectiveTo : Option Int := none
  createdAt : Int
deriving DecidableEq

structure Tables where
  models : List LLMModel
  prices : List LLMModelPrice

abbrev PricedModel := LLMModel × LLMModelPrice

def joined (tables : Tables) : List PricedModel :=
  tables.models.flatMap fun model =>
    (tables.prices.filter fun price => price.modelId == model.id).map fun price => (model, price)

def isEffective (now : Int) (row : PricedModel) : Bool :=
  row.2.currency == "USD" && row.2.effectiveFrom ≤ now &&
    row.2.effectiveTo.all fun effectiveTo => now < effectiveTo

def NotEarlier (row other : PricedModel) : Prop :=
  other.2.effectiveFrom < row.2.effectiveFrom ∨
    other.2.effectiveFrom = row.2.effectiveFrom ∧ other.2.createdAt ≤ row.2.createdAt

instance : DecidableRel NotEarlier := fun row other =>
  inferInstanceAs (Decidable (other.2.effectiveFrom < row.2.effectiveFrom ∨
    other.2.effectiveFrom = row.2.effectiveFrom ∧ other.2.createdAt ≤ row.2.createdAt))

theorem notEarlier_total (row other : PricedModel) :
    NotEarlier row other ∨ NotEarlier other row := by
  unfold NotEarlier
  omega

theorem notEarlier_trans (row other third : PricedModel) (first : NotEarlier row other)
    (second : NotEarlier other third) : NotEarlier row third := by
  unfold NotEarlier at first second ⊢
  omega

instance : Std.Total NotEarlier := ⟨notEarlier_total⟩

instance : IsTrans PricedModel NotEarlier := ⟨notEarlier_trans⟩

def effectiveRows (now : Int) (tables : Tables) : List PricedModel :=
  ((joined tables).filter (isEffective now)).insertionSort NotEarlier

def databaseRule (row : PricedModel) : PricingRule :=
  { pattern := row.1.modelKey
    inputPer1k := row.2.inputPer1kTokens
    outputPer1k := row.2.outputPer1kTokens
    source := "database" }

def addRule (rules : OrderedDict String PricingRule) (row : PricedModel) :
    OrderedDict String PricingRule :=
  if row.1.modelKey ∈ rules.keys then rules else rules.set row.1.modelKey (databaseRule row)

def runtimePricingRules (now : Int) (tables : Tables) : List PricingRule :=
  ((effectiveRows now tables).foldl addRule .empty).entries.map Prod.snd

def latestRow (now : Int) (tables : Tables) (modelKey : String) : Option PricedModel :=
  (effectiveRows now tables).find? fun row => row.1.modelKey == modelKey

variable {tables : Tables} {row : PricedModel}

theorem mem_effectiveRows {now : Int} :
    row ∈ effectiveRows now tables ↔ row ∈ joined tables ∧ isEffective now row = true := by
  rw [effectiveRows, List.mem_insertionSort, List.mem_filter]

variable {modelKey : String}

theorem latestRow_latest {now : Int} (latest : latestRow now tables modelKey = some row) :
    row ∈ joined tables ∧ isEffective now row = true ∧ row.1.modelKey = modelKey ∧
      ∀ other ∈ joined tables, isEffective now other = true → other.1.modelKey = modelKey →
        NotEarlier row other := by
  obtain ⟨own, front, rest, rows, before⟩ := List.find?_eq_some_iff_append.mp latest
  have listed := mem_effectiveRows.mp (List.mem_of_find?_eq_some latest)
  refine ⟨listed.1, listed.2, by simpa using own, ?_⟩
  intro other mem effective same
  have sorted := List.pairwise_insertionSort NotEarlier
    ((joined tables).filter (isEffective now))
  have there := mem_effectiveRows.mpr ⟨mem, effective⟩
  rw [effectiveRows] at rows
  rw [rows] at sorted
  rw [effectiveRows, rows, List.mem_append, List.mem_cons] at there
  obtain earlier | rfl | later := there
  · have skipped := before other earlier
    simp [same] at skipped
  · exact .inr ⟨rfl, Int.le_refl _⟩
  · exact (List.pairwise_cons.mp (List.pairwise_append.mp sorted).2.1).1 other later

def FromDatabase (rules : OrderedDict String PricingRule) : Prop :=
  ∀ entry ∈ rules.entries, entry.2.pattern = entry.1 ∧ entry.2.matchType = .exact

theorem addRule_fromDatabase {rules : OrderedDict String PricingRule}
    (database : FromDatabase rules) (row : PricedModel) : FromDatabase (addRule rules row) := by
  rw [addRule]
  split
  · exact database
  · rename_i fresh
    rw [FromDatabase, OrderedDict.entries_set, if_neg fresh]
    exact List.forall_mem_append.mpr ⟨database, List.forall_mem_singleton.mpr ⟨rfl, rfl⟩⟩

def isFound (lower : String → String) (aliases : List String) (row : PricedModel) : Bool :=
  aliases.contains (lower row.1.modelKey)

theorem ruleMatches_exact (lower : String → String) (aliases : List String) {rule : PricingRule}
    (exact_ : rule.matchType = .exact) :
    ruleMatches lower aliases rule = aliases.contains (lower rule.pattern) := by
  rw [ruleMatches, exact_]

theorem find?_foldl_addRule (lower : String → String) (aliases : List String)
    (rows : List PricedModel) (rules : OrderedDict String PricingRule)
    (database : FromDatabase rules) :
    ((rows.foldl addRule rules).entries.map Prod.snd).find?
        (ruleMatches lower aliases) =
      ((rules.entries.map Prod.snd).find? (ruleMatches lower aliases)).or
        ((rows.find? (isFound lower aliases)).map databaseRule) := by
  induction rows generalizing rules with
  | nil => simp
  | cons row rows ih =>
    rw [List.foldl_cons, ih _ (addRule_fromDatabase database row), List.find?_cons]
    by_cases listed : row.1.modelKey ∈ rules.keys
    · rw [addRule, if_pos listed]
      cases found : isFound lower aliases row with
      | false => rfl
      | true =>
        -- the rule of an earlier row of the model is found
        obtain ⟨entry, mem, same⟩ := List.mem_map.mp listed
        obtain ⟨pattern, exact_⟩ := database entry mem
        have some_ : ((rules.entries.map Prod.snd).find?
            (ruleMatches lower aliases)).isSome = true := by
          rw [List.find?_isSome]
          refine ⟨entry.2, List.mem_map.mpr ⟨entry, mem, rfl⟩, ?_⟩
          rw [ruleMatches_exact lower aliases exact_, pattern, same]
          exact found
        obtain ⟨rule, first⟩ := Option.isSome_iff_exists.mp some_
        simp [first]
    · rw [addRule, if_neg listed, OrderedDict.entries_set, if_neg listed, List.map_append,
        List.find?_append, Option.or_assoc]
      have own : ruleMatches lower aliases (databaseRule row) =
          isFound lower aliases row :=
        ruleMatches_exact lower aliases rfl
      cases found : isFound lower aliases row <;>
        simp [own, found]

theorem find?_runtimePricingRules (lower : String → String) (aliases : List String) (now : Int)
    (tables : Tables) :
    (runtimePricingRules now tables).find? (ruleMatches lower aliases) =
      ((effectiveRows now tables).find? (isFound lower aliases)).map databaseRule := by
  rw [runtimePricingRules, find?_foldl_addRule lower aliases _ _ (by simp [FromDatabase,
    OrderedDict.empty])]
  rfl

def catalog (lower : String → String) (now : Int) (tables : Tables) : ModelPricingCatalog :=
  { overrides := runtimePricingRules now tables, lower := lower }

def aliases (lower : String → String) (modelKey : String) : List String :=
  [lower modelKey, lastSegment (lower modelKey)]

def listedBefore (now : Int) (tables : Tables) (modelKey : String) : List PricedModel :=
  (effectiveRows now tables).takeWhile fun row => row.1.modelKey != modelKey

theorem effectiveRows_split {now : Int} (latest : latestRow now tables modelKey = some row) :
    ∃ rest, effectiveRows now tables = listedBefore now tables modelKey ++ row :: rest := by
  obtain ⟨own, front, rest, rows, before⟩ := List.find?_eq_some_iff_append.mp latest
  refine ⟨rest, ?_⟩
  have others : ∀ a ∈ front, (a.1.modelKey != modelKey) = true := fun a mem => before a mem
  have listed : listedBefore now tables modelKey = front := by
    rw [listedBefore, rows, List.takeWhile_append_of_pos others,
      List.takeWhile_cons_of_neg (by simpa using own), List.append_nil]
  rw [listed, rows]

theorem listedBefore_other {now : Int} (mem : row ∈ listedBefore now tables modelKey) :
    row.1.modelKey ≠ modelKey := by
  have other := List.mem_takeWhile_imp mem
  simpa using other

theorem find?_isFound_iff {lower : String → String} {now : Int}
    (latest : latestRow now tables modelKey = some row) :
    ((effectiveRows now tables).find? (isFound lower (aliases lower modelKey))).map databaseRule =
        some (databaseRule row) ↔
      ∀ other ∈ listedBefore now tables modelKey,
        isFound lower (aliases lower modelKey) other = false := by
  obtain ⟨rest, rows⟩ := effectiveRows_split latest
  have own : row.1.modelKey = modelKey := (latestRow_latest latest).2.2.1
  have found : isFound lower (aliases lower modelKey) row = true := by
    simp [isFound, aliases, own]
  rw [rows, List.find?_append, List.find?_cons_of_pos found]
  cases front : (listedBefore now tables modelKey).find?
      (isFound lower (aliases lower modelKey)) with
  | none =>
    refine iff_of_true rfl ?_
    simpa using front
  | some other =>
    have mem := List.mem_of_find?_eq_some front
    refine iff_of_false ?_ ?_
    · intro same
      have key : other.1.modelKey = row.1.modelKey :=
        congrArg PricingRule.pattern (Option.some.inj same)
      exact listedBefore_other mem (key.trans own)
    · intro none
      have hit := List.find?_some front
      rw [none other mem] at hit
      cases hit

/-- A model is priced by its own latest row exactly when its key is not empty
and no row of another model listed before is found under it. -/
theorem own_price_wins_iff {lower : String → String} {now : Int} {tables : Tables}
    {modelKey : String} {row : PricedModel} (latest : latestRow now tables modelKey = some row) :
    (catalog lower now tables).priceRuleFor (some modelKey) = databaseRule row ↔
      modelKey ≠ "" ∧ ∀ other ∈ listedBefore now tables modelKey,
        lower other.1.modelKey ∉ aliases lower modelKey := by
  have before : (∀ other ∈ listedBefore now tables modelKey,
        lower other.1.modelKey ∉ aliases lower modelKey) ↔
      ∀ other ∈ listedBefore now tables modelKey,
        isFound lower (aliases lower modelKey) other = false := by
    simp [isFound]
  rw [before, ← find?_isFound_iff latest]
  by_cases named : modelKey = ""
  · subst named
    refine iff_of_false ?_ fun h => h.1 rfl
    intro same
    rw [ModelPricingCatalog.priceRuleFor_of_not_truthy _ rfl] at same
    cases congrArg PricingRule.matchType same
  · have key : truthy (some modelKey) = true := truthy_iff.mpr ⟨modelKey, rfl, named⟩
    obtain ⟨rest, rows⟩ := effectiveRows_split latest
    have own : row.1.modelKey = modelKey := (latestRow_latest latest).2.2.1
    have some_ : ((effectiveRows now tables).find?
        (isFound lower (aliases lower modelKey))).isSome = true := by
      rw [List.find?_isSome, rows]
      exact ⟨row, List.mem_append_right _ List.mem_cons_self, by simp [isFound, aliases, own]⟩
    obtain ⟨first, found⟩ := Option.isSome_iff_exists.mp some_
    have overrides : (runtimePricingRules now tables).find?
        (ruleMatches lower (aliases lower modelKey)) =
          some (databaseRule first) := by
      rw [find?_runtimePricingRules, found, Option.map_some]
    have rule : (catalog lower now tables).priceRuleFor (some modelKey) = databaseRule first := by
      simp only [priceRuleFor, key, if_true, catalog, Option.getD_some]
      rw [List.find?_append, ← aliases, overrides]
      rfl
    rw [rule, found, Option.map_some, Option.some.injEq]
    exact (and_iff_right named).symm

def aggregatedTables : Tables where
  models := [⟨1, "openai/gpt-4o"⟩, ⟨2, "gpt-4o"⟩]
  prices :=
    [{ modelId := 1, inputPer1kTokens := 1 / 100, outputPer1kTokens := 3 / 100,
       effectiveFrom := 1, createdAt := 1 },
     { modelId := 2, inputPer1kTokens := 25 / 10000, outputPer1kTokens := 1 / 100,
       effectiveFrom := 2, createdAt := 2 }]

theorem later_price_shadows :
    ∃ row, latestRow 3 aggregatedTables "openai/gpt-4o" = some row ∧
      (catalog asciiLower 3 aggregatedTables).priceRuleFor (some "openai/gpt-4o") ≠
        databaseRule row ∧
      (catalog asciiLower 3 aggregatedTables).pricesFor (some "openai/gpt-4o") =
        (25 / 10000, 1 / 100) :=
  ⟨_, rfl, by decide +kernel⟩

theorem later_price_is_used :
    (catalog asciiLower 3 aggregatedTables).priceRuleFor (some "gpt-4o") =
      databaseRule (⟨2, "gpt-4o"⟩,
        { modelId := 2, inputPer1kTokens := 25 / 10000, outputPer1kTokens := 1 / 100,
          effectiveFrom := 2, createdAt := 2 }) :=
  (own_price_wins_iff (by decide +kernel)).mpr (by decide +kernel)

end AgentHive.PriceTables
