import AgentHive.Services.WorkerAccess
import AgentHive.Store.CharText

/-!
The plan of a media request, with the cost that is reserved for it, beside the
payload the provider is sent for the planned job.
-/

namespace AgentHive.MediaPlanning

open ModelPricingCatalog (quantize)
open Numeric (roundHalfEven)

/-- The field constraints and the validator of the options of a kind are part of the type;
`fieldsSet` is `model_fields_set`. -/
structure MediaGenerationRequest where
  kind : MediaGenerationKind
  mode : MediaGenerationMode
  prompt : String
  modelKey : Option String
  routingKey : Option String
  imageCount : Nat
  aspectRatio : Option String
  resolution : Option String
  durationSeconds : Option ℚ
  fps : Option Nat
  seed : Option Nat
  fieldsSet : List String
  image_count : 1 ≤ imageCount ∧ imageCount ≤ 8
  duration : ∀ seconds ∈ durationSeconds, 0 < seconds ∧ seconds ≤ 60
  image_options : kind = .image → durationSeconds = none ∧ fps = none
  video_options : kind = .video → imageCount = 1 ∧ durationSeconds.isSome ∧ fps.isSome

inductive PriceUnit
  | output | second
deriving DecidableEq

structure MediaModelCapability where
  providerKey : String
  providerType : MediaProviderType
  modelKey : String
  routingKey : String
  kind : MediaGenerationKind
  defaultResolution : Option String
  priceUnit : PriceUnit
  /-- The price in millionths of a dollar. -/
  priceUnits : Nat
deriving DecidableEq

def MediaModelCapability.priceUsd (model : MediaModelCapability) : ℚ := model.priceUnits / 10 ^ 6

def mediaModelCatalog : List MediaModelCapability :=
  [⟨"openai_images", .openaiImages, "openai/gpt-image-2", "image-generation", .image,
      some "1024x1024", .output, 40000⟩,
    ⟨"nano_banana", .nanoBanana, "google/nano-banana", "image-generation", .image,
      some "1024x1024", .output, 30000⟩,
    ⟨"volcengine_seedance", .volcengineSeedance, "volcengine/seedance-2.0", "video-generation",
      .video, some "1080p", .second, 80000⟩,
    ⟨"openai_compatible_media", .openaiCompatibleMedia, "openai-compatible-image",
      "private-image-generation", .image, none, .output, 0⟩,
    ⟨"openai_compatible_media", .openaiCompatibleMedia, "openai-compatible-video",
      "private-video-generation", .video, some "720p", .second, 0⟩]

/-- What `re.search` finds for the patterns of the fields: the first groups as numbers, and for
the fields that are not priced the results of `_infer_aspect_ratio` and its siblings. -/
structure PromptReaders where
  aspectRatio : String → Option String
  resolution : String → Option String
  fps : String → Option Nat
  imageCount : String → Option Int
  seconds : String → Option ℚ
  strip : String → String

variable (readers : PromptReaders) (configured : MediaProviderType → Bool)
variable (request : MediaGenerationRequest)

def selectMediaModel : Option MediaModelCapability :=
  let candidates := mediaModelCatalog.filter (·.kind == request.kind)
  let named := candidates.find? fun model =>
    truthy request.modelKey && request.modelKey == some model.modelKey
  let routed := candidates.filter fun model =>
    truthy request.routingKey && request.routingKey == some model.routingKey
  named.or ((routed.find? (configured ·.providerType)).or (routed.head?.or
    ((candidates.find? (configured ·.providerType)).or candidates.head?)))

def shouldInferField (fieldName : String) : Bool :=
  !request.fieldsSet.contains fieldName ||
    match fieldName with
    | "image_count" => request.imageCount == 1
    | "aspect_ratio" => [none, some "", some "1:1"].contains request.aspectRatio
    | "resolution" =>
      [none, some "", some "1024x1024", some "1080p"].contains request.resolution
    | "duration_seconds" => [none, some 5].contains request.durationSeconds
    | "fps" => [none, some 24].contains request.fps
    | _ => false

def boundedInt (value minimum maximum : Int) : Int := max minimum (min maximum value)

def imageCountPhrases : List (String × Int) :=
  [("一张", 1), ("两张", 2), ("二张", 2), ("三张", 3), ("四张", 4), ("五张", 5), ("六张", 6),
    ("七张", 7), ("八张", 8)]

def inferImageCount (prompt : String) : Option Int :=
  match readers.imageCount prompt with
  | some count => some (boundedInt count 1 8)
  | none => (imageCountPhrases.find? fun phrase =>
      CharText.contains phrase.1.toList prompt.toList).map Prod.snd

def inferDurationSeconds (prompt : String) : Option ℚ :=
  ((readers.seconds prompt).filter (0 < ·)).map (min · 60)

structure Interpreted where
  aspectRatio : Option String := none
  resolution : Option String := none
  imageCount : Option Int := none
  durationSeconds : Option ℚ := none
  fps : Option Nat := none

def interpretMediaCommand : Interpreted :=
  let prompt := readers.strip request.prompt
  let shown (field : String) := shouldInferField request field
  if request.mode = .manualPrompt ∨ prompt = "" then {}
  else
    { aspectRatio := (readers.aspectRatio prompt).filter fun ratio =>
        shown "aspect_ratio" && ratio ≠ ""
      resolution := (readers.resolution prompt).filter fun found =>
        shown "resolution" && found ≠ ""
      imageCount := (inferImageCount readers prompt).filter fun _ =>
        request.kind == .image && shown "image_count"
      durationSeconds := (inferDurationSeconds readers prompt).filter fun _ =>
        request.kind != .image && shown "duration_seconds"
      fps := (readers.fps prompt).filter fun _ => request.kind != .image && shown "fps" }

/-- A parameter that is `None` is left out of the dictionary. -/
structure MediaParameters where
  imageCount : Int
  aspectRatio : Option String
  resolution : Option String
  durationSeconds : Option ℚ
  fps : Option Nat
  seed : Option Nat

structure MediaGenerationPlan where
  kind : MediaGenerationKind
  model : MediaModelCapability
  mode : MediaGenerationMode
  prompt : String
  estimatedOutputCount : Int
  estimatedCostUsd : ℚ
  normalizedParameters : MediaParameters

def estimateMediaCost (model : MediaModelCapability) (estimatedOutputCount : Int)
    (durationSeconds : Option ℚ) : Except Exc ℚ :=
  match model.priceUnit with
  | .second => quantize (durationSeconds.getD 0 * model.priceUsd)
  | .output => quantize (estimatedOutputCount * model.priceUsd)

def mediaParameters (model : MediaModelCapability) : MediaParameters :=
  let interpreted := interpretMediaCommand readers request
  { imageCount := interpreted.imageCount.getD request.imageCount
    aspectRatio := interpreted.aspectRatio.or request.aspectRatio
    resolution := interpreted.resolution.or
      (if truthy request.resolution then request.resolution else model.defaultResolution)
    durationSeconds := interpreted.durationSeconds.or request.durationSeconds
    fps := interpreted.fps.or request.fps
    seed := request.seed }

def estimatedOutputCount (model : MediaModelCapability) : Int :=
  let count := (mediaParameters readers request model).imageCount
  if request.kind ≠ .image then 1 else if count = 0 then request.imageCount else count

def planWith (model : MediaModelCapability) (cost : ℚ) : MediaGenerationPlan where
  kind := request.kind
  model := model
  mode := request.mode
  prompt := readers.strip request.prompt
  estimatedOutputCount := estimatedOutputCount readers request model
  estimatedCostUsd := cost
  normalizedParameters := mediaParameters readers request model

def buildMediaGenerationPlan : Except Exc MediaGenerationPlan :=
  match selectMediaModel configured request with
  | none => .error (.other "IndexError" "list index out of range")
  | some model =>
    (estimateMediaCost model (estimatedOutputCount readers request model)
      (mediaParameters readers request model).durationSeconds).map
      (planWith readers request model)

structure ProviderPayload where
  model : String
  prompt : String
  n : Option Int
  size : Option String
  aspectRatio : Option String
  durationSeconds : Option ℚ
  fps : Option Nat
  resolution : Option String
  seed : Option Nat
  parameters : MediaParameters

/-- `_provider_payload` of the job that is created from the plan. -/
def providerPayload (plan : MediaGenerationPlan) : ProviderPayload :=
  let parameters := plan.normalizedParameters
  let image := plan.kind = .image
  { model := plan.model.modelKey
    prompt := plan.prompt
    n := if image then some (if parameters.imageCount = 0 then 1 else parameters.imageCount)
      else none
    size := if image then parameters.resolution.filter (· ≠ "") else none
    aspectRatio := if image then parameters.aspectRatio.filter (· ≠ "") else none
    durationSeconds := if image then none else parameters.durationSeconds
    fps := if image then none else parameters.fps
    resolution := if image then none else parameters.resolution.filter (· ≠ "")
    seed := parameters.seed
    parameters := parameters }

/-- How much the provider is asked for, of the unit that is priced. -/
def ProviderPayload.quantity (payload : ProviderPayload) (kind : MediaGenerationKind) : Option ℚ :=
  match kind with
  | .image => payload.n.map Int.cast
  | .video => payload.durationSeconds

def InBounds (kind : MediaGenerationKind) (quantity : ℚ) : Prop :=
  match kind with
  | .image => ∃ count : Int, quantity = count ∧ 1 ≤ count ∧ count ≤ 8
  | .video => 0 < quantity ∧ quantity ≤ 60

theorem selectMediaModel_spec : ∃ model, selectMediaModel configured request = some model ∧
    model ∈ mediaModelCatalog ∧ model.kind = request.kind := by
  have within : ∀ model, selectMediaModel configured request = some model →
      model ∈ mediaModelCatalog.filter (·.kind == request.kind) := by
    intro model selected
    simp only [selectMediaModel, Option.or_eq_some_iff] at selected
    grind [List.mem_of_find?_eq_some, List.mem_of_mem_head?]
  have found : (selectMediaModel configured request).isSome := by
    have first : (mediaModelCatalog.filter (·.kind == request.kind)).head?.isSome := by
      cases request.kind <;> rfl
    simp only [selectMediaModel, Option.isSome_or, first, Bool.or_true]
  obtain ⟨model, selected⟩ := Option.isSome_iff_exists.mp found
  have mem := within model selected
  rw [List.mem_filter, beq_iff_eq] at mem
  exact ⟨model, selected, mem⟩

theorem mediaModelCatalog_prices : ∀ model ∈ mediaModelCatalog,
    model.priceUnit = (if model.kind = .image then .output else .second) ∧
      model.priceUnits ≤ 80000 := by decide

theorem inferImageCount_bounds {prompt : String} {count : Int}
    (inferred : inferImageCount readers prompt = some count) : 1 ≤ count ∧ count ≤ 8 := by
  have phrases : ∀ phrase ∈ imageCountPhrases, 1 ≤ phrase.2 ∧ phrase.2 ≤ 8 := by decide
  rw [inferImageCount] at inferred
  split at inferred
  · simp only [boundedInt, Option.some.injEq] at inferred
    omega
  · obtain ⟨phrase, found, rfl⟩ := Option.map_eq_some_iff.mp inferred
    exact phrases phrase (List.mem_of_find?_eq_some found)

theorem inferDurationSeconds_bounds {prompt : String} {seconds : ℚ}
    (inferred : inferDurationSeconds readers prompt = some seconds) :
    0 < seconds ∧ seconds ≤ 60 := by
  obtain ⟨found, read, rfl⟩ := Option.map_eq_some_iff.mp inferred
  have pos : 0 < found := of_decide_eq_true (Option.filter_eq_some_iff.mp read).2
  exact ⟨lt_min pos (by norm_num), min_le_right _ _⟩

/-- What is inferred is in the bounds that the request is checked for. -/
theorem interpretMediaCommand_bounds :
    (∀ count ∈ (interpretMediaCommand readers request).imageCount, 1 ≤ count ∧ count ≤ 8) ∧
      ∀ seconds ∈ (interpretMediaCommand readers request).durationSeconds,
        0 < seconds ∧ seconds ≤ 60 := by
  rw [interpretMediaCommand]
  split
  · exact ⟨nofun, nofun⟩
  · exact ⟨fun _ found => inferImageCount_bounds readers (Option.filter_eq_some_iff.mp found).1,
      fun _ found => inferDurationSeconds_bounds readers (Option.filter_eq_some_iff.mp found).1⟩

theorem mediaParameters_bounds (model : MediaModelCapability) :
    let parameters := mediaParameters readers request model
    (1 ≤ parameters.imageCount ∧ parameters.imageCount ≤ 8) ∧
      (request.kind = .video →
        ∃ seconds, parameters.durationSeconds = some seconds ∧ 0 < seconds ∧ seconds ≤ 60) := by
  obtain ⟨counts, durations⟩ := interpretMediaCommand_bounds readers request
  constructor
  · have given := request.image_count
    cases inferred : (interpretMediaCommand readers request).imageCount with
    | none =>
      simp only [mediaParameters, inferred, Option.getD_none]
      omega
    | some count =>
      simpa only [mediaParameters, inferred, Option.getD_some] using counts count inferred
  · intro video
    obtain ⟨given, set⟩ := Option.isSome_iff_exists.mp (request.video_options video).2.1
    cases inferred : (interpretMediaCommand readers request).durationSeconds with
    | none => exact ⟨given, by simp [mediaParameters, inferred, set], request.duration _ set⟩
    | some seconds => exact ⟨seconds, by simp [mediaParameters, inferred], durations _ inferred⟩

theorem quantize_ok {cost : ℚ} (nonneg : 0 ≤ cost) (small : cost ≤ 48 / 10) :
    quantize cost = .ok (roundHalfEven (cost * 10 ^ 6) / 10 ^ 6) := by
  have most : roundHalfEven (cost * 10 ^ 6) ≤ roundHalfEven (4800000 : ℤ) :=
    Numeric.roundHalfEven_mono (by push_cast; linarith)
  rw [Numeric.roundHalfEven_intCast] at most
  have least := Numeric.roundHalfEven_nonneg (mul_nonneg nonneg (by norm_num : (0 : ℚ) ≤ 10 ^ 6))
  rw [quantize]
  exact if_pos (by omega)

/-- The plan prices the quantity of the payload. -/
theorem plan_of_payload : ∃ model quantity, selectMediaModel configured request = some model ∧
    (providerPayload (planWith readers request model 0)).quantity request.kind = some quantity ∧
      InBounds request.kind quantity ∧
      buildMediaGenerationPlan readers configured request = .ok (planWith readers request model
        (roundHalfEven (quantity * model.priceUsd * 10 ^ 6) / 10 ^ 6)) := by
  obtain ⟨model, selected, mem, same⟩ := selectMediaModel_spec configured request
  obtain ⟨unit, cheap⟩ := mediaModelCatalog_prices model mem
  obtain ⟨counted, timed⟩ := mediaParameters_bounds readers request model
  have charged {quantity : ℚ} (least : 0 ≤ quantity) (most : quantity ≤ 60) :
      quantize (quantity * model.priceUsd) =
        .ok (roundHalfEven (quantity * model.priceUsd * 10 ^ 6) / 10 ^ 6) := by
    have cast : (model.priceUnits : ℚ) ≤ 80000 := by exact_mod_cast cheap
    have nonneg : 0 ≤ model.priceUsd := div_nonneg (Nat.cast_nonneg _) (by norm_num)
    have price : model.priceUsd ≤ 8 / 100 := by
      rw [MediaModelCapability.priceUsd, div_le_iff₀ (by norm_num)]
      linarith
    exact quantize_ok (mul_nonneg least nonneg) (by nlinarith)
  cases kind : request.kind with
  | image =>
    rw [same, kind, if_pos rfl] at unit
    have positive : (mediaParameters readers request model).imageCount ≠ 0 := by omega
    have charge := @charged (mediaParameters readers request model).imageCount
      (by exact_mod_cast (by omega : 0 ≤ (mediaParameters readers request model).imageCount))
      (by exact_mod_cast (by omega : (mediaParameters readers request model).imageCount ≤ 60))
    refine ⟨model, (mediaParameters readers request model).imageCount, selected, ?_, ?_, ?_⟩
    · simp [providerPayload, ProviderPayload.quantity, planWith, kind, positive]
    · exact ⟨_, rfl, counted⟩
    · simp only [buildMediaGenerationPlan, selected, estimateMediaCost, unit, charge,
        estimatedOutputCount, kind, ne_eq, not_true_eq_false, if_false, positive, Except.map]
  | video =>
    rw [same, kind, if_neg (by simp)] at unit
    obtain ⟨seconds, set, least, most⟩ := timed kind
    refine ⟨model, seconds, selected, ?_, ⟨least, most⟩, ?_⟩
    · simp [providerPayload, ProviderPayload.quantity, planWith, kind, set]
    · simp only [buildMediaGenerationPlan, selected, estimateMediaCost, unit, set,
        Option.getD_some, charged least.le most, Except.map]

/-- The cost is the price of what the provider is asked for, rounded half-even to millionths;
nothing is rounded for images, or where the price is a number of millionths. -/
theorem estimatedCost_of_payload :
    ∃ plan quantity, buildMediaGenerationPlan readers configured request = .ok plan ∧
      (providerPayload plan).quantity plan.kind = some quantity ∧ InBounds plan.kind quantity ∧
      plan.estimatedCostUsd = roundHalfEven (quantity * plan.model.priceUsd * 10 ^ 6) / 10 ^ 6 ∧
      (plan.kind = .image ∨ (∃ units : ℤ, quantity * plan.model.priceUsd * 10 ^ 6 = units) →
        plan.estimatedCostUsd = quantity * plan.model.priceUsd) := by
  obtain ⟨model, quantity, _, asked, bounds, built⟩ := plan_of_payload readers configured request
  refine ⟨_, quantity, built, asked, bounds, rfl, fun whole => ?_⟩
  obtain ⟨units, whole⟩ : ∃ units : ℤ, quantity * model.priceUsd * 10 ^ 6 = units := by
    rcases whole with image | whole
    · simp only [planWith] at image
      rw [image] at bounds
      obtain ⟨count, rfl, _⟩ := bounds
      refine ⟨count * model.priceUnits, ?_⟩
      rw [MediaModelCapability.priceUsd]
      push_cast
      ring
    · exact whole
  simp only [planWith, whole, Numeric.roundHalfEven_intCast]
  rw [← whole]
  exact mul_div_cancel_right₀ _ (by norm_num)

def plainReaders : PromptReaders := ⟨fun _ => none, fun _ => none, fun _ => none, fun _ => none,
  fun _ => none, id⟩

/-- Ten microseconds, which would cost less than a millionth of a dollar. -/
def shortVideo : MediaGenerationRequest where
  kind := .video
  mode := .manualPrompt
  prompt := "waves"
  modelKey := none
  routingKey := none
  imageCount := 1
  aspectRatio := none
  resolution := none
  durationSeconds := some (1 / 100000)
  fps := some 24
  seed := none
  fieldsSet := ["duration_seconds"]
  image_count := by decide
  duration := by
    rintro seconds ⟨⟩
    norm_num
  image_options := nofun
  video_options := by decide

theorem short_video_costs_a_millionth :
    ¬ ∀ readers configured request plan quantity,
      buildMediaGenerationPlan readers configured request = .ok plan →
      (providerPayload plan).quantity plan.kind = some quantity →
      plan.estimatedCostUsd = quantity * plan.model.priceUsd := by
  intro exact_
  obtain ⟨model, quantity, selected, asked, _, built⟩ :=
    plan_of_payload plainReaders (fun _ => true) shortVideo
  have cost := exact_ _ _ _ _ _ built asked
  have seedance : selectMediaModel (fun _ => true) shortVideo = mediaModelCatalog[2]? := by decide
  cases selected.symm.trans seedance
  cases asked
  simp only [planWith, MediaModelCapability.priceUsd] at cost
  have units : (5 * roundHalfEven (1 / 100000 * ((80000 : ℕ) / 10 ^ 6) * 10 ^ 6) : ℚ) = 4 := by
    linarith
  have whole : 5 * roundHalfEven (1 / 100000 * ((80000 : ℕ) / 10 ^ 6) * 10 ^ 6) = 4 := by
    exact_mod_cast units
  omega

end AgentHive.MediaPlanning
