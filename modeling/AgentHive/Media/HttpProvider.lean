import AgentHive.Llm.PolicyValidation
import AgentHive.Rag.Schemas
import AgentHive.Services.MediaJobs
import Mathlib.Data.List.Lex

/-!
What the HTTP adapter of media providers reads of a response.

Each output is taken with the place where it stands in the response, the positions of
the entries and items on the way to it.
-/

namespace AgentHive.HttpMediaProvider

open Rag (Json JsonDict)

structure OutputTexts where
  str : Json → String
  lower : String → String

abbrev Located : Type := List Nat × JsonDict

def mediaKeys : List String := ["outputs", "data", "images", "videos"]

def containerKeys : List String := mediaKeys ++ ["result"]

def hasMediaOutputFields (item : JsonDict) : Bool :=
  ["bucket", "object_key", "url", "uri", "image_url", "video_url", "file_url", "download_url",
    "b64_json", "base64", "base64_json"].any fun key => !(item.get key).isNull

def itemsFrom : Nat → List Json → List Located
  | _, [] => []
  | i, .obj fields :: rest => ([i], fields) :: itemsFrom (i + 1) rest
  | i, _ :: rest => itemsFrom (i + 1) rest

def below (i : Nat) (found : Located) : Located := (i :: found.1, found.2)

def underKeys (keys : List String) (byKey : List (String × List Located)) : List Located :=
  keys.flatMap fun key => (byKey.lookup key).getD []

mutual

def outputCandidates : Json → List Located
  | .arr items => itemsFrom 0 items
  | .obj fields =>
    if hasMediaOutputFields fields then [([], fields)]
    else underKeys containerKeys (candidatesByKey 0 fields)
  | _ => []

def candidatesByKey : Nat → JsonDict → List (String × List Located)
  | _, [] => []
  | i, (key, value) :: rest =>
    (key, (outputCandidates value).map (below i)) :: candidatesByKey (i + 1) rest

end

def entryAt (key : String) : JsonDict → Option (Nat × Json)
  | [] => none
  | (k, value) :: rest =>
    if k = key then some (0, value) else (entryAt key rest).map fun e => (e.1 + 1, e.2)

/-- What is collected from a `result` once more. -/
def nestedInResult (payload : JsonDict) : List Located :=
  match entryAt "result" payload with
  | some (i, .obj inner) => (underKeys mediaKeys (candidatesByKey 0 inner)).map (below i)
  | _ => []

/-- The `candidates` of `_extract_outputs`. -/
def extractCandidates (payload : JsonDict) : List Located :=
  let byKey := candidatesByKey 0 payload
  let candidates := underKeys mediaKeys byKey ++ underKeys ["result"] byKey ++
    nestedInResult payload
  if candidates.isEmpty && hasMediaOutputFields payload then [([], payload)] else candidates

def firstString (item : JsonDict) : List String → Option String
  | [] => none
  | key :: keys =>
    match item.get key with
    | .str value => if value = "" then firstString item keys else some value
    | _ => firstString item keys

section

variable (texts : OutputTexts)

def inferOutputKind (url : String) (item : JsonDict) : Json :=
  let given := item.firstOf ["mime_type", "content_type"]
  let mimeType := texts.lower (if given.truthy then texts.str given else "")
  let loweredUrl := (texts.lower url).toList.takeWhile (· != '?')
  if "image/".toList.isPrefixOf mimeType.toList then .str "image"
  else if "video/".toList.isPrefixOf mimeType.toList then .str "video"
  else if [".png", ".jpg", ".jpeg", ".webp", ".gif", ".avif"].any fun suffix =>
      suffix.toList.isSuffixOf loweredUrl then .str "image"
  else if [".mp4", ".mov", ".webm", ".m4v", ".avi"].any fun suffix =>
      suffix.toList.isSuffixOf loweredUrl then .str "video"
  else .null

def setIf (condition : Bool) (key : String) (value : Json) (output : JsonDict) : JsonDict :=
  if condition then output.set key value else output

def withData (given : Json) (output : JsonDict) : JsonDict :=
  if given.truthy then
    let stored := output.set "b64_json" given
    stored.set "mime_type" (if (stored.get "mime_type").truthy then stored.get "mime_type"
      else .str "image/png")
  else output

def normalizeOutput (item : JsonDict) : JsonDict :=
  let copied : JsonDict := ["bucket", "object_key", "url", "mime_type", "kind", "width", "height",
    "duration_seconds"].foldl (fun output key =>
      setIf (!(item.get key).isNull) key (item.get key) output) []
  let url := firstString item ["url", "image_url", "video_url", "file_url", "download_url", "uri"]
  let output := setIf url.isSome "url" (.str (url.getD "")) copied
  let output := setIf (!(item.get "duration").isNull && (output.get "duration_seconds").isNull)
    "duration_seconds" (item.get "duration") output
  let output := withData (item.firstOf ["base64_json", "base64"])
    (withData (item.get "b64_json") output)
  let output := setIf ((output.get "url").truthy && (output.get "kind").isNull) "kind"
    (inferOutputKind texts (texts.str (output.get "url")) item) output
  let output := setIf (item.get "revised_prompt").truthy "revised_prompt"
    (item.get "revised_prompt") output
  let output := setIf (item.get "id").truthy "provider_output_id" (item.get "id") output
  if output.isEmpty then [("metadata", .obj item)] else output

def extractOutputs (payload : JsonDict) : List JsonDict :=
  (extractCandidates payload).map fun found => normalizeOutput texts found.2

def normalizeProviderStatus : Json → Option MediaGenerationJobStatus
  | .str value =>
    let normalized := texts.lower (PolicyValidation.strip value)
    if normalized ∈ ["succeeded", "success", "completed", "complete", "done"] then
      some .succeeded
    else if normalized ∈
        ["queued", "pending", "submitted", "running", "processing", "in_progress"] then
      some .running
    else if normalized ∈ ["failed", "error", "errored"] then some .failed
    else if normalized ∈ ["canceled", "cancelled"] then some .canceled
    else none
  | _ => none

def externalIdKeys : List String := ["job_id", "task_id", "request_id", "id"]

def extractExternalJobId (payload : JsonDict) : Option String := firstString payload externalIdKeys

def extractErrorMessage (payload : JsonDict) : Option String :=
  match payload.get "error" with
  | .obj error => (firstString error ["message"]).or (firstString payload ["message"])
  | _ => firstString payload ["error", "message"]

end

structure ResponseTexts extends OutputTexts where
  row : JsonDict → Dict
  value : Json → MediaValue

variable (texts : ResponseTexts)

def statusOf (kind : String) (payload : JsonDict) : MediaGenerationJobStatus :=
  match normalizeProviderStatus texts.toOutputTexts (payload.get "status") with
  | some status => status
  | none =>
    if (extractOutputs texts.toOutputTexts payload).isEmpty = false then .succeeded
    else if kind = "video" ∧ (extractExternalJobId payload).isSome = true then .running
    else .failed

def submitResult (job : MediaGenerationJob) (payload : JsonDict) : MediaProviderSubmitResult :=
  let status := statusOf texts job.kind payload
  let outputs := extractOutputs texts.toOutputTexts payload
  let errorMessage := extractErrorMessage payload
  { status := status
    outputs := outputs.map texts.row
    externalJobId := extractExternalJobId payload
    errorMessage := if status = .failed ∧ truthy errorMessage = false then
        some "Media provider response did not include generated outputs."
      else errorMessage
    metadata := .ofEntries
      [("provider_status", texts.value (payload.get "status")),
        ("live_network_call", .plain (.bool true)),
        ("response_id", texts.value (payload.get "id")),
        ("output_count", .plain (.int outputs.length))] }

def pollResult (job : MediaGenerationJob) (payload : JsonDict) : MediaProviderSubmitResult :=
  let result := submitResult texts job payload
  { result with
    metadata := result.metadata.merge (.ofEntries
      [("status_poll", .plain (.bool true)),
        ("external_job_id", .plain (.ofOption job.externalJobId))]) }

end AgentHive.HttpMediaProvider

namespace AgentHive.HttpMediaProvider

open Rag (Json JsonDict)

/-- The object is an output of a value that is found under a recognised key: an item of
a list, or an object with an output field, which is not looked into. -/
inductive IsOutputIn : Json → Located → Prop
  | item {items : List Json} {i : Nat} {fields : JsonDict} :
      items[i]? = some (.obj fields) → IsOutputIn (.arr items) ([i], fields)
  | object {fields : JsonDict} : hasMediaOutputFields fields = true →
      IsOutputIn (.obj fields) ([], fields)
  | nested {fields : JsonDict} {key : String} {i : Nat} {value : Json} {found : Located} :
      hasMediaOutputFields fields = false → key ∈ containerKeys →
      entryAt key fields = some (i, value) → IsOutputIn value found →
      IsOutputIn (.obj fields) (below i found)

def IsOutputUnder (keys : List String) (fields : JsonDict) (found : Located) : Prop :=
  ∃ key ∈ keys, ∃ i value inner, entryAt key fields = some (i, value) ∧
    IsOutputIn value inner ∧ found = below i inner

def IsOutput (payload : JsonDict) (found : Located) : Prop :=
  IsOutputUnder containerKeys payload found ∨
    found = ([], payload) ∧ hasMediaOutputFields payload = true ∧
      ∀ other, ¬ IsOutputUnder containerKeys payload other

def InOrder (found : List Located) : Prop := found.Pairwise fun x y => x.1 < y.1

def TakesEachOnce (payload : JsonDict) : Prop :=
  InOrder (extractCandidates payload) ∧
    ∀ found, found ∈ extractCandidates payload ↔ IsOutput payload found

def Holds (value : Json) : Prop := ∃ found, IsOutputIn value found

def KeysInOrder (keys : List String) (fields : JsonDict) : Prop :=
  keys.Pairwise fun key other => ∀ i value j value', entryAt key fields = some (i, value) →
    entryAt other fields = some (j, value') → Holds value → Holds value' → i < j

inductive Reaches : Json → JsonDict → Prop
  | here {fields : JsonDict} : hasMediaOutputFields fields = false → Reaches (.obj fields) fields
  | nested {fields inner : JsonDict} {key : String} {i : Nat} {value : Json} :
      hasMediaOutputFields fields = false → key ∈ containerKeys →
      entryAt key fields = some (i, value) → Reaches value inner → Reaches (.obj fields) inner

/-- The `result` is no object with outputs under a key of its own. -/
def ResultHoldsNone (payload : JsonDict) : Prop :=
  ∀ i inner, entryAt "result" payload = some (i, .obj inner) →
    ∀ found, ¬ IsOutputUnder mediaKeys inner found

section

variable {key : String} {fields : JsonDict} {i : Nat} {value : Json}

theorem getElem?_entryAt (found : entryAt key fields = some (i, value)) :
    fields[i]? = some (key, value) := by
  induction fields generalizing i with
  | nil => cases found
  | cons entry rest ih =>
    obtain ⟨k, v⟩ := entry
    by_cases here : k = key
    · rw [entryAt, if_pos here] at found
      cases found
      rw [here]
      rfl
    · rw [entryAt, if_neg here] at found
      obtain ⟨later, there, eq⟩ := Option.map_eq_some_iff.mp found
      cases eq
      exact ih there

theorem sizeOf_entryAt (found : entryAt key fields = some (i, value)) :
    sizeOf value < sizeOf (Json.obj fields) := by
  have mem : (key, value) ∈ fields := List.mem_of_getElem? (getElem?_entryAt found)
  have less := List.sizeOf_lt_of_mem mem
  simp only [Prod.mk.sizeOf_spec, Json.obj.sizeOf_spec] at less ⊢
  omega

theorem lookup_candidatesByKey (start : Nat) : (candidatesByKey start fields).lookup key =
    (entryAt key fields).map fun e => (outputCandidates e.2).map (below (start + e.1)) := by
  induction fields generalizing start with
  | nil => rfl
  | cons entry rest ih =>
    obtain ⟨k, v⟩ := entry
    rw [candidatesByKey, List.lookup_cons, entryAt]
    by_cases here : k = key
    · rw [if_pos here, here, beq_self_eq_true]
      rfl
    · have other : (key == k) = false := beq_eq_false_iff_ne.mpr (Ne.symm here)
      rw [if_neg here, other, ih, Option.map_map]
      refine congrArg (Option.map · _) (funext fun e => ?_)
      rw [Function.comp_apply, Nat.add_right_comm, Nat.add_assoc]

end

def blockOf (fields : JsonDict) (key : String) : List Located :=
  match entryAt key fields with
  | none => []
  | some (i, value) => (outputCandidates value).map (below i)

theorem underKeys_eq (keys : List String) (fields : JsonDict) :
    underKeys keys (candidatesByKey 0 fields) = keys.flatMap (blockOf fields) := by
  refine congrArg (keys.flatMap ·) (funext fun key => ?_)
  rw [lookup_candidatesByKey, blockOf]
  cases entryAt key fields with
  | none => rfl
  | some e =>
    rw [Option.map_some, Nat.zero_add]
    rfl

section

variable {keys : List String} {fields : JsonDict} {found : Located} {i j : Nat} {value : Json}

theorem mem_itemsFrom {items : List Json} (start : Nat) : found ∈ itemsFrom start items ↔
    ∃ i fields, items[i]? = some (.obj fields) ∧ found = ([start + i], fields) := by
  induction items generalizing start with
  | nil => simp [itemsFrom]
  | cons item rest ih =>
    have later : found ∈ itemsFrom (start + 1) rest ↔
        ∃ i fields, (item :: rest)[i + 1]? = some (.obj fields) ∧
          found = ([start + (i + 1)], fields) := by
      simp only [ih, List.getElem?_cons_succ, Nat.add_right_comm start 1, Nat.add_assoc]
    constructor
    · intro mem
      cases item with
      | obj fields =>
        obtain same | mem := List.mem_cons.mp mem
        · exact ⟨0, fields, rfl, same⟩
        · obtain ⟨i, fields, there, eq⟩ := later.mp mem
          exact ⟨i + 1, fields, there, eq⟩
      | _ =>
        obtain ⟨i, fields, there, eq⟩ := later.mp mem
        exact ⟨i + 1, fields, there, eq⟩
    · intro ⟨i, fields, there, eq⟩
      cases i with
      | zero =>
        cases Option.some.inj there
        exact eq ▸ List.mem_cons_self
      | succ i =>
        have mem := later.mpr ⟨i, fields, there, eq⟩
        cases item with
        | obj fields => exact List.mem_cons_of_mem _ mem
        | _ => exact mem

variable {key : String}

theorem mem_blockOf : found ∈ blockOf fields key ↔ ∃ i value inner,
    entryAt key fields = some (i, value) ∧ inner ∈ outputCandidates value ∧
      found = below i inner := by
  rw [blockOf]
  cases entryAt key fields with
  | none => exact ⟨fun mem => (nomatch mem), fun ⟨_, _, _, there, _⟩ => (nomatch there)⟩
  | some e =>
    constructor
    · intro mem
      obtain ⟨inner, out, rfl⟩ := List.mem_map.mp mem
      exact ⟨e.1, e.2, inner, rfl, out, rfl⟩
    · intro ⟨i, value, inner, there, mem, eq⟩
      cases there
      exact List.mem_map.mpr ⟨inner, mem, eq.symm⟩

theorem mem_outputCandidates : (value : Json) → (found : Located) →
    (found ∈ outputCandidates value ↔ IsOutputIn value found)
  | .arr items, found => by
    rw [outputCandidates, mem_itemsFrom]
    constructor
    · intro ⟨i, fields, there, eq⟩
      rw [eq, Nat.zero_add]
      exact .item there
    · intro out
      cases out with
      | item there => exact ⟨_, _, there, by rw [Nat.zero_add]⟩
  | .obj fields, found => by
    rw [outputCandidates]
    by_cases leaf : hasMediaOutputFields fields = true
    · rw [if_pos leaf, List.mem_singleton]
      constructor
      · intro eq
        exact eq ▸ .object leaf
      · intro out
        cases out with
        | object _ => rfl
        | nested inner _ _ _ => exact absurd leaf (by simp [inner])
    · rw [if_neg leaf, underKeys_eq, List.mem_flatMap]
      constructor
      · intro ⟨key, mem, taken⟩
        obtain ⟨i, value, inner, there, out, rfl⟩ := mem_blockOf.mp taken
        have smaller := sizeOf_entryAt there
        exact .nested (Bool.eq_false_iff.mpr leaf) mem there
          ((mem_outputCandidates value inner).mp out)
      · intro out
        cases out with
        | object here => exact absurd here leaf
        | @nested _ key i value inner _ mem there out =>
          have smaller := sizeOf_entryAt there
          exact ⟨key, mem, mem_blockOf.mpr
            ⟨i, value, inner, there, (mem_outputCandidates value inner).mpr out, rfl⟩⟩
  | .null, _ | .bool _, _ | .num _, _ | .str _, _ =>
    ⟨fun mem => (by simp [outputCandidates] at mem), fun out => (nomatch out)⟩
termination_by value => sizeOf value
decreasing_by all_goals assumption

theorem mem_underKeys : found ∈ keys.flatMap (blockOf fields) ↔ IsOutputUnder keys fields found := by
  simp only [List.mem_flatMap, mem_blockOf, mem_outputCandidates, IsOutputUnder]

theorem holds_iff : Holds value ↔ ∃ found, found ∈ outputCandidates value := by
  simp only [Holds, mem_outputCandidates]

theorem inOrder_itemsFrom (items : List Json) (start : Nat) : InOrder (itemsFrom start items) := by
  induction items generalizing start with
  | nil => exact .nil
  | cons item rest ih =>
    cases item with
    | obj fields =>
      refine .cons (fun found mem => ?_) (ih (start + 1))
      obtain ⟨i, fields, _, rfl⟩ := (mem_itemsFrom (start + 1)).mp mem
      exact List.cons_lt_cons_iff.mpr (.inl (by omega))
    | _ => exact ih (start + 1)

theorem below_lt_below (first second : Located) : (below i first).1 < (below j second).1 ↔
    i < j ∨ i = j ∧ first.1 < second.1 := List.cons_lt_cons_iff

theorem inOrder_blockOf : InOrder (blockOf fields key) ↔
    ∀ i value, entryAt key fields = some (i, value) → InOrder (outputCandidates value) := by
  rw [blockOf]
  cases entryAt key fields with
  | none => exact ⟨fun _ _ _ there => (nomatch there), fun _ => .nil⟩
  | some e =>
    have same : InOrder ((outputCandidates e.2).map (below e.1)) ↔
        InOrder (outputCandidates e.2) := by
      simp only [InOrder, List.pairwise_map, below_lt_below, Nat.lt_irrefl, true_and, false_or]
    refine same.trans ⟨fun h i value there => ?_, fun h => h e.1 e.2 rfl⟩
    cases there
    exact h

theorem blocks_inOrder_iff {other : String} (distinct : key ≠ other) :
    (∀ x ∈ blockOf fields key, ∀ y ∈ blockOf fields other, x.1 < y.1) ↔
      ∀ i value j value', entryAt key fields = some (i, value) →
        entryAt other fields = some (j, value') → Holds value → Holds value' → i < j := by
  constructor
  · intro h i value j value' there there' holds holds'
    obtain ⟨x, mem⟩ := holds_iff.mp holds
    obtain ⟨y, mem'⟩ := holds_iff.mp holds'
    have before := h _ (mem_blockOf.mpr ⟨i, value, x, there, mem, rfl⟩) _
      (mem_blockOf.mpr ⟨j, value', y, there', mem', rfl⟩)
    obtain less | ⟨same, _⟩ := (below_lt_below x y).mp before
    · exact less
    · have first := getElem?_entryAt there
      rw [same, getElem?_entryAt there'] at first
      cases first
      exact absurd rfl distinct
  · intro h x mem y mem'
    obtain ⟨i, value, inner, there, out, rfl⟩ := mem_blockOf.mp mem
    obtain ⟨j, value', inner', there', out', rfl⟩ := mem_blockOf.mp mem'
    exact (below_lt_below _ _).mpr
      (.inl (h i value j value' there there' (holds_iff.mpr ⟨_, out⟩) (holds_iff.mpr ⟨_, out'⟩)))

theorem inOrder_underKeys (distinct : keys.Nodup) : InOrder (keys.flatMap (blockOf fields)) ↔
    (∀ key ∈ keys, ∀ i value, entryAt key fields = some (i, value) →
      InOrder (outputCandidates value)) ∧ KeysInOrder keys fields := by
  rw [InOrder, List.pairwise_flatMap]
  refine and_congr (forall₂_congr fun key _ => inOrder_blockOf) ⟨fun h => ?_, fun h => ?_⟩
  · exact List.Pairwise.imp₂ (fun _ _ ne blocks => (blocks_inOrder_iff ne).mp blocks) distinct h
  · exact List.Pairwise.imp₂ (fun _ _ ne entries => (blocks_inOrder_iff ne).mpr entries) distinct h

theorem containerKeys_nodup : containerKeys.Nodup := by decide

theorem inOrder_outputCandidates : (value : Json) → (InOrder (outputCandidates value) ↔
    ∀ fields, Reaches value fields → KeysInOrder containerKeys fields)
  | .arr items => by
    rw [outputCandidates]
    exact ⟨fun _ _ reached => (nomatch reached), fun _ => inOrder_itemsFrom items 0⟩
  | .obj fields => by
    rw [outputCandidates]
    by_cases leaf : hasMediaOutputFields fields = true
    · rw [if_pos leaf]
      refine ⟨fun _ inner reached => ?_, fun _ => List.pairwise_singleton _ _⟩
      cases reached with
      | here no => exact absurd leaf (by simp [no])
      | nested no _ _ _ => exact absurd leaf (by simp [no])
    · have no := Bool.eq_false_iff.mpr leaf
      rw [if_neg leaf, underKeys_eq, inOrder_underKeys containerKeys_nodup]
      constructor
      · intro ⟨entries, own⟩ inner reached
        cases reached with
        | here _ => exact own
        | @nested _ _ key i value _ mem there reached =>
          have smaller := sizeOf_entryAt there
          exact (inOrder_outputCandidates value).mp (entries key mem i value there) inner reached
      · intro h
        refine ⟨fun key mem i value there => ?_, h fields (.here no)⟩
        have smaller := sizeOf_entryAt there
        exact (inOrder_outputCandidates value).mpr fun inner reached =>
          h inner (.nested no mem there reached)
  | .null | .bool _ | .num _ | .str _ => by
    rw [outputCandidates]
    · exact ⟨fun _ _ reached => (nomatch reached), fun _ => .nil⟩
    all_goals (intros; contradiction)
termination_by value => sizeOf value
decreasing_by all_goals assumption

theorem extractCandidates_eq (payload : JsonDict) : extractCandidates payload =
    let candidates := containerKeys.flatMap (blockOf payload) ++ nestedInResult payload
    if candidates.isEmpty && hasMediaOutputFields payload then [([], payload)]
    else candidates := by
  simp only [extractCandidates, underKeys_eq, containerKeys, List.flatMap_append]

variable {payload : JsonDict}

theorem mem_nestedInResult : found ∈ nestedInResult payload ↔ ∃ i inner out,
    entryAt "result" payload = some (i, .obj inner) ∧ IsOutputUnder mediaKeys inner out ∧
      found = below i out := by
  rw [nestedInResult]
  split
  · rename_i i inner there
    rw [underKeys_eq, List.mem_map]
    constructor
    · intro ⟨out, mem, eq⟩
      exact ⟨i, inner, out, there, mem_underKeys.mp mem, eq.symm⟩
    · intro ⟨i', inner', out, there', under, eq⟩
      rw [there] at there'
      cases there'
      exact ⟨out, mem_underKeys.mpr under, eq.symm⟩
  · rename_i other
    exact ⟨fun mem => (nomatch mem), fun ⟨i, inner, _, there, _⟩ => absurd there (other i inner)⟩

theorem nestedInResult_eq_nil : nestedInResult payload = [] ↔ ResultHoldsNone payload := by
  constructor
  · intro none i inner there out under
    have mem := mem_nestedInResult.mpr ⟨i, inner, out, there, under, rfl⟩
    rw [none] at mem
    cases mem
  · intro once
    refine List.eq_nil_iff_forall_not_mem.mpr fun found mem => ?_
    obtain ⟨i, inner, out, there, under, _⟩ := mem_nestedInResult.mp mem
    exact once i inner there out under

theorem resultHoldsNone_of_takesEachOnce (each : TakesEachOnce payload) :
    ResultHoldsNone payload := by
  intro i inner there out under
  have again := mem_nestedInResult.mpr ⟨i, inner, out, there, under, rfl⟩
  obtain ⟨ordered, exactly⟩ := each
  have all : extractCandidates payload =
      containerKeys.flatMap (blockOf payload) ++ nestedInResult payload := by
    have nonempty : (containerKeys.flatMap (blockOf payload) ++ nestedInResult payload).isEmpty =
        false := List.isEmpty_eq_false_iff.mpr fun none =>
      absurd again ((List.append_eq_nil_iff.mp none).2 ▸ List.not_mem_nil)
    rw [extractCandidates_eq]
    exact if_neg (by rw [nonempty]; exact Bool.false_ne_true)
  obtain ⟨key, mem, j, value, found, entry, isOut, rfl⟩ := under
  by_cases leaf : hasMediaOutputFields inner = true
  · have isOutput := (exactly _).mp (all ▸ List.mem_append_right _ again)
    obtain ⟨key', _, i', value', out', there', isOut', eq⟩ | ⟨eq, _⟩ := isOutput
    · obtain ⟨rfl, inside⟩ := List.cons.inj (congrArg Prod.fst eq)
      have same := getElem?_entryAt there
      rw [getElem?_entryAt there'] at same
      cases same
      cases isOut' with
      | object _ => cases inside
      | nested no _ _ _ => exact absurd leaf (by simp [no])
    · cases eq
  · have first : below i (below j found) ∈ containerKeys.flatMap (blockOf payload) :=
      mem_underKeys.mpr ⟨"result", by decide, i, .obj inner, below j found, there,
        .nested (Bool.eq_false_iff.mpr leaf) (List.mem_append_left _ mem) entry isOut, rfl⟩
    rw [all, InOrder, List.pairwise_append] at ordered
    exact List.lt_irrefl _ (ordered.2.2 _ first _ again)

theorem mem_extractCandidates (once : ResultHoldsNone payload) :
    found ∈ extractCandidates payload ↔ IsOutput payload found := by
  simp only [extractCandidates_eq, nestedInResult_eq_nil.mpr once, List.append_nil]
  by_cases empty : containerKeys.flatMap (blockOf payload) = []
  · have nothing : ∀ other, ¬ IsOutputUnder containerKeys payload other := fun other under => by
      have mem := mem_underKeys.mpr under
      rw [empty] at mem
      cases mem
    rw [empty]
    by_cases leaf : hasMediaOutputFields payload = true
    · simp [IsOutput, leaf, nothing]
    · simp [IsOutput, leaf, nothing]
  · rw [if_neg (by simp [empty]), mem_underKeys]
    obtain ⟨other, mem⟩ := List.exists_mem_of_ne_nil _ empty
    refine ⟨.inl, fun isOutput => isOutput.resolve_right ?_⟩
    exact fun ⟨_, _, nothing⟩ => nothing other (mem_underKeys.mp mem)

theorem under_of_nestedInResult (mem : found ∈ nestedInResult payload) :
    ∃ other, IsOutputUnder containerKeys payload other := by
  obtain ⟨i, inner, _, there, under, _⟩ := mem_nestedInResult.mp mem
  obtain ⟨key, isKey, j, value, out, entry, isOut, _⟩ := under
  by_cases leaf : hasMediaOutputFields inner = true
  · exact ⟨_, "result", by decide, i, .obj inner, _, there, .object leaf, rfl⟩
  · exact ⟨_, "result", by decide, i, .obj inner, _, there, .nested (Bool.eq_false_iff.mpr leaf)
      (List.mem_append_left _ isKey) entry isOut, rfl⟩

theorem extractCandidates_ne_nil :
    extractCandidates payload ≠ [] ↔ ∃ found, IsOutput payload found := by
  rw [extractCandidates_eq]
  by_cases empty : containerKeys.flatMap (blockOf payload) ++ nestedInResult payload = []
  · have nothing : ∀ other, ¬ IsOutputUnder containerKeys payload other := by
      intro other under
      have mem := mem_underKeys.mpr under
      rw [(List.append_eq_nil_iff.mp empty).1] at mem
      cases mem
    by_cases leaf : hasMediaOutputFields payload = true
    · simp [IsOutput, empty, leaf, nothing]
    · simp [IsOutput, empty, leaf, nothing]
  · have some : (containerKeys.flatMap (blockOf payload) ++ nestedInResult payload).isEmpty =
        false := List.isEmpty_eq_false_iff.mpr empty
    simp only [some, Bool.false_and, Bool.false_eq_true, if_false, ne_eq, empty, not_false_eq_true,
      true_iff]
    obtain ⟨found, mem⟩ := List.exists_mem_of_ne_nil _ empty
    cases List.mem_append.mp mem with
    | inl mem => exact ⟨found, .inl (mem_underKeys.mp mem)⟩
    | inr mem =>
      obtain ⟨other, under⟩ := under_of_nestedInResult mem
      exact ⟨other, .inl under⟩

end

def nestedVideos : JsonDict :=
  [("result", .obj [("videos", .arr [.obj [("video_url", .str "u")]])])]

end AgentHive.HttpMediaProvider
