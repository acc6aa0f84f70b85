import AgentHive.Llm.Values
import Mathlib.Algebra.Order.Field.Rat
import Mathlib.Data.List.Sort

/-!
What the retrieval engines are asked and what they answer.

A dictionary is the list of its entries, each key once.
-/

namespace AgentHive.Rag

open List (lookup map_cons mem_cons nodup_cons)

inductive Json
  | null
  | bool (b : Bool)
  | num (q : ℚ)
  | str (s : String)
  | arr (items : List Json)
  | obj (entries : List (String × Json))

abbrev JsonDict : Type := List (String × Json)

namespace Json

/-- `bool(value)`. -/
def truthy : Json → Bool
  | .null => false
  | .bool b => b
  | .num q => q != 0
  | .str s => s != ""
  | .arr items => !items.isEmpty
  | .obj entries => !entries.isEmpty

def isNull : Json → Bool
  | .null => true
  | _ => false

end Json

namespace JsonDict

/-- `d.get(key)`. -/
def get (d : JsonDict) (key : String) : Json := (d.lookup key).getD .null

/-- `d.get(key) or d.get(other) or …`: the first that counts, or the last. -/
def firstOf (d : JsonDict) : List String → Json
  | [] => .null
  | [key] => d.get key
  | key :: keys => if (d.get key).truthy then d.get key else firstOf d keys

def set : JsonDict → String → Json → JsonDict
  | [], key, value => [(key, value)]
  | (k, v) :: rest, key, value =>
    if k = key then (k, value) :: rest else (k, v) :: set rest key value

def merge (d other : JsonDict) : JsonDict := other.foldl (fun d e => d.set e.1 e.2) d

theorem lookup_entry (key : String) (entry : String × Json) (rest : JsonDict) :
    lookup key (entry :: rest) = if key = entry.1 then some entry.2 else rest.lookup key := by
  obtain ⟨k, v⟩ := entry
  by_cases same : key = k
  · simp [same]
  · have ne : (key == k) = false := beq_eq_false_iff_ne.mpr same
    simp only [List.lookup_cons, ne, if_neg same]

theorem lookup_set (d : JsonDict) (key other : String) (value : Json) :
    lookup other (d.set key value) = if other = key then some value else d.lookup other := by
  induction d with
  | nil => exact lookup_entry other (key, value) []
  | cons entry rest ih =>
    obtain ⟨k, v⟩ := entry
    rw [set]
    by_cases here : k = key
    · rw [if_pos here, lookup_entry, lookup_entry, here]
      by_cases same : other = key
      · simp only [if_pos same]
      · simp only [if_neg same]
    · rw [if_neg here, lookup_entry, lookup_entry, ih]
      by_cases same : other = k
      · have apart : ¬ other = key := by
          rw [same]
          exact here
        simp only [if_pos same, if_neg apart]
      · simp only [if_neg same]

theorem get_set_self (d : JsonDict) (key : String) (value : Json) :
    (d.set key value).get key = value := by
  rw [get, lookup_set, if_pos rfl]
  rfl

variable {key : String}

theorem get_set_of_ne (d : JsonDict) {other : String} (value : Json) (ne : other ≠ key) :
    (d.set key value).get other = d.get other := by
  rw [get, lookup_set, if_neg ne]
  rfl

theorem lookup_merge (d other : JsonDict) (key : String) :
    lookup key (d.merge other) = (other.reverse.lookup key).or (d.lookup key) := by
  induction other generalizing d with
  | nil => rfl
  | cons entry rest ih =>
    obtain ⟨k, v⟩ := entry
    rw [show merge d ((k, v) :: rest) = merge (d.set k v) rest from rfl, ih, lookup_set,
      List.reverse_cons, List.lookup_append, lookup_entry]
    by_cases same : key = k
    · simp [same]
    · simp [same]

variable {other : JsonDict}

theorem get_merge_of_not_mem (d : JsonDict) (absent : ∀ entry ∈ other, key ≠ entry.1) :
    (d.merge other).get key = d.get key := by
  have missing : lookup key other.reverse = none := by
    rw [List.lookup_eq_none_iff]
    intro entry mem
    exact bne_iff_ne.mpr (absent entry (List.mem_reverse.mp mem))
  rw [get, lookup_merge, missing]
  rfl

def Distinct (d : JsonDict) : Prop := (d.map Prod.fst).Nodup

variable {d : JsonDict}

theorem mem_keys_set {other : String} {value : Json} :
    other ∈ (d.set key value).map Prod.fst ↔ other ∈ d.map Prod.fst ∨ other = key := by
  induction d with
  | nil => simp [set]
  | cons entry rest ih =>
    obtain ⟨k, v⟩ := entry
    rw [set]
    by_cases here : k = key
    · rw [if_pos here, map_cons, map_cons, mem_cons, here]
      tauto
    · rw [if_neg here, map_cons, map_cons, mem_cons, mem_cons, ih]
      tauto

theorem Distinct.set (distinct : Distinct d) (key : String) (value : Json) :
    Distinct (JsonDict.set d key value) := by
  induction d with
  | nil => exact List.nodup_singleton key
  | cons entry rest ih =>
    obtain ⟨k, v⟩ := entry
    obtain ⟨absent, later⟩ := nodup_cons.mp distinct
    rw [Distinct, JsonDict.set]
    by_cases here : k = key
    · rw [if_pos here]
      exact nodup_cons.mpr ⟨absent, later⟩
    · rw [if_neg here]
      refine nodup_cons.mpr ⟨fun mem => ?_, ih later⟩
      cases mem_keys_set.mp mem with
      | inl old => exact absent old
      | inr same => exact here same

theorem Distinct.merge (distinct : Distinct d) (other : JsonDict) :
    Distinct (JsonDict.merge d other) := by
  induction other generalizing d with
  | nil => exact distinct
  | cons entry rest ih => exact ih (distinct.set entry.1 entry.2)

theorem lookup_eq_none_of_not_mem (absent : key ∉ d.map Prod.fst) : lookup key d = none := by
  rw [List.lookup_eq_none_iff]
  intro entry mem
  exact bne_iff_ne.mpr fun eq => absent (List.mem_map.mpr ⟨entry, mem, eq.symm⟩)

theorem Distinct.lookup_reverse (distinct : Distinct d) (key : String) :
    lookup key d.reverse = lookup key d := by
  induction d with
  | nil => rfl
  | cons entry rest ih =>
    obtain ⟨absent, later⟩ := nodup_cons.mp distinct
    rw [List.reverse_cons, List.lookup_append, ih later, lookup_entry, lookup_entry]
    by_cases same : key = entry.1
    · rw [if_pos same, if_pos same, same, lookup_eq_none_of_not_mem absent]
      rfl
    · rw [if_neg same, if_neg same]
      exact Option.or_none

theorem Distinct.lookup_merge (distinct : Distinct other) (d : JsonDict) (key : String) :
    lookup key (JsonDict.merge d other) =
      (lookup key other).or (lookup key d) := by
  rw [JsonDict.lookup_merge, distinct.lookup_reverse]

theorem lookup_merge_of_not_mem (d : JsonDict) (absent : key ∉ other.map Prod.fst) :
    lookup key (d.merge other) = lookup key d := by
  rw [lookup_merge, lookup_eq_none_of_not_mem]
  · rfl
  · simpa only [List.map_reverse, List.mem_reverse] using absent

def sortedKeys (d : JsonDict) : Json :=
  .arr (((d.map Prod.fst).insertionSort fun a b => a ≤ b).map Json.str)

end JsonDict

inductive PyFloat
  | finite (q : ℚ)
  | infinite (negative : Bool)
  | nan
deriving DecidableEq

def PyFloat.isNegative : PyFloat → Bool
  | .finite q => q < 0
  | .infinite negative => negative
  | .nan => false

/-- `str` of a value, and what the constructors make of texts. -/
structure TextLibrary where
  str : Json → String
  uuidOf : String → Option UUID
  floatOf : String → Option PyFloat

inductive RAGEngineType
  | ragflow
  | pgvector
deriving DecidableEq

structure RAGChunk where
  chunkId : String
  documentId : Option UUID
  text : String
  score : Option PyFloat
  sourceName : Option String
  metadata : JsonDict
  score_nonneg : ∀ value ∈ score, value.isNegative = false

structure RetrieveRequest where
  tenantId : UUID
  knowledgeBaseId : UUID
  query : String
  topK : Nat := 5
  scoreThreshold : Option ℚ := none
  filters : JsonDict := []
  includeRawChunks : Bool := false

structure RetrieveResult where
  chunks : List RAGChunk
  engine : RAGEngineType
  elapsedMs : Nat
  diagnostics : JsonDict := []

structure VectorSearchRequest where
  tenantId : UUID
  knowledgeBaseId : UUID
  query : String
  topK : Nat := 5
  filters : JsonDict := []

end AgentHive.Rag
