import AgentHive.Knowledge.DocumentProcessing
import AgentHive.Store.IpAddress
import AgentHive.Store.TextStream

/-!
Which chunks the full-text search finds: the text that is indexed for a chunk and the
query are made by one extractor, which keeps the first terms only.
-/

namespace AgentHive.DocumentProcessing

structure SimpleConfiguration (classes : TextClasses) where
  lowerChar : Char → Char
  lowerChar_lower : ∀ value, ∀ c ∈ (classes.lower value).toList, lowerChar c = c
  blank_apart : classes.isWord ' ' = false

section

variable {classes : TextClasses} (config : SimpleConfiguration classes)

def toTsvector (text : String) : List (List Char) :=
  ((TextStream.split [' '] text.toList).filter fun part => !part.isEmpty).map
    (·.map config.lowerChar)

/-- The operands of `to_tsquery('simple', query)`, any of which may match. -/
def toTsquery (query : String) : List (List Char) :=
  ((TextStream.split " | ".toList query.toList).filter fun part => !part.isEmpty).map
    (·.map config.lowerChar)

/-- `to_tsvector(text) @@ to_tsquery(query)`. -/
def tsMatches (text query : String) : Bool :=
  (toTsquery config query).any fun operand => (toTsvector config text).contains operand

end

variable (classes : TextClasses)

def allTerms (value : String) : List (List Char) :=
  let cjkChars := (normalizeSearchText classes value).filter isCjk
  ((searchWords classes value).filter fun term => 2 ≤ term.length) ++
    (cjkChars.zip cjkChars.tail).map fun pair => [pair.1, pair.2]

def termsBefore (term : List Char) (terms : List (List Char)) : Nat :=
  (terms.takeWhile (· != term)).eraseDups.length

section

variable {α : Type} [BEq α] [LawfulBEq α]

theorem takeWhile_filter {a t : α} (other : t ≠ a) (l : List α) :
    (l.filter (· != a)).takeWhile (· != t) = (l.takeWhile (· != t)).filter (· != a) := by
  induction l with
  | nil => rfl
  | cons b l ih =>
    by_cases dropped : b = a
    · have goes : b ≠ t := dropped ▸ other.symm
      rw [List.filter_cons_of_neg (by simp [dropped]), List.takeWhile_cons_of_pos (by simp [goes]),
        List.filter_cons_of_neg (by simp [dropped]), ih]
    · rw [List.filter_cons_of_pos (by simp [dropped])]
      by_cases met : b = t
      · rw [List.takeWhile_cons_of_neg (by simp [met]), List.takeWhile_cons_of_neg (by simp [met])]
        rfl
      · rw [List.takeWhile_cons_of_pos (by simp [met]), List.takeWhile_cons_of_pos (by simp [met]),
          List.filter_cons_of_pos (by simp [dropped]), ih]

theorem mem_take_eraseDups {l : List α} {t : α} {n : Nat} :
    t ∈ l.eraseDups.take n ↔ t ∈ l ∧ (l.takeWhile (· != t)).eraseDups.length < n := by
  induction length : l.length using Nat.strongRecOn generalizing l n with
  | ind size ih =>
    cases l with
    | nil => simp
    | cons a l =>
      rw [List.eraseDups_cons]
      cases n with
      | zero => simp
      | succ n =>
        rw [List.take_succ_cons, List.mem_cons, List.mem_cons]
        by_cases first : t = a
        · simp [first]
        · have shorter : (l.filter (· != a)).length < size := by
            rw [← length]
            exact Nat.lt_succ_of_le (List.length_filter_le _ _)
          have later := ih _ shorter (l := l.filter (· != a)) (n := n) rfl
          rw [takeWhile_filter first, List.mem_filter] at later
          rw [List.takeWhile_cons_of_pos (by simp [Ne.symm first]), List.eraseDups_cons,
            List.length_cons, Nat.succ_lt_succ_iff]
          have shape : ∀ l : List α, (l.filter fun b => !b == a) = l.filter (· != a) :=
            fun _ => rfl
          rw [shape, shape, later]
          simp [first]

end

variable {classes}

theorem mem_splitOnP {α : Type} {p : α → Bool} {l part : List α} (mem : part ∈ l.splitOnP p) :
    ∀ a ∈ part, a ∈ l ∧ p a = false := by
  induction l generalizing part with
  | nil =>
    rw [List.splitOnP_nil, List.mem_singleton] at mem
    rw [mem]
    exact fun a inside => absurd inside List.not_mem_nil
  | cons b l ih =>
    rw [List.splitOnP_cons_eq_if_modifyHead] at mem
    by_cases parts : p b = true
    · rw [if_pos parts, List.mem_cons] at mem
      intro a inside
      cases mem with
      | inl empty =>
        rw [empty] at inside
        cases inside
      | inr later => exact ⟨List.mem_cons_of_mem b (ih later a inside).1, (ih later a inside).2⟩
    · obtain ⟨first, rest, eq⟩ := List.exists_cons_of_ne_nil (List.splitOnP_ne_nil p l)
      rw [eq] at ih
      rw [if_neg parts, eq, List.modifyHead_cons, List.mem_cons] at mem
      intro a inside
      cases mem with
      | inl head =>
        rw [head, List.mem_cons] at inside
        cases inside with
        | inl same => exact ⟨same ▸ List.mem_cons_self, same ▸ Bool.eq_false_iff.mpr parts⟩
        | inr within =>
          obtain ⟨there, apart⟩ := ih List.mem_cons_self a within
          exact ⟨List.mem_cons_of_mem b there, apart⟩
      | inr later =>
        obtain ⟨there, apart⟩ := ih (List.mem_cons_of_mem _ later) a inside
        exact ⟨List.mem_cons_of_mem b there, apart⟩

theorem mem_searchWords {value : String} {word : List Char} (mem : word ∈ searchWords classes value) :
    ∀ c ∈ word, c ∈ (classes.lower value).toList ∧ (classes.isWord c || isCjk c) = true := by
  intro c inside
  obtain ⟨there, kept⟩ := mem_splitOnP (List.mem_filter.mp mem).1 c inside
  exact ⟨there, Bool.not_eq_eq_eq_not.mp kept⟩

theorem mem_allTerms {value : String} {term : List Char} (mem : term ∈ allTerms classes value) :
    term ≠ [] ∧
      ∀ c ∈ term, c ∈ (classes.lower value).toList ∧ (classes.isWord c || isCjk c) = true := by
  have cjk : ∀ c ∈ (normalizeSearchText classes value).filter isCjk,
      c ∈ (classes.lower value).toList ∧ (classes.isWord c || isCjk c) = true := by
    intro c inside
    obtain ⟨among, isCjk_c⟩ := List.mem_filter.mp inside
    cases IpAddress.mem_of_mem_intercalate among with
    | inl blank =>
      rw [blank] at isCjk_c
      cases isCjk_c
    | inr word =>
      obtain ⟨word, isWord, within⟩ := word
      exact mem_searchWords isWord c within
  cases List.mem_append.mp mem with
  | inl word =>
    obtain ⟨isWord, long⟩ := List.mem_filter.mp word
    refine ⟨?_, mem_searchWords isWord⟩
    intro empty
    rw [empty] at long
    cases long
  | inr bigram =>
    obtain ⟨pair, both, eq⟩ := List.mem_map.mp bigram
    obtain ⟨left, right⟩ := List.of_mem_zip both
    rw [← eq]
    refine ⟨List.cons_ne_nil _ _, ?_⟩
    intro c inside
    rw [List.mem_cons, List.mem_singleton] at inside
    cases inside with
    | inl first => exact first ▸ cjk _ left
    | inr second => exact second ▸ cjk _ (List.mem_of_mem_tail right)

theorem queryTerms_eq (value : String) :
    queryTerms classes value = (allTerms classes value).eraseDups.take 24 := rfl

section

variable (config : SimpleConfiguration classes)

theorem map_lowerChar {value : String} {term : List Char} (mem : term ∈ queryTerms classes value) :
    term ≠ [] ∧ ' ' ∉ term ∧ term.map config.lowerChar = term := by
  rw [queryTerms_eq] at mem
  obtain ⟨filled, chars⟩ := mem_allTerms (List.mem_eraseDups.mp (List.mem_of_mem_take mem))
  refine ⟨filled, ?_, ?_⟩
  · intro blank
    have kept := (chars ' ' blank).2
    rw [config.blank_apart] at kept
    cases kept
  · exact (List.map_congr_left fun c inside =>
      config.lowerChar_lower value c (chars c inside).1).trans (List.map_id _)

theorem split_terms {c : Char} {more : List Char} (value : String)
    (apart : ∀ term ∈ queryTerms classes value, c ∉ term) :
    ((TextStream.split (c :: more) ((c :: more).intercalate (queryTerms classes value))).filter
      fun part => !part.isEmpty).map (·.map config.lowerChar) = queryTerms classes value := by
  have parts : (TextStream.split (c :: more)
      ((c :: more).intercalate (queryTerms classes value))).filter (fun part => !part.isEmpty) =
        queryTerms classes value := by
    by_cases none : queryTerms classes value = []
    · rw [none]
      rfl
    · rw [TextStream.split_intercalate none apart, List.filter_eq_self]
      intro term mem
      have filled := (map_lowerChar config mem).1
      simpa using filled
  rw [parts]
  exact (List.map_congr_left fun term mem => (map_lowerChar config mem).2.2).trans (List.map_id _)

theorem toTsvector_buildFtsText (value : String) :
    toTsvector config (buildFtsText classes value) = queryTerms classes value := by
  rw [toTsvector, buildFtsText, String.toList_ofList]
  exact split_terms config value fun term mem => (map_lowerChar config mem).2.1

theorem toTsquery_buildFtsQuery (value : String) :
    toTsquery config (buildFtsQuery classes value) = queryTerms classes value := by
  have bar : " | ".toList = [' ', '|', ' '] := by decide
  rw [toTsquery, buildFtsQuery, bar, String.toList_ofList]
  exact split_terms config value fun term mem => (map_lowerChar config mem).2.1

/-- The search finds a chunk with a term of the query, if it has one, exactly when fewer
than 24 other terms of the chunk come before such a term. -/
theorem shared_term_found_iff (chunk query : String) :
    ((∃ term ∈ queryTerms classes query, term ∈ allTerms classes chunk) →
        tsMatches config (buildFtsText classes chunk) (buildFtsQuery classes query) = true) ↔
      ((∃ term ∈ queryTerms classes query, term ∈ allTerms classes chunk) →
        ∃ term ∈ queryTerms classes query, term ∈ allTerms classes chunk ∧
          termsBefore term (allTerms classes chunk) < 24) := by
  have found : tsMatches config (buildFtsText classes chunk) (buildFtsQuery classes query) = true ↔
      ∃ term ∈ queryTerms classes query, term ∈ allTerms classes chunk ∧
        termsBefore term (allTerms classes chunk) < 24 := by
    rw [tsMatches, toTsvector_buildFtsText, toTsquery_buildFtsQuery, List.any_eq_true]
    simp only [List.contains_iff_mem, queryTerms_eq chunk, mem_take_eraseDups, termsBefore]
  rw [found]

end

def plainClasses : TextClasses where
  lower := id
  isWord c := c.isAlpha

def plainConfiguration : SimpleConfiguration plainClasses where
  lowerChar := id
  lowerChar_lower _ _ _ := rfl
  blank_apart := rfl

def longChunk : String :=
  "our shop sells tables chairs lamps rugs beds desks shelves mirrors clocks vases frames " ++
    "candles pillows blankets curtains towels mugs plates bowls knives forks refunds"

theorem last_word_is_not_found :
    ¬ ((∃ term ∈ queryTerms plainClasses "refunds", term ∈ allTerms plainClasses longChunk) →
      tsMatches plainConfiguration (buildFtsText plainClasses longChunk)
        (buildFtsQuery plainClasses "refunds") = true) := by
  decide +kernel

end AgentHive.DocumentProcessing
