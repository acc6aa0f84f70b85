import AgentHive.Store.TextBytes

/-!
Texts that arrive in pieces: bytes that are decoded as they come, and texts that are split at a
marker as they come.

Neither depends on where the pieces are cut.
-/

namespace TextStream

open TextBytes

structure Utf8State where
  needed : Nat := 0
  codePoint : Nat := 0
  lower : Nat := 0x80
  upper : Nat := 0xBF
  deriving DecidableEq

def replacement : Nat := 0xFFFD

def ofThree (high : Nat) : Utf8State where
  needed := 2
  codePoint := high
  lower := if high = 0x0 then 0xA0 else 0x80
  upper := if high = 0xD then 0x9F else 0xBF

def ofFour (high : Nat) : Utf8State where
  needed := 3
  codePoint := high
  lower := if high = 0x0 then 0x90 else 0x80
  upper := if high = 0x4 then 0x8F else 0xBF

def leadByte (b : Nat) : List Nat × Utf8State :=
  if b < 0x80 then ([b], {})
  else if 0xC2 ≤ b ∧ b ≤ 0xDF then ([], { needed := 1, codePoint := b - 0xC0 })
  else if 0xE0 ≤ b ∧ b ≤ 0xEF then ([], ofThree (b - 0xE0))
  else if 0xF0 ≤ b ∧ b ≤ 0xF4 then ([], ofFour (b - 0xF0))
  else ([replacement], {})

def utf8Step (s : Utf8State) (b : Nat) : List Nat × Utf8State :=
  if s.needed = 0 then leadByte b
  else if s.lower ≤ b ∧ b ≤ s.upper then
    let codePoint := s.codePoint * 64 + (b - 0x80)
    if s.needed = 1 then ([codePoint], {}) else ([], { needed := s.needed - 1, codePoint })
  else (replacement :: (leadByte b).1, (leadByte b).2)

def utf8Run : Utf8State → List Nat → List Nat × Utf8State
  | s, [] => ([], s)
  | s, b :: rest =>
    let (out, s') := utf8Step s b
    let (more, last) := utf8Run s' rest
    (out ++ more, last)

structure TextDecoder where
  utf8 : Utf8State := {}
  bomSeen : Bool := false

def serialize (bomSeen : Bool) (out : List Nat) : List Nat × Bool :=
  if bomSeen then (out, true)
  else
    match out with
    | [] => ([], false)
    | c :: rest => (if c = 0xFEFF then rest else c :: rest, true)

namespace TextDecoder

def decode (d : TextDecoder) (bytes : List Nat) : List Nat × TextDecoder :=
  let (out, utf8) := utf8Run d.utf8 bytes
  let (text, bomSeen) := serialize d.bomSeen out
  (text, { utf8, bomSeen })

def finish (d : TextDecoder) : List Nat :=
  (serialize d.bomSeen (if d.utf8.needed = 0 then [] else [replacement])).1

end TextDecoder

theorem utf8Run_append (s : Utf8State) (bytes more : List Nat) :
    utf8Run s (bytes ++ more) =
      ((utf8Run s bytes).1 ++ (utf8Run (utf8Run s bytes).2 more).1,
        (utf8Run (utf8Run s bytes).2 more).2) := by
  induction bytes generalizing s with
  | nil => rfl
  | cons b rest ih =>
    simp only [List.cons_append, utf8Run]
    rw [ih]
    simp only [List.append_assoc]

theorem serialize_append (bomSeen : Bool) (out more : List Nat) :
    serialize bomSeen (out ++ more) =
      ((serialize bomSeen out).1 ++ (serialize (serialize bomSeen out).2 more).1,
        (serialize (serialize bomSeen out).2 more).2) := by
  cases bomSeen with
  | true => rfl
  | false =>
    cases out with
    | nil => rfl
    | cons c rest =>
      simp only [serialize, Bool.false_eq_true, if_false, List.cons_append, if_true]
      split
      · rfl
      · rfl

theorem decode_append (d : TextDecoder) (bytes more : List Nat) :
    d.decode (bytes ++ more) =
      ((d.decode bytes).1 ++ ((d.decode bytes).2.decode more).1,
        ((d.decode bytes).2.decode more).2) := by
  simp only [TextDecoder.decode, utf8Run_append, serialize_append]

theorem utf8Step_last {s : Utf8State} {b : Nat} (one : s.needed = 1) (low : s.lower ≤ b)
    (high : b ≤ s.upper) : utf8Step s b = ([s.codePoint * 64 + (b - 0x80)], {}) := by
  rw [utf8Step, if_neg (by omega), if_pos ⟨low, high⟩, if_pos one]

theorem utf8Step_more {s : Utf8State} {b : Nat} (several : 1 < s.needed) (low : s.lower ≤ b)
    (high : b ≤ s.upper) : utf8Step s b =
      ([], { needed := s.needed - 1, codePoint := s.codePoint * 64 + (b - 0x80) }) := by
  rw [utf8Step, if_neg (by omega), if_pos ⟨low, high⟩, if_neg (by omega)]

theorem utf8Run_char {c : Nat} (scalar : isScalar c = true) :
    utf8Run {} (utf8Char c) = ([c], {}) := by
  simp only [isScalar, Bool.or_eq_true, Bool.and_eq_true, decide_eq_true_eq] at scalar
  unfold utf8Char
  split_ifs with one two three
  · have lead : utf8Step {} c = ([c], {}) := if_pos one
    rw [utf8Run, lead]
    rfl
  · have lead : utf8Step {} (0xC0 + c / 64) = ([], { needed := 1, codePoint := c / 64 }) := by
      rw [utf8Step, if_pos rfl, leadByte, if_neg (by omega), if_pos ⟨by omega, by omega⟩,
        Nat.add_sub_cancel_left]
    have last := @utf8Step_last { needed := 1, codePoint := c / 64 } (0x80 + c % 64) rfl
      (Nat.le_add_right _ _) (by dsimp only; omega)
    have value : c / 64 * 64 + (0x80 + c % 64 - 0x80) = c := by omega
    simp only [utf8Run, lead, last, value]
    rfl
  · have lead : utf8Step {} (0xE0 + c / 4096) = ([], ofThree (c / 4096)) := by
      rw [utf8Step, if_pos rfl, leadByte, if_neg (by omega), if_neg (by omega),
        if_pos ⟨by omega, by omega⟩, Nat.add_sub_cancel_left]
    have second := @utf8Step_more (ofThree (c / 4096)) (0x80 + c / 64 % 64)
      (Nat.lt_succ_self 1) (by dsimp only [ofThree]; split <;> omega)
      (by dsimp only [ofThree]; split <;> omega)
    have last := @utf8Step_last
      { needed := 1, codePoint := c / 4096 * 64 + (0x80 + c / 64 % 64 - 0x80) } (0x80 + c % 64) rfl
      (Nat.le_add_right _ _) (by dsimp only; omega)
    have value : (c / 4096 * 64 + (0x80 + c / 64 % 64 - 0x80)) * 64 + (0x80 + c % 64 - 0x80) = c := by
      omega
    have tail : utf8Run (ofThree (c / 4096)) [0x80 + c / 64 % 64, 0x80 + c % 64] = ([c], {}) := by
      rw [utf8Run, second]
      dsimp only [ofThree]
      rw [utf8Run, last, value]
      rfl
    rw [utf8Run, lead]
    dsimp only
    rw [tail]
    rfl
  · have lead : utf8Step {} (0xF0 + c / 262144) = ([], ofFour (c / 262144)) := by
      rw [utf8Step, if_pos rfl, leadByte, if_neg (by omega), if_neg (by omega),
        if_neg (by omega), if_pos ⟨by omega, by omega⟩, Nat.add_sub_cancel_left]
    have second := @utf8Step_more (ofFour (c / 262144)) (0x80 + c / 4096 % 64)
      (by decide : 1 < 3) (by dsimp only [ofFour]; split <;> omega)
      (by dsimp only [ofFour]; split <;> omega)
    have third := @utf8Step_more
      { needed := 2, codePoint := c / 262144 * 64 + (0x80 + c / 4096 % 64 - 0x80) }
      (0x80 + c / 64 % 64) (Nat.lt_succ_self 1) (Nat.le_add_right _ _) (by dsimp only; omega)
    have last := @utf8Step_last
      { needed := 1
        codePoint := (c / 262144 * 64 + (0x80 + c / 4096 % 64 - 0x80)) * 64 +
          (0x80 + c / 64 % 64 - 0x80) } (0x80 + c % 64) rfl (Nat.le_add_right _ _)
      (by dsimp only; omega)
    have value : ((c / 262144 * 64 + (0x80 + c / 4096 % 64 - 0x80)) * 64 +
        (0x80 + c / 64 % 64 - 0x80)) * 64 + (0x80 + c % 64 - 0x80) = c := by omega
    have tail : utf8Run (ofFour (c / 262144))
        [0x80 + c / 4096 % 64, 0x80 + c / 64 % 64, 0x80 + c % 64] = ([c], {}) := by
      rw [utf8Run, second]
      dsimp only [ofFour]
      rw [utf8Run, third]
      dsimp only
      rw [utf8Run, last, value]
      rfl
    rw [utf8Run, lead]
    dsimp only
    rw [tail]
    rfl

theorem utf8Run_utf8 {text : List Nat} (scalars : text.all isScalar = true) :
    utf8Run {} (utf8 text) = (text, {}) := by
  induction text with
  | nil => rfl
  | cons c rest ih =>
    rw [List.all_cons, Bool.and_eq_true] at scalars
    rw [utf8, List.flatMap_cons, ← utf8, utf8Run_append, utf8Run_char scalars.1, ih scalars.2]
    rfl

section Parts

variable {α : Type}

theorem modifyHead_append {f : List α → List α} {parts : List (List α)} (some : parts ≠ [])
    (more : List (List α)) : (parts ++ more).modifyHead f = parts.modifyHead f ++ more := by
  cases parts with
  | nil => exact absurd rfl some
  | cons part rest => rfl

theorem getLastD_append {front parts : List (List α)} (some : parts ≠ []) :
    (front ++ parts).getLastD [] = parts.getLastD [] := by
  obtain ⟨rest, last, rfl⟩ := List.eq_nil_or_concat _ |>.resolve_left some
  simp [← List.append_assoc]

theorem dropLast_append_getLastD {parts : List (List α)} (some : parts ≠ []) :
    parts.dropLast ++ [parts.getLastD []] = parts := by
  obtain ⟨rest, last, rfl⟩ := List.eq_nil_or_concat _ |>.resolve_left some
  simp

end Parts

section Splitting

variable {α : Type} [DecidableEq α] (marker : List α)

def splitFrom : Nat → List α → List (List α)
  | _, [] => [[]]
  | skip + 1, _ :: rest => splitFrom skip rest
  | 0, c :: rest =>
    if marker.isPrefixOf (c :: rest) then [] :: splitFrom (marker.length - 1) rest
    else (splitFrom 0 rest).modifyHead (c :: ·)

/-- `text.split(marker)`, for a marker that is not empty. -/
def split (text : List α) : List (List α) := splitFrom marker 0 text

def drain (buffer piece : List α) : List (List α) × List α :=
  ((split marker (buffer ++ piece)).dropLast, (split marker (buffer ++ piece)).getLastD [])

def drainAll : List α → List (List α) → List (List α) × List α
  | buffer, [] => ([], buffer)
  | buffer, piece :: rest =>
    let (parts, buffer) := drain marker buffer piece
    let (more, last) := drainAll buffer rest
    (parts ++ more, last)

variable {marker}

theorem splitFrom_eq (skip : Nat) (text : List α) :
    splitFrom marker skip text = split marker (text.drop skip) := by
  induction skip generalizing text with
  | zero => rfl
  | succ skip ih =>
    cases text with
    | nil => rfl
    | cons c rest => exact ih rest

theorem split_marker (filled : marker ≠ []) (rest : List α) :
    split marker (marker ++ rest) = [] :: split marker rest := by
  obtain ⟨c, more, rfl⟩ := List.exists_cons_of_ne_nil filled
  have here : (c :: more).isPrefixOf (c :: (more ++ rest)) = true :=
    List.isPrefixOf_iff_prefix.mpr (List.prefix_append (c :: more) rest)
  rw [split, List.cons_append, splitFrom, if_pos here, splitFrom_eq, List.length_cons,
    Nat.add_sub_cancel, List.drop_left]

theorem split_cons {c : α} {rest : List α} (apart : ¬ marker <+: c :: rest) :
    split marker (c :: rest) = (split marker rest).modifyHead (c :: ·) := by
  have other : ¬ marker.isPrefixOf (c :: rest) = true :=
    fun here => apart (List.isPrefixOf_iff_prefix.mp here)
  rw [split, splitFrom, if_neg other, split]

theorem split_ne_nil (filled : marker ≠ []) (text : List α) : split marker text ≠ [] := by
  induction text with
  | nil => exact List.cons_ne_nil _ _
  | cons c rest ih =>
    by_cases here : marker <+: c :: rest
    · obtain ⟨later, whole⟩ := here
      rw [← whole, split_marker filled]
      exact List.cons_ne_nil _ _
    · rw [split_cons here]
      cases parts : split marker rest with
      | nil => exact absurd parts ih
      | cons part more => exact List.cons_ne_nil _ _

theorem split_short {text : List α} (short : text.length < marker.length) :
    split marker text = [text] := by
  induction text with
  | nil => rfl
  | cons c rest ih =>
    have apart : ¬ marker <+: c :: rest := fun here => absurd here.length_le (Nat.not_le.mpr short)
    rw [split_cons apart, ih (Nat.lt_of_succ_lt short)]
    rfl

theorem eq_of_split (filled : marker ≠ []) {text part : List α}
    (one : split marker text = [part]) : part = text := by
  induction text generalizing part with
  | nil => exact (List.cons.inj one).1.symm
  | cons c rest ih =>
    by_cases here : marker <+: c :: rest
    · obtain ⟨later, whole⟩ := here
      rw [← whole, split_marker filled] at one
      exact absurd (List.cons.inj one).2 (split_ne_nil filled later)
    · rw [split_cons here] at one
      cases parts : split marker rest with
      | nil => exact absurd parts (split_ne_nil filled rest)
      | cons first more =>
        rw [parts] at one
        obtain ⟨first', more'⟩ := List.cons.inj one
        rw [more'] at parts
        rw [← first', ih parts]

theorem split_append (filled : marker ≠ []) (text more : List α) :
    split marker (text ++ more) = (split marker text).dropLast ++
      split marker ((split marker text).getLastD [] ++ more) := by
  induction length : text.length using Nat.strongRecOn generalizing text with
  | ind n ih =>
    cases text with
    | nil => rfl
    | cons c rest =>
      by_cases here : marker <+: c :: rest
      · obtain ⟨later, whole⟩ := here
        have shorter : later.length < n := by
          have sizes := congrArg List.length whole
          rw [List.length_append, length] at sizes
          have positive := List.length_pos_iff.mpr filled
          omega
        have parts := split_ne_nil filled later
        rw [← whole, List.append_assoc, split_marker filled, split_marker filled,
          ih later.length shorter later rfl, List.dropLast_cons_of_ne_nil parts,
          List.cons_append]
        have same : ([] :: split marker later).getLastD [] = (split marker later).getLastD [] :=
          @getLastD_append α [[]] _ parts
        rw [same]
      · by_cases there : marker <+: c :: rest ++ more
        · have short : (c :: rest).length < marker.length := by
            by_contra long
            exact here (List.prefix_of_prefix_length_le there (List.prefix_append _ more)
              (Nat.not_lt.mp long))
          rw [split_short short]
          rfl
        · have shorter : rest.length < n := by
            rw [← length]
            exact Nat.lt_succ_self _
          have behind := ih rest.length shorter rest rfl
          have apart : ¬ marker <+: c :: (rest ++ more) := there
          rw [List.cons_append, split_cons apart, split_cons here]
          cases parts : split marker rest with
          | nil => exact absurd parts (split_ne_nil filled rest)
          | cons part parts' =>
            cases parts' with
            | nil =>
              have same := eq_of_split filled parts
              rw [same]
              exact (split_cons apart).symm
            | cons next later =>
              rw [parts] at behind
              rw [behind, modifyHead_append (by simp)]
              rfl

theorem split_left (filled : marker ≠ []) (text : List α) :
    split marker ((split marker text).getLastD []) = [(split marker text).getLastD []] := by
  have same := split_append filled text []
  rw [List.append_nil, List.append_nil] at same
  apply @List.append_cancel_left _ (split marker text).dropLast
  rw [← same, dropLast_append_getLastD (split_ne_nil filled text)]

theorem drainAll_eq (filled : marker ≠ []) {buffer : List α}
    (left : split marker buffer = [buffer]) (pieces : List (List α)) :
    drainAll marker buffer pieces =
      ((split marker (buffer ++ pieces.flatten)).dropLast,
        (split marker (buffer ++ pieces.flatten)).getLastD []) := by
  induction pieces generalizing buffer with
  | nil =>
    rw [List.flatten_nil, List.append_nil, left]
    rfl
  | cons piece rest ih =>
    have parts := split_ne_nil filled
      ((split marker (buffer ++ piece)).getLastD [] ++ rest.flatten)
    rw [drainAll, drain]
    dsimp only
    rw [ih (split_left filled _), List.flatten_cons, ← List.append_assoc,
      split_append filled (buffer ++ piece), List.dropLast_append_of_ne_nil parts,
      getLastD_append parts]

theorem split_append_of_not_mem {c : α} {rest text : List α} (begins : marker = c :: rest)
    (apart : c ∉ text) (more : List α) :
    split marker (text ++ more) = (split marker more).modifyHead (text ++ ·) := by
  induction text with
  | nil =>
    rw [List.nil_append]
    cases split marker more with
    | nil => rfl
    | cons part parts => rfl
  | cons d text ih =>
    have other : ¬ marker <+: d :: (text ++ more) := by
      rw [begins]
      intro here
      exact apart ((List.cons_prefix_cons.mp here).1 ▸ List.mem_cons_self ..)
    rw [List.cons_append, split_cons other, ih fun mem => apart (List.mem_cons_of_mem d mem)]
    cases split marker more with
    | nil => rfl
    | cons part parts => rfl

theorem split_apart {c : α} {more part : List α} (apart : c ∉ part) :
    split (c :: more) part = [part] := by
  induction part with
  | nil => rfl
  | cons d rest ih =>
    rw [List.mem_cons, not_or] at apart
    have other : ¬ c :: more <+: d :: rest := fun here =>
      apart.1 (List.cons_prefix_cons.mp here).1
    rw [split_cons other, ih apart.2]
    rfl

theorem split_part {c : α} {more part : List α} (apart : c ∉ part) (rest : List α) :
    split (c :: more) (part ++ (c :: more) ++ rest) = part :: split (c :: more) rest := by
  induction part with
  | nil => exact split_marker (List.cons_ne_nil _ _) rest
  | cons d part ih =>
    rw [List.mem_cons, not_or] at apart
    have other : ¬ c :: more <+: d :: (part ++ (c :: more) ++ rest) := fun here =>
      apart.1 (List.cons_prefix_cons.mp here).1
    rw [List.cons_append, List.cons_append, split_cons other, ih apart.2]
    rfl

theorem split_intercalate {c : α} {more : List α} {parts : List (List α)} (some : parts ≠ [])
    (apart : ∀ part ∈ parts, c ∉ part) :
    split (c :: more) ((c :: more).intercalate parts) = parts := by
  induction parts with
  | nil => exact absurd rfl some
  | cons part rest ih =>
    obtain ⟨here, later⟩ := List.forall_mem_cons.mp apart
    cases rest with
    | nil => rw [List.intercalate_singleton, split_apart here]
    | cons next rest =>
      rw [List.intercalate_cons_cons, split_part here,
        ih (List.cons_ne_nil _ _) later]

end Splitting

end TextStream
