import AgentHive.Store.TextBytes
import Mathlib.Data.List.Lex
import Mathlib.Data.List.Sort

/-!
JSON documents as texts.

A text is the list of its code points. Of numbers nothing is known but that they are read back from
how they are written.
-/

namespace JsonText

open TextBytes

inductive Value (N : Type) where
  | null
  | bool (b : Bool)
  | num (n : N)
  | str (text : List Nat)
  | arr (items : List (Value N))
  | obj (entries : List (List Nat × Value N))

def codes (text : String) : List Nat := text.toList.map Char.toNat

theorem codes_inj {text text' : String} (same : codes text = codes text') : text = text' := by
  have chars : Function.Injective Char.toNat := fun _ _ eq => Char.toNat_inj.mp eq
  exact String.toList_inj.mp (chars.list_map same)

variable (text : List Nat)

def ofCodes : Option String :=
  if text.all isScalar then some (String.ofList (text.map Char.ofNat)) else none

theorem isScalar_toNat (c : Char) : isScalar c.toNat = true := by
  have valid := c.valid
  simp only [isScalar, Bool.or_eq_true, Bool.and_eq_true, decide_eq_true_eq]
  simp only [UInt32.isValidChar, Nat.isValidChar] at valid
  change c.toNat < 0xD800 ∨ 0xDFFF < c.toNat ∧ c.toNat < 0x110000 at valid
  omega

@[simp] theorem ofCodes_codes (text : String) : ofCodes (codes text) = some text := by
  have scalars : (codes text).all isScalar = true := by
    simp [codes, isScalar_toNat]
  rw [ofCodes, if_pos scalars]
  simp [codes, Function.comp_def]

def isSpace (c : Nat) : Bool := c = 0x20 || c = 0x0A || c = 0x0D || c = 0x09

def skip : List Nat := text.dropWhile isSpace

def isPlain (c : Nat) : Bool := !(c = 0x2C || c = 0x5D || c = 0x7D || isSpace c)

theorem skip_append {spaces : List Nat} (all : ∀ c ∈ spaces, isSpace c = true) (rest : List Nat) :
    skip (spaces ++ rest) = skip rest := by
  induction spaces with
  | nil => rfl
  | cons c spaces ih =>
    obtain ⟨first, later⟩ := List.forall_mem_cons.mp all
    rw [List.cons_append, skip, List.dropWhile_cons, if_pos first, ← skip, ih later]

theorem skip_cons {c : Nat} (other : isSpace c = false) (rest : List Nat) :
    skip (c :: rest) = c :: rest := by
  rw [skip, List.dropWhile_cons, if_neg (by simp [other])]

def shortEscape : Nat → Option Nat
  | 0x22 => some 0x22
  | 0x5C => some 0x5C
  | 0x0A => some 0x6E
  | 0x0D => some 0x72
  | 0x09 => some 0x74
  | 0x08 => some 0x62
  | 0x0C => some 0x66
  | _ => none

def hexDigit (d : Nat) : Nat := if d < 10 then 0x30 + d else 0x57 + d

def escape (c : Nat) : List Nat :=
  match shortEscape c with
  | some x => [0x5C, x]
  | none =>
    if c < 0x20 then [0x5C, 0x75, 0x30, 0x30, hexDigit (c / 16), hexDigit (c % 16)] else [c]

def quote : List Nat := 0x22 :: (text.flatMap escape ++ [0x22])

/-- How numbers are written, and read. -/
structure NumberTexts (N : Type) where
  text : N → List Nat
  read : List Nat → Option N
  read_text : ∀ n, read (text n) = some n
  plain : ∀ {n c}, c ∈ text n → isPlain c = true
  begins : ∀ n, ∃ c rest, text n = c :: rest ∧ c ∉ [0x6E, 0x74, 0x66, 0x22, 0x5B, 0x7B]
  /-- A number begins with a digit, with its sign, or like `NaN` and `Infinity`. -/
  read_begins : ∀ {c rest n}, read (c :: rest) = some n →
    0x30 ≤ c ∧ c ≤ 0x39 ∨ c ∈ [0x2D, 0x49, 0x4E]

structure Layout where
  gap : Nat → List Nat
  between : List Nat
  after : List Nat
  between_spaces : ∀ c ∈ between, isSpace c = true
  gap_spaces : ∀ level, ∀ c ∈ gap level, isSpace c = true
  after_spaces : ∀ c ∈ after, isSpace c = true

theorem no_spaces {c : Nat} (mem : c ∈ ([] : List Nat)) : isSpace c = true :=
  absurd mem List.not_mem_nil

def compact : Layout where
  gap _ := []
  between := []
  after := []
  between_spaces _ mem := no_spaces mem
  gap_spaces _ _ mem := no_spaces mem
  after_spaces _ mem := no_spaces mem

def newline (level : Nat) : List Nat := 0x0A :: List.replicate (2 * level) 0x20

theorem newline_spaces (level : Nat) : ∀ c ∈ newline level, isSpace c = true := by
  intro c mem
  cases List.mem_cons.mp mem with
  | inl first => rw [first]; rfl
  | inr later => rw [List.eq_of_mem_replicate later]; rfl

theorem space_spaces : ∀ c ∈ [0x20], isSpace c = true := by decide

def indented : Layout where
  gap := newline
  between := []
  after := [0x20]
  between_spaces _ mem := no_spaces mem
  gap_spaces := newline_spaces
  after_spaces := space_spaces

/-- `separators=(", ", ": ")`, as it is without an indent. -/
def spaced : Layout where
  gap _ := []
  between := [0x20]
  after := [0x20]
  between_spaces := space_spaces
  gap_spaces _ _ mem := no_spaces mem
  after_spaces := space_spaces

section Render

variable {N : Type} (numbers : NumberTexts N) (layout : Layout)

def comma (first : Bool) : List Nat := if first then [] else 0x2C :: layout.between

def closing (level : Nat) (first : Bool) : List Nat := if first then [] else layout.gap (level - 1)

mutual

def render (level : Nat) : Value N → List Nat
  | .null => codes "null"
  | .bool true => codes "true"
  | .bool false => codes "false"
  | .num n => numbers.text n
  | .str text => quote text
  | .arr items => 0x5B :: renderItems (level + 1) true items
  | .obj entries => 0x7B :: renderEntries (level + 1) true entries

def renderItems (level : Nat) (first : Bool) : List (Value N) → List Nat
  | [] => closing layout level first ++ [0x5D]
  | item :: rest =>
    comma layout first ++ (layout.gap level ++ (render level item ++ renderItems level false rest))

def renderEntries (level : Nat) (first : Bool) : List (List Nat × Value N) → List Nat
  | [] => closing layout level first ++ [0x7D]
  | (key, item) :: rest =>
    comma layout first ++ (layout.gap level ++ (quote key ++ 0x3A :: (layout.after ++
      (render level item ++ renderEntries level false rest))))

end

end Render

section Sorted

variable {N : Type} (numbers : NumberTexts N)

mutual

def sortKeys : Value N → Value N
  | .arr items => .arr (sortItems items)
  | .obj entries => .obj ((sortEntries entries).insertionSort fun a b => a.1 ≤ b.1)
  | .null => .null
  | .bool b => .bool b
  | .num n => .num n
  | .str text => .str text

def sortItems : List (Value N) → List (Value N)
  | [] => []
  | item :: rest => sortKeys item :: sortItems rest

def sortEntries : List (List Nat × Value N) → List (List Nat × Value N)
  | [] => []
  | (key, item) :: rest => (key, sortKeys item) :: sortEntries rest

end

/-- `json.dumps` with sorted keys and no spaces. -/
def dumps (v : Value N) : List Nat := render numbers compact 0 (sortKeys v)

/-- `json.dumps` with sorted keys on lines of their own. -/
def dumpsIndented (v : Value N) : List Nat := render numbers indented 0 (sortKeys v)

theorem mem_sortEntries {entries : List (List Nat × Value N)} {key : List Nat} {v : Value N} :
    (key, v) ∈ sortEntries entries ↔ ∃ w, (key, w) ∈ entries ∧ sortKeys w = v := by
  induction entries with
  | nil => simp [sortEntries]
  | cons entry rest ih =>
    obtain ⟨key', item⟩ := entry
    rw [sortEntries, List.mem_cons, ih]
    constructor
    · intro h
      rcases h with first | ⟨w, mem, sorted⟩
      · obtain ⟨keys, sorted⟩ := Prod.mk.inj first
        exact ⟨item, keys ▸ .head _, sorted.symm⟩
      · exact ⟨w, .tail _ mem, sorted⟩
    · intro h
      obtain ⟨w, mem, sorted⟩ := h
      rcases List.mem_cons.mp mem with first | later
      · obtain ⟨keys, same⟩ := Prod.mk.inj first
        exact .inl (by rw [keys, ← same, sorted])
      · exact .inr ⟨w, later, sorted⟩

end Sorted

def natText (n : Nat) : List Nat := (Nat.toDigits 10 n).map Char.toNat

def intText (n : Int) : List Nat :=
  if 0 ≤ n then natText n.toNat else 0x2D :: natText (-n).toNat

theorem mem_natText {n c : Nat} (mem : c ∈ natText n) : 0x30 ≤ c ∧ c ≤ 0x39 := by
  obtain ⟨d, there, rfl⟩ := List.mem_map.mp mem
  have digit := Nat.isDigit_of_mem_toDigits (by decide) (by decide) there
  simp only [Char.isDigit, Bool.and_eq_true, decide_eq_true_eq] at digit
  exact ⟨UInt32.le_iff_toNat_le.mp digit.1, UInt32.le_iff_toNat_le.mp digit.2⟩

theorem natText_cons (n : Nat) : ∃ c rest, natText n = c :: rest := by
  cases digits : natText n with
  | nil =>
    rw [natText, List.map_eq_nil_iff] at digits
    exact absurd digits Nat.toDigits_ne_nil
  | cons c rest => exact ⟨c, rest, rfl⟩

theorem mem_intText {n : Int} {c : Nat} (mem : c ∈ intText n) : c = 0x2D ∨ 0x30 ≤ c ∧ c ≤ 0x39 := by
  unfold intText at mem
  split at mem
  · exact .inr (mem_natText mem)
  · cases List.mem_cons.mp mem with
    | inl minus => exact .inl minus
    | inr digit => exact .inr (mem_natText digit)

theorem intText_plain {n : Int} {c : Nat} (mem : c ∈ intText n) : isPlain c = true := by
  have written := mem_intText mem
  simp only [isPlain, isSpace, Bool.not_eq_true', Bool.or_eq_false_iff, decide_eq_false_iff_not]
  omega

theorem intText_begins (n : Int) :
    ∃ c rest, intText n = c :: rest ∧ c ∉ [0x6E, 0x74, 0x66, 0x22, 0x5B, 0x7B] := by
  have begins : ∃ c rest, intText n = c :: rest := by
    unfold intText
    split
    · exact natText_cons _
    · exact ⟨_, _, rfl⟩
  obtain ⟨c, rest, written⟩ := begins
  have first := mem_intText (written ▸ List.Mem.head rest : c ∈ intText n)
  refine ⟨c, rest, written, ?_⟩
  simp only [List.mem_cons, List.not_mem_nil, or_false]
  omega

def natValue : Nat := Nat.ofDigitChars 10 (text.map Char.ofNat) 0

def candidate : Int :=
  if text.head? = some 0x2D then -(natValue text.tail : Int) else natValue text

def readInt : Option Int :=
  if intText (candidate text) = text then some (candidate text) else none

theorem natValue_text (n : Nat) : natValue (natText n) = n := by
  simp [natValue, natText, Function.comp_def]

theorem candidate_text (n : Int) : candidate (intText n) = n := by
  unfold intText
  split
  next natural =>
    obtain ⟨c, rest, written⟩ := natText_cons n.toNat
    have digit := mem_natText (written ▸ List.Mem.head rest : c ∈ natText n.toNat)
    have unsigned : (natText n.toNat).head? ≠ some 0x2D := by
      rw [written, List.head?_cons]
      exact fun same => by have := Option.some.inj same; omega
    rw [candidate, if_neg unsigned, natValue_text]
    omega
  next negative =>
    rw [candidate, List.head?_cons, if_pos rfl, List.tail_cons, natValue_text]
    omega

theorem readInt_text (n : Int) : readInt (intText n) = some n := by
  rw [readInt, candidate_text, if_pos rfl]

theorem readInt_begins {c : Nat} {rest : List Nat} {n : Int} (read : readInt (c :: rest) = some n) :
    0x30 ≤ c ∧ c ≤ 0x39 ∨ c ∈ [0x2D, 0x49, 0x4E] := by
  have written : intText n = c :: rest := by
    unfold readInt at read
    split at read
    next same => exact Option.some.inj read ▸ same
    next => cases read
  have mem : c ∈ intText n := written ▸ List.Mem.head rest
  cases mem_intText mem with
  | inl minus => exact .inr (minus ▸ .head _)
  | inr digit => exact .inl digit

def integers : NumberTexts Int where
  text := intText
  read := readInt
  read_text := readInt_text
  plain := intText_plain
  begins := intText_begins
  read_begins := readInt_begins

end JsonText
