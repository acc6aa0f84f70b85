import Mathlib.Data.List.Infix

/-!
Texts as lists of characters: what string methods and anchored patterns make of them.

Which characters count as spaces, as parts of words and as line ends, and when two of
them differ in case only, is a table.
-/

structure CharTable where
  isSpace : Char → Bool
  isWord : Char → Bool
  isLineEnd : Char → Bool
  foldCase : Char → Char

namespace CharText

def contains (needle text : List Char) : Bool := decide (needle <:+: text)

def replaceFrom (old new : List Char) : Nat → List Char → List Char
  | _, [] => []
  | skip + 1, _ :: rest => replaceFrom old new skip rest
  | 0, c :: rest =>
    if old.isPrefixOf (c :: rest) then new ++ replaceFrom old new (old.length - 1) rest
    else c :: replaceFrom old new 0 rest

/-- `text.replace(old, new)`, for a text that is not empty. -/
def replaceAll (old new text : List Char) : List Char := replaceFrom old new 0 text

/-- `text.split(marker, 1)` where the marker occurs: what stands before and after it. -/
def splitOnce (marker : List Char) : List Char → Option (List Char × List Char)
  | [] => if marker = [] then some ([], []) else none
  | c :: rest =>
    if marker.isPrefixOf (c :: rest) then some ([], (c :: rest).drop marker.length)
    else (splitOnce marker rest).map fun parts => (c :: parts.1, parts.2)

variable (table : CharTable)

def rstrip (text : List Char) : List Char := (text.reverse.dropWhile table.isSpace).reverse

def strip (text : List Char) : List Char := rstrip table (text.dropWhile table.isSpace)

def linesFrom : List Char → List Char → List (List Char)
  | current, [] => if current = [] then [] else [current.reverse]
  | current, '\r' :: '\n' :: rest => current.reverse :: linesFrom [] rest
  | current, c :: rest =>
    if table.isLineEnd c then current.reverse :: linesFrom [] rest
    else linesFrom (c :: current) rest

def splitlines (text : List Char) : List (List Char) := linesFrom table [] text

def joinLines : List (List Char) → List Char
  | [] => []
  | [line] => line
  | line :: rest => line ++ '\n' :: joinLines rest

def Trimmed (text : List Char) : Prop :=
  (∀ c ∈ text.head?, table.isSpace c = false) ∧ ∀ c ∈ text.getLast?, table.isSpace c = false

variable {table} {text front back : List Char}

theorem trimmed_nil : Trimmed table [] := by simp [Trimmed]

theorem dropSpaces_eq_self (solid : ∀ c ∈ text.head?, table.isSpace c = false) :
    text.dropWhile table.isSpace = text := by
  cases text with
  | nil => rfl
  | cons c rest => exact List.dropWhile_cons_of_neg (by simp [solid c rfl])

theorem Trimmed.strip_eq (trimmed : Trimmed table text) : strip table text = text := by
  rw [strip, dropSpaces_eq_self trimmed.1, rstrip, dropSpaces_eq_self, List.reverse_reverse]
  rw [List.head?_reverse]
  exact trimmed.2

theorem trimmed_strip (text : List Char) : Trimmed table (strip table text) := by
  have solid (text : List Char) :
      ∀ c ∈ (text.dropWhile table.isSpace).head?, table.isSpace c = false := by
    intro c first
    have stopped := List.head?_dropWhile_not table.isSpace text
    rw [first] at stopped
    exact stopped
  refine ⟨?_, ?_⟩
  · intro c first
    obtain ⟨dropped, whole⟩ :=
      List.dropWhile_suffix table.isSpace (l := (text.dropWhile table.isSpace).reverse)
    refine solid text c ?_
    rw [← List.reverse_reverse (text.dropWhile _), ← whole, List.reverse_append, List.head?_append]
    rw [strip, rstrip] at first
    rw [first]
    rfl
  · rw [strip, rstrip, List.getLast?_reverse]
    exact solid _

theorem infix_dropWhile {drop : Char → Bool} {marker : List Char} (some : marker ≠ [])
    (bare : ∀ c ∈ marker.head?, drop c = false) (text : List Char) :
    marker <:+: text.dropWhile drop ↔ marker <:+: text := by
  obtain ⟨first, marker, rfl⟩ := List.exists_cons_of_ne_nil some
  refine ⟨fun within => within.trans (List.dropWhile_suffix _).isInfix, fun within => ?_⟩
  induction text with
  | nil => exact within
  | cons c text ih =>
    rw [List.dropWhile_cons]
    split
    · rename_i dropped
      refine ih ((List.infix_cons_iff.mp within).resolve_left fun leads => ?_)
      rw [← (List.cons_prefix_cons.mp leads).1, bare first rfl] at dropped
      exact absurd dropped (by simp)
    · exact within

theorem Trimmed.append (first : Trimmed table front) (last : Trimmed table back)
    (begins : front ≠ []) (ends : back ≠ []) (between : List Char) :
    Trimmed table (front ++ between ++ back) := by
  refine ⟨?_, ?_⟩
  · rw [List.append_assoc, List.head?_append_of_ne_nil _ begins]
    exact first.1
  · rw [List.getLast?_append_of_ne_nil _ ends]
    exact last.2

end CharText

inductive CharPattern
  | nothing
  | one (test : Char → Bool)
  | many (test : Char → Bool)
  | seq (first rest : CharPattern)
  | alt (left right : CharPattern)

namespace CharPattern

def restsOfMany (test : Char → Bool) : List Char → List (List Char)
  | [] => [[]]
  | c :: rest => (c :: rest) :: if test c then restsOfMany test rest else []

def rests : CharPattern → List Char → List (List Char)
  | .nothing, text => [text]
  | .one _, [] => []
  | .one test, c :: rest => if test c then [rest] else []
  | .many test, text => restsOfMany test text
  | .seq first later, text => (first.rests text).flatMap later.rests
  | .alt left right, text => left.rests text ++ right.rests text

def isMatch (pattern : CharPattern) (text : List Char) : Bool := !(pattern.rests text).isEmpty

def opt (pattern : CharPattern) : CharPattern := .alt pattern .nothing

def sequence (patterns : List CharPattern) : CharPattern := patterns.foldr .seq .nothing

def anyOf (first : CharPattern) (patterns : List CharPattern) : CharPattern :=
  patterns.foldl .alt first

def word (table : CharTable) (text : List Char) : CharPattern :=
  sequence (text.map fun c => .one fun d => table.foldCase d == table.foldCase c)

end CharPattern
