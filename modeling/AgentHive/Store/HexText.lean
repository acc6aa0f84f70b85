import Mathlib.Algebra.Group.Nat.Defs
import Mathlib.Data.List.Basic

/-!
Numbers written in hexadecimal with a fixed number of digits, and such texts cut into
groups.
-/

namespace HexText

def digits : Nat → Nat → List Nat
  | 0, _ => []
  | width + 1, n => n % 16 :: digits width (n / 16)

def hex (width n : Nat) : List Char := (digits width n).reverse.map Nat.digitChar

def isHexChar (c : Char) : Bool := "0123456789abcdef".toList.contains c

theorem digits_lt {width n d : Nat} (mem : d ∈ digits width n) : d < 16 := by
  induction width generalizing n with
  | zero => cases mem
  | succ width ih =>
    cases List.mem_cons.mp mem with
    | inl eq =>
      rw [eq]
      exact Nat.mod_lt n (by decide)
    | inr later => exact ih later

theorem digits_inj {width n m : Nat} (small : n < 16 ^ width) (other : m < 16 ^ width)
    (same : digits width n = digits width m) : n = m := by
  induction width generalizing n m with
  | zero => omega
  | succ width ih =>
    obtain ⟨last, rest⟩ := List.cons.inj same
    rw [Nat.pow_succ] at small other
    have high : n / 16 = m / 16 := by
      apply ih
      · omega
      · omega
      · exact rest
    omega

theorem digitChar_isHexChar {d : Nat} (small : d < 16) : isHexChar d.digitChar = true := by
  have all : ∀ d : Fin 16, isHexChar (Nat.digitChar d) = true := by decide
  exact all ⟨d, small⟩

theorem digitChar_inj {d e : Nat} (small : d < 16) (other : e < 16)
    (same : d.digitChar = e.digitChar) : d = e := by
  have all : ∀ d e : Fin 16, Nat.digitChar d = Nat.digitChar e → d = e := by decide
  exact congrArg Fin.val (all ⟨d, small⟩ ⟨e, other⟩ same)

theorem isHexChar_of_mem_hex {width n : Nat} {c : Char} (mem : c ∈ hex width n) :
    isHexChar c = true := by
  obtain ⟨d, there, eq⟩ := List.mem_map.mp mem
  rw [← eq]
  exact digitChar_isHexChar (digits_lt (List.mem_reverse.mp there))

theorem map_digitChar_inj {ds es : List Nat} (small : ∀ d ∈ ds, d < 16)
    (other : ∀ e ∈ es, e < 16) (same : ds.map Nat.digitChar = es.map Nat.digitChar) : ds = es := by
  induction ds generalizing es with
  | nil => exact (List.map_eq_nil_iff.mp same.symm).symm
  | cons d ds ih =>
    cases es with
    | nil => cases same
    | cons e es =>
      obtain ⟨first, rest⟩ := List.cons.inj same
      obtain ⟨dsmall, small⟩ := List.forall_mem_cons.mp small
      obtain ⟨esmall, other⟩ := List.forall_mem_cons.mp other
      rw [digitChar_inj dsmall esmall first, ih small other rest]

theorem hex_inj {width n m : Nat} (small : n < 16 ^ width) (other : m < 16 ^ width)
    (same : hex width n = hex width m) : n = m := by
  apply digits_inj small other
  rw [← List.reverse_inj]
  apply map_digitChar_inj
  · intro d mem
    exact digits_lt (List.mem_reverse.mp mem)
  · intro d mem
    exact digits_lt (List.mem_reverse.mp mem)
  · exact same

def grouped : List Nat → List Char → List Char
  | [], text => text
  | size :: sizes, text => text.take size ++ '-' :: grouped sizes (text.drop size)

theorem mem_grouped {sizes : List Nat} {text : List Char} {c : Char}
    (mem : c ∈ grouped sizes text) : c = '-' ∨ c ∈ text := by
  induction sizes generalizing text with
  | nil => exact .inr mem
  | cons size sizes ih =>
    cases List.mem_append.mp mem with
    | inl before => exact .inr (List.mem_of_mem_take before)
    | inr after =>
      cases List.mem_cons.mp after with
      | inl hyphen => exact .inl hyphen
      | inr later =>
        cases ih later with
        | inl hyphen => exact .inl hyphen
        | inr there => exact .inr (List.mem_of_mem_drop there)

theorem filter_grouped (sizes : List Nat) {text : List Char} (free : '-' ∉ text) :
    (grouped sizes text).filter (· != '-') = text := by
  have clean : ∀ part : List Char, (∀ c ∈ part, c ∈ text) → part.filter (· != '-') = part := by
    intro part within
    apply List.filter_eq_self.mpr
    intro c mem
    exact bne_iff_ne.mpr fun eq => free (eq ▸ within c mem)
  induction sizes generalizing text with
  | nil => exact clean text fun c mem => mem
  | cons size sizes ih =>
    have later : '-' ∉ text.drop size := fun mem => free (List.mem_of_mem_drop mem)
    rw [grouped, List.filter_append, clean _ fun c mem => List.mem_of_mem_take mem,
      List.filter_cons_of_neg (by decide), ih later, List.take_append_drop]
    intro part within
    exact clean part fun c mem => List.mem_of_mem_drop (within c mem)

def uuid (id : Nat) : List Char := grouped [8, 4, 4, 4] (hex 32 id)

def isUuidChar (c : Char) : Bool := isHexChar c || c == '-'

theorem isUuidChar_of_mem {id : Nat} {c : Char} (mem : c ∈ uuid id) : isUuidChar c = true := by
  cases mem_grouped mem with
  | inl hyphen =>
    rw [hyphen]
    rfl
  | inr there => rw [isUuidChar, isHexChar_of_mem_hex there, Bool.true_or]

theorem not_mem_uuid {id : Nat} {c : Char} (foreign : isUuidChar c = false) : c ∉ uuid id := by
  intro mem
  rw [isUuidChar_of_mem mem] at foreign
  cases foreign

theorem hyphen_not_mem_hex (width n : Nat) : '-' ∉ hex width n := by
  intro mem
  have := isHexChar_of_mem_hex mem
  cases this

theorem uuid_inj {a b : Nat} (small : a < 2 ^ 128) (other : b < 2 ^ 128)
    (same : uuid a = uuid b) : a = b := by
  have bound : (2 : Nat) ^ 128 = 16 ^ 32 := by decide
  rw [bound] at small other
  apply hex_inj small other
  rw [← filter_grouped [8, 4, 4, 4] (hyphen_not_mem_hex 32 a),
    ← filter_grouped [8, 4, 4, 4] (hyphen_not_mem_hex 32 b)]
  exact congrArg (List.filter (· != '-')) same

theorem uuid_ne_nil (id : Nat) : uuid id ≠ [] := by
  rw [uuid, grouped]
  exact List.append_ne_nil_of_right_ne_nil _ (List.cons_ne_nil _ _)

end HexText
