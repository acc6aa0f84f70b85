import Mathlib.Data.List.Basic

/-!
Texts as bytes, and bytes as texts: UTF-8 and base64.

A text is the list of its code points, a byte a number below 256.
-/

namespace TextBytes

def isWhite (c : Nat) : Bool :=
  (0x09 ≤ c && c ≤ 0x0D) || (0x1C ≤ c && c ≤ 0x20) || c = 0x85 || c = 0xA0 || c = 0x1680 ||
    (0x2000 ≤ c && c ≤ 0x200A) || c = 0x2028 || c = 0x2029 || c = 0x202F || c = 0x205F || c = 0x3000

def isScalar (c : Nat) : Bool := c < 0xD800 || (0xE000 ≤ c && c < 0x110000)

def utf8Char (c : Nat) : List Nat :=
  if c < 0x80 then [c]
  else if c < 0x800 then [0xC0 + c / 64, 0x80 + c % 64]
  else if c < 0x10000 then [0xE0 + c / 4096, 0x80 + c / 64 % 64, 0x80 + c % 64]
  else [0xF0 + c / 262144, 0x80 + c / 4096 % 64, 0x80 + c / 64 % 64, 0x80 + c % 64]

def utf8 (text : List Nat) : List Nat := text.flatMap utf8Char

def encodeUtf8 (text : List Nat) : Option (List Nat) :=
  if text.all isScalar then some (utf8 text) else none

def isTail (b : Nat) : Bool := 0x80 ≤ b && b < 0xC0

def fromTwo (a b : Nat) : Option Nat :=
  let c := (a - 0xC0) * 64 + (b - 0x80)
  if 0xC0 ≤ a ∧ a < 0xE0 ∧ isTail b ∧ 0x80 ≤ c then some c else none

def fromThree (a b c : Nat) : Option Nat :=
  let d := (a - 0xE0) * 4096 + (b - 0x80) * 64 + (c - 0x80)
  if 0xE0 ≤ a ∧ a < 0xF0 ∧ isTail b ∧ isTail c ∧ 0x800 ≤ d ∧ isScalar d then some d else none

def fromFour (a b c d : Nat) : Option Nat :=
  let e := (a - 0xF0) * 262144 + (b - 0x80) * 4096 + (c - 0x80) * 64 + (d - 0x80)
  if 0xF0 ≤ a ∧ isTail b ∧ isTail c ∧ isTail d ∧ 0x10000 ≤ e ∧ isScalar e then some e else none

def decodeChar : List Nat → Option (Nat × List Nat)
  | [] => none
  | a :: rest =>
    if a < 0x80 then some (a, rest)
    else match rest with
      | [] => none
      | b :: rest =>
        if a < 0xE0 then (fromTwo a b).map (·, rest)
        else match rest with
          | [] => none
          | c :: rest =>
            if a < 0xF0 then (fromThree a b c).map (·, rest)
            else match rest with
              | [] => none
              | d :: rest => (fromFour a b c d).map (·, rest)

def decodeChars : Nat → List Nat → Option (List Nat)
  | _, [] => some []
  | 0, _ :: _ => none
  | fuel + 1, b :: rest =>
    (decodeChar (b :: rest)).bind fun read => (decodeChars fuel read.2).map (read.1 :: ·)

def decodeUtf8 (data : List Nat) : Option (List Nat) := decodeChars data.length data

theorem decodeChar_utf8 {c : Nat} (scalar : isScalar c = true) (rest : List Nat) :
    decodeChar (utf8Char c ++ rest) = some (c, rest) := by
  unfold utf8Char
  split_ifs with one two three
  · exact if_pos one
  · have read : fromTwo (0xC0 + c / 64) (0x80 + c % 64) = some c := by
      simp only [fromTwo, isTail, Bool.and_eq_true, decide_eq_true_eq]
      rw [if_pos (by omega)]
      exact congrArg some (by omega)
    simp only [List.cons_append, List.nil_append, decodeChar]
    rw [if_neg (by omega), if_pos (by omega), read, Option.map_some]
  · have value : (0xE0 + c / 4096 - 0xE0) * 4096 + (0x80 + c / 64 % 64 - 0x80) * 64 +
        (0x80 + c % 64 - 0x80) = c := by omega
    have read : fromThree (0xE0 + c / 4096) (0x80 + c / 64 % 64) (0x80 + c % 64) = some c := by
      simp only [fromThree, value]
      simp only [isTail, Bool.and_eq_true, decide_eq_true_eq]
      rw [if_pos ⟨by omega, by omega, by omega, by omega, by omega, scalar⟩]
    simp only [List.cons_append, List.nil_append, decodeChar]
    rw [if_neg (by omega), if_neg (by omega), if_pos (by omega), read, Option.map_some]
  · have value : (0xF0 + c / 262144 - 0xF0) * 262144 + (0x80 + c / 4096 % 64 - 0x80) * 4096 +
        (0x80 + c / 64 % 64 - 0x80) * 64 + (0x80 + c % 64 - 0x80) = c := by omega
    have read : fromFour (0xF0 + c / 262144) (0x80 + c / 4096 % 64) (0x80 + c / 64 % 64)
        (0x80 + c % 64) = some c := by
      simp only [fromFour, value]
      simp only [isTail, Bool.and_eq_true, decide_eq_true_eq]
      rw [if_pos ⟨by omega, by omega, by omega, by omega, by omega, scalar⟩]
    simp only [List.cons_append, List.nil_append, decodeChar]
    rw [if_neg (by omega), if_neg (by omega), if_neg (by omega), read, Option.map_some]

theorem utf8Char_cons (c : Nat) : ∃ b rest, utf8Char c = b :: rest := by
  unfold utf8Char
  split_ifs <;> exact ⟨_, _, rfl⟩

variable {text : List Nat}

theorem decodeChars_utf8 (scalars : text.all isScalar = true) {fuel : Nat}
    (enough : (utf8 text).length ≤ fuel) : decodeChars fuel (utf8 text) = some text := by
  induction text generalizing fuel with
  | nil => exact decodeChars.eq_1 fuel
  | cons c text ih =>
    rw [List.all_cons, Bool.and_eq_true] at scalars
    have split : utf8 (c :: text) = utf8Char c ++ utf8 text := List.flatMap_cons
    obtain ⟨b, rest, written⟩ := utf8Char_cons c
    rw [split, written, List.cons_append, List.length_cons, List.length_append] at enough
    obtain ⟨fuel, rfl⟩ := Nat.exists_eq_succ_of_ne_zero (by omega : fuel ≠ 0)
    have first := decodeChar_utf8 scalars.1 (utf8 text)
    rw [written, List.cons_append] at first
    rw [split, written, List.cons_append, decodeChars, first, Option.bind_some,
      ih scalars.2 (by omega)]
    rfl

variable {bytes : List Nat}

theorem decodeUtf8_of_encode (encoded : encodeUtf8 text = some bytes) :
    decodeUtf8 bytes = some text := by
  unfold encodeUtf8 at encoded
  split at encoded
  next scalars =>
    cases encoded
    exact decodeChars_utf8 scalars (Nat.le_refl _)
  next => cases encoded

theorem encodeUtf8_inj {text' : List Nat} (encoded : encodeUtf8 text = some bytes)
    (encoded' : encodeUtf8 text' = some bytes) : text = text' :=
  Option.some.inj ((decodeUtf8_of_encode encoded).symm.trans (decodeUtf8_of_encode encoded'))

theorem encodeUtf8_ascii (ascii : ∀ c ∈ text, c < 0x80) : encodeUtf8 text = some text := by
  have scalars : text.all isScalar = true := by
    rw [List.all_eq_true]
    intro c mem
    have small := ascii c mem
    simp only [isScalar, Bool.or_eq_true, Bool.and_eq_true, decide_eq_true_eq]
    omega
  have bytes : utf8 text = text := by
    unfold utf8
    clear scalars
    induction text with
    | nil => rfl
    | cons c text ih =>
      obtain ⟨first, later⟩ := List.forall_mem_cons.mp ascii
      rw [List.flatMap_cons, ih later, utf8Char, if_pos first]
      rfl
  rw [encodeUtf8, if_pos scalars, bytes]

theorem utf8Char_lt {c b : Nat} (scalar : isScalar c = true) (mem : b ∈ utf8Char c) : b < 256 := by
  simp only [isScalar, Bool.or_eq_true, Bool.and_eq_true, decide_eq_true_eq] at scalar
  unfold utf8Char at mem
  split_ifs at mem
  all_goals
    simp only [List.mem_cons, List.not_mem_nil, or_false] at mem
    omega

theorem lt_of_encode (encoded : encodeUtf8 text = some bytes) {b : Nat} (mem : b ∈ bytes) :
    b < 256 := by
  unfold encodeUtf8 at encoded
  split at encoded
  next scalars =>
    cases encoded
    obtain ⟨c, among, inChar⟩ := List.mem_flatMap.mp mem
    exact utf8Char_lt (List.all_eq_true.mp scalars c among) inChar
  next => cases encoded

def base64Digit (d : Nat) : Nat :=
  if d < 26 then 0x41 + d
  else if d < 52 then 0x61 + (d - 26)
  else if d < 62 then 0x30 + (d - 52)
  else if d = 62 then 0x2B
  else 0x2F

def base64Value (c : Nat) : Option Nat :=
  if 0x41 ≤ c ∧ c ≤ 0x5A then some (c - 0x41)
  else if 0x61 ≤ c ∧ c ≤ 0x7A then some (c - 0x61 + 26)
  else if 0x30 ≤ c ∧ c ≤ 0x39 then some (c - 0x30 + 52)
  else if c = 0x2B then some 62
  else if c = 0x2F then some 63
  else none

def b64encode : List Nat → List Nat
  | [] => []
  | [a] => [base64Digit (a / 4), base64Digit (a % 4 * 16), 0x3D, 0x3D]
  | [a, b] =>
    [base64Digit (a / 4), base64Digit (a % 4 * 16 + b / 16), base64Digit (b % 16 * 4), 0x3D]
  | a :: b :: c :: rest =>
    base64Digit (a / 4) :: base64Digit (a % 4 * 16 + b / 16) ::
      base64Digit (b % 16 * 4 + c / 64) :: base64Digit (c % 64) :: b64encode rest

def b64Padded (a b c : Nat) : Option (List Nat) :=
  (base64Value a).bind fun x => (base64Value b).bind fun y =>
    if c = 0x3D then some [x * 4 + y / 16]
    else (base64Value c).map fun z => [x * 4 + y / 16, y % 16 * 16 + z / 4]

/-- `base64.b64decode` with `validate=True`. -/
def b64decode : List Nat → Option (List Nat)
  | [] => some []
  | a :: b :: c :: d :: rest =>
    if d = 0x3D then if rest = [] then b64Padded a b c else none
    else (base64Value a).bind fun x => (base64Value b).bind fun y =>
      (base64Value c).bind fun z => (base64Value d).bind fun w =>
        (b64decode rest).map fun bytes =>
          (x * 4 + y / 16) :: (y % 16 * 16 + z / 4) :: (z % 4 * 64 + w) :: bytes
  | _ => none

@[simp] theorem base64Value_digit {d : Nat} (small : d < 64) :
    base64Value (base64Digit d) = some d := by
  unfold base64Digit
  split_ifs <;> unfold base64Value <;> grind

theorem base64Digit_range (d : Nat) (small : d < 64) :
    base64Digit d = 0x2B ∨ (0x2F ≤ base64Digit d ∧ base64Digit d ≤ 0x39) ∨
      (0x41 ≤ base64Digit d ∧ base64Digit d ≤ 0x7A) := by
  unfold base64Digit
  split_ifs <;> omega

theorem base64Digit_ne_pad {d : Nat} (small : d < 64) : base64Digit d ≠ 0x3D := by
  have range := base64Digit_range d small
  omega

theorem b64decode_encode (small : ∀ b ∈ bytes, b < 256) :
    b64decode (b64encode bytes) = some bytes := by
  induction bytes using b64encode.induct with
  | case1 => rfl
  | case2 a =>
    have lt := small a (.head _)
    have first : a / 4 * 4 + a % 4 * 16 / 16 = a := by omega
    rw [b64encode, b64decode, if_pos rfl, if_pos rfl, b64Padded,
      base64Value_digit (by omega), base64Value_digit (by omega), Option.bind_some,
      Option.bind_some, if_pos rfl, first]
  | case3 a b =>
    have lt := small a (.head _)
    have lt' := small b (.tail _ (.head _))
    have first : a / 4 * 4 + (a % 4 * 16 + b / 16) / 16 = a := by omega
    have second : (a % 4 * 16 + b / 16) % 16 * 16 + b % 16 * 4 / 4 = b := by omega
    have unpadded : base64Digit (b % 16 * 4) ≠ 0x3D := base64Digit_ne_pad (by omega)
    rw [b64encode, b64decode, if_pos rfl, if_pos rfl, b64Padded,
      base64Value_digit (by omega), base64Value_digit (by omega),
      base64Value_digit (by omega)]
    simp only [Option.bind_some, Option.map_some, if_neg unpadded, first, second]
  | case4 a b c rest ih =>
    have lt := small a (.head _)
    have lt' := small b (.tail _ (.head _))
    have lt'' := small c (.tail _ (.tail _ (.head _)))
    have later := ih fun d mem => small d (.tail _ (.tail _ (.tail _ mem)))
    rw [b64encode, b64decode, if_neg (base64Digit_ne_pad (by omega)),
      base64Value_digit (by omega), base64Value_digit (by omega),
      base64Value_digit (by omega), base64Value_digit (by omega), later]
    have first : a / 4 * 4 + (a % 4 * 16 + b / 16) / 16 = a := by omega
    have second : (a % 4 * 16 + b / 16) % 16 * 16 + (b % 16 * 4 + c / 64) / 4 = b := by omega
    have third : (b % 16 * 4 + c / 64) % 4 * 64 + c % 64 = c := by omega
    simp only [Option.bind_some, Option.map_some, first, second, third]

theorem mem_b64encode (small : ∀ b ∈ bytes, b < 256) {c : Nat} (mem : c ∈ b64encode bytes) :
    0x2B ≤ c ∧ c ≤ 0x7A := by
  have digit : ∀ d, d < 64 → 0x2B ≤ base64Digit d ∧ base64Digit d ≤ 0x7A := by
    intro d lt
    have range := base64Digit_range d lt
    omega
  induction bytes using b64encode.induct with
  | case1 => cases mem
  | case2 a =>
    have lt := small a (.head _)
    have d1 := digit (a / 4) (by omega)
    have d2 := digit (a % 4 * 16) (by omega)
    simp only [b64encode, List.mem_cons, List.not_mem_nil, or_false] at mem
    omega
  | case3 a b =>
    have lt := small a (.head _)
    have lt' := small b (.tail _ (.head _))
    have d1 := digit (a / 4) (by omega)
    have d2 := digit (a % 4 * 16 + b / 16) (by omega)
    have d3 := digit (b % 16 * 4) (by omega)
    simp only [b64encode, List.mem_cons, List.not_mem_nil, or_false] at mem
    omega
  | case4 a b c' rest ih =>
    have lt := small a (.head _)
    have lt' := small b (.tail _ (.head _))
    have lt'' := small c' (.tail _ (.tail _ (.head _)))
    have d1 := digit (a / 4) (by omega)
    have d2 := digit (a % 4 * 16 + b / 16) (by omega)
    have d3 := digit (b % 16 * 4 + c' / 64) (by omega)
    have d4 := digit (c' % 64) (by omega)
    simp only [b64encode, List.mem_cons] at mem
    rcases mem with rfl | rfl | rfl | rfl | later
    · exact d1
    · exact d2
    · exact d3
    · exact d4
    · exact ih (fun d among => small d (.tail _ (.tail _ (.tail _ among)))) later

theorem b64encode_cons (a : Nat) (rest : List Nat) :
    ∃ more, b64encode (a :: rest) = base64Digit (a / 4) :: more := by
  match rest with
  | [] => exact ⟨_, rfl⟩
  | [_] => exact ⟨_, rfl⟩
  | _ :: _ :: _ => exact ⟨_, rfl⟩

end TextBytes
