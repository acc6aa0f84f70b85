import AgentHive.Store.JsonText
import AgentHive.Store.OrderedDict

/-!
Reading JSON documents.
-/

namespace JsonText

open List (append_assoc cons_append length_append length_cons map_cons mem_cons nil_append
  not_mem_nil)

def hexValue (c : Nat) : Option Nat :=
  if 0x30 ≤ c ∧ c ≤ 0x39 then some (c - 0x30)
  else if 0x41 ≤ c ∧ c ≤ 0x46 then some (c - 0x37)
  else if 0x61 ≤ c ∧ c ≤ 0x66 then some (c - 0x57)
  else none

def readHex : List Nat → Option (Nat × List Nat)
  | a :: b :: c :: d :: rest =>
    (hexValue a).bind fun x => (hexValue b).bind fun y => (hexValue c).bind fun z =>
      (hexValue d).map fun w => (x * 4096 + y * 256 + z * 16 + w, rest)
  | _ => none

/-- A code point after `\u`, which may be one of a pair of surrogates. -/
def readUnicode (text : List Nat) : Option (Nat × List Nat) :=
  (readHex text).bind fun high =>
    if 0xD800 ≤ high.1 ∧ high.1 < 0xDC00 then
      match high.2 with
      | 0x5C :: 0x75 :: rest =>
        (readHex rest).map fun low =>
          if 0xDC00 ≤ low.1 ∧ low.1 < 0xE000 then
            (0x10000 + (high.1 - 0xD800) * 0x400 + (low.1 - 0xDC00), low.2)
          else high
      | _ => some high
    else some high

def unescape : Nat → Option Nat
  | 0x22 => some 0x22
  | 0x5C => some 0x5C
  | 0x2F => some 0x2F
  | 0x6E => some 0x0A
  | 0x72 => some 0x0D
  | 0x74 => some 0x09
  | 0x62 => some 0x08
  | 0x66 => some 0x0C
  | _ => none

def readEscape : List Nat → Option (Nat × List Nat)
  | [] => none
  | c :: rest => if c = 0x75 then readUnicode rest else (unescape c).map (·, rest)

def readString : Nat → List Nat → Option (List Nat × List Nat)
  | 0, _ => none
  | _ + 1, [] => none
  | fuel + 1, c :: rest =>
    if c = 0x22 then some ([], rest)
    else if c = 0x5C then
      (readEscape rest).bind fun read =>
        (readString fuel read.2).map fun more => (read.1 :: more.1, more.2)
    else if c < 0x20 then none
    else (readString fuel rest).map fun more => (c :: more.1, more.2)

section Read

variable {N : Type} (numbers : NumberTexts N)

inductive Next where
  | done (rest : List Nat)
  | item (text : List Nat)
  | bad

def next (first : Bool) (close : Nat) (text : List Nat) : Next :=
  match skip text with
  | [] => .bad
  | c :: rest =>
    if c = close then .done rest
    else if first then .item (c :: rest)
    else if c = 0x2C then .item (skip rest)
    else .bad

def literal (word : List Nat) : Option (Value N) :=
  if word = [] then none
  else if word = codes "null" then some .null
  else if word = codes "true" then some (.bool true)
  else if word = codes "false" then some (.bool false)
  else (numbers.read word).map .num

mutual

def readValue : Nat → List Nat → Option (Value N × List Nat)
  | 0, _ => none
  | _ + 1, [] => none
  | fuel + 1, c :: rest =>
    if c = 0x22 then (readString fuel rest).map fun read => (.str read.1, read.2)
    else if c = 0x5B then (readItems fuel true rest).map fun read => (.arr read.1, read.2)
    else if c = 0x7B then (readEntries fuel true rest).map fun read => (.obj read.1, read.2)
    else
      (literal numbers ((c :: rest).takeWhile isPlain)).map
        (·, (c :: rest).dropWhile isPlain)

def readItems : Nat → Bool → List Nat → Option (List (Value N) × List Nat)
  | 0, _, _ => none
  | fuel + 1, first, text =>
    match next first 0x5D text with
    | .done rest => some ([], rest)
    | .item text =>
      (readValue fuel text).bind fun item =>
        (readItems fuel false item.2).map fun more => (item.1 :: more.1, more.2)
    | .bad => none

def readEntries : Nat → Bool → List Nat → Option (List (List Nat × Value N) × List Nat)
  | 0, _, _ => none
  | fuel + 1, first, text =>
    match next first 0x7D text with
    | .done rest => some ([], rest)
    | .item (0x22 :: text) =>
      (readString fuel text).bind fun key =>
        match skip key.2 with
        | 0x3A :: text =>
          (readValue fuel (skip text)).bind fun item =>
            (readEntries fuel false item.2).map fun more =>
              ((key.1, item.1) :: more.1, more.2)
        | _ => none
    | .item _ => none
    | .bad => none

end

def readDocument (text : List Nat) : Option (Value N) :=
  (readValue numbers text.length (skip text)).bind fun read =>
    if skip read.2 = [] then some read.1 else none

mutual

def dictionaries : Value N → Value N
  | .arr items => .arr (dictionaryItems items)
  | .obj entries => .obj (OrderedDict.ofEntries (dictionaryEntries entries)).entries
  | .null => .null
  | .bool b => .bool b
  | .num n => .num n
  | .str text => .str text

def dictionaryItems : List (Value N) → List (Value N)
  | [] => []
  | item :: rest => dictionaries item :: dictionaryItems rest

def dictionaryEntries : List (List Nat × Value N) → List (List Nat × Value N)
  | [] => []
  | (key, item) :: rest => (key, dictionaries item) :: dictionaryEntries rest

end

/-- `json.loads`, where an exception is known by its class. -/
def loads (text : List Nat) : Except String (Value N) :=
  match readDocument numbers text with
  | some v => .ok (dictionaries v)
  | none => .error "JSONDecodeError"

end Read

theorem unescape_short {c x : Nat} (short : shortEscape c = some x) :
    unescape x = some c ∧ x ≠ 0x75 := by
  unfold shortEscape at short
  split at short
  all_goals
    cases short
  all_goals
    exact ⟨rfl, by decide⟩

theorem shortEscape_none {c : Nat} (long : shortEscape c = none) : c ≠ 0x22 ∧ c ≠ 0x5C := by
  constructor
  · intro eq
    rw [eq] at long
    cases long
  · intro eq
    rw [eq] at long
    cases long

theorem hexValue_digit {d : Nat} (small : d < 16) : hexValue (hexDigit d) = some d := by
  unfold hexDigit
  split
  next => rw [hexValue, if_pos (by omega)]; exact congrArg some (by omega)
  next =>
    rw [hexValue, if_neg (by omega), if_neg (by omega), if_pos (by omega)]
    exact congrArg some (by omega)

theorem readHex_control {c : Nat} (control : c < 0x20) (rest : List Nat) :
    readHex (0x30 :: 0x30 :: hexDigit (c / 16) :: hexDigit (c % 16) :: rest) = some (c, rest) := by
  have zero : hexValue 0x30 = some 0 := rfl
  simp only [readHex, zero, hexValue_digit (by omega : c / 16 < 16),
    hexValue_digit (by omega : c % 16 < 16), Option.bind_some, Option.map_some]
  exact congrArg some (Prod.ext (by omega) rfl)

theorem readString_escape (c fuel : Nat) (rest : List Nat) :
    readString (fuel + 1) (escape c ++ rest) =
      (readString fuel rest).map fun more => (c :: more.1, more.2) := by
  unfold escape
  cases short : shortEscape c with
  | some x =>
    obtain ⟨back, letter⟩ := unescape_short short
    simp only [cons_append, nil_append, readString, readEscape]
    rw [if_neg (by decide), if_pos trivial, if_neg letter, back]
    rfl
  | none =>
    obtain ⟨unquoted, plain⟩ := shortEscape_none short
    by_cases control : c < 0x20
    · have read : readUnicode (0x30 :: 0x30 :: hexDigit (c / 16) :: hexDigit (c % 16) :: rest) =
          some (c, rest) := by
        rw [readUnicode, readHex_control control, Option.bind_some, if_neg (by simp; omega)]
      simp only [if_pos control, cons_append, nil_append, readString, readEscape]
      rw [if_neg (by decide), if_pos trivial, if_pos trivial, read]
      rfl
    · simp only [if_neg control, cons_append, nil_append, readString]
      rw [if_neg unquoted, if_neg plain]

theorem exists_succ {n fuel : Nat} (enough : n < fuel) : ∃ k, fuel = k + 1 :=
  Nat.exists_eq_succ_of_ne_zero (Nat.ne_zero_of_lt enough)

theorem readString_quoted (text : List Nat) {fuel : Nat} (rest : List Nat)
    (enough : (text.flatMap escape).length < fuel) :
    readString fuel (text.flatMap escape ++ 0x22 :: rest) = some (text, rest) := by
  induction text generalizing fuel with
  | nil =>
    obtain ⟨fuel, rfl⟩ := exists_succ enough
    rfl
  | cons c text ih =>
    obtain ⟨fuel, rfl⟩ := exists_succ enough
    have written : 0 < (escape c).length := by
      unfold escape
      split
      · exact Nat.zero_lt_succ _
      · split <;> exact Nat.zero_lt_succ _
    rw [List.flatMap_cons, length_append] at enough
    rw [List.flatMap_cons, append_assoc, readString_escape,
      ih (by omega)]
    rfl

section RoundTrip

variable {N : Type} (numbers : NumberTexts N) (layout : Layout)

def Ends (rest : List Nat) : Prop := ∀ c, rest.head? = some c → isPlain c = false

variable {c : Nat}

theorem plain_of (plain : isPlain c = true) :
    isSpace c = false ∧ c ≠ 0x2C ∧ c ≠ 0x5D ∧ c ≠ 0x7D := by
  simp only [isPlain, Bool.not_eq_true', Bool.or_eq_false_iff, decide_eq_false_iff_not] at plain
  exact ⟨plain.2, plain.1.1.1, plain.1.1.2, plain.1.2⟩

theorem space_ends (space : isSpace c = true) : isPlain c = false := by
  simp [isPlain, space]

variable {spaces rest : List Nat}

theorem gap_ends (all : ∀ c ∈ spaces, isSpace c = true) (ends : Ends rest) :
    Ends (spaces ++ rest) := by
  cases spaces with
  | nil => exact ends
  | cons c spaces =>
    intro d first
    cases first
    exact space_ends (all c (.head _))

theorem mark_ends (mark : c ∈ [0x2C, 0x5D, 0x7D]) (rest : List Nat) : Ends (c :: rest) := by
  intro d first
  cases first
  simp only [mem_cons, not_mem_nil, or_false] at mark
  rcases mark with rfl | rfl | rfl <;> rfl

variable (level : Nat)

theorem closing_spaces (first : Bool) : ∀ c ∈ closing layout level first, isSpace c = true := by
  intro c mem
  cases first with
  | true => cases mem
  | false => exact layout.gap_spaces _ c mem

theorem items_end (items : List (Value N)) (rest : List Nat) :
    Ends (renderItems numbers layout level false items ++ rest) := by
  cases items with
  | nil =>
    rw [renderItems, append_assoc]
    exact gap_ends (closing_spaces layout level false) (mark_ends (by decide) rest)
  | cons item items =>
    rw [renderItems]
    exact mark_ends (by decide) _

theorem entries_end (entries : List (List Nat × Value N)) (rest : List Nat) :
    Ends (renderEntries numbers layout level false entries ++ rest) := by
  cases entries with
  | nil =>
    rw [renderEntries, append_assoc]
    exact gap_ends (closing_spaces layout level false) (mark_ends (by decide) rest)
  | cons entry entries =>
    rw [renderEntries]
    exact mark_ends (by decide) _

variable {word : List Nat}

theorem takeWhile_word (plain : ∀ c ∈ word, isPlain c = true) (ends : Ends rest) :
    (word ++ rest).takeWhile isPlain = word := by
  rw [List.takeWhile_append_of_pos plain]
  cases rest with
  | nil => simp
  | cons c rest =>
    rw [List.takeWhile_cons, if_neg (by rw [ends c rfl]; exact Bool.false_ne_true),
      List.append_nil]

theorem dropWhile_word (plain : ∀ c ∈ word, isPlain c = true) (ends : Ends rest) :
    (word ++ rest).dropWhile isPlain = rest := by
  rw [List.dropWhile_append_of_pos plain]
  cases rest with
  | nil => rfl
  | cons c rest =>
    rw [List.dropWhile_cons, if_neg (by rw [ends c rfl]; exact Bool.false_ne_true)]

variable {v : Value N}

theorem readValue_word (fuel : Nat) (plain : ∀ d ∈ c :: word, isPlain d = true)
    (other : c ∉ [0x22, 0x5B, 0x7B]) (ends : Ends rest)
    (read : literal numbers (c :: word) = some v) :
    readValue numbers (fuel + 1) (c :: word ++ rest) = some (v, rest) := by
  simp only [mem_cons, not_mem_nil, or_false, not_or] at other
  have taken := takeWhile_word plain ends
  have dropped := dropWhile_word plain ends
  rw [cons_append] at taken dropped ⊢
  rw [readValue, if_neg other.1, if_neg other.2.1, if_neg other.2.2, taken, dropped, read]
  rfl

theorem literal_number (n : N) : literal numbers (numbers.text n) = some (.num n) := by
  obtain ⟨c, rest, written, other⟩ := numbers.begins n
  have unlike : ∀ {word d more}, word = d :: more → d ∈ [0x6E, 0x74, 0x66] →
      numbers.text n ≠ word := by
    intro word d more begins mem same
    rw [written, begins] at same
    rw [(List.cons.inj same).1] at other
    simp only [mem_cons, not_mem_nil, or_false] at mem other
    omega
  have null : codes "null" = 0x6E :: codes "ull" := rfl
  have true' : codes "true" = 0x74 :: codes "rue" := rfl
  have false' : codes "false" = 0x66 :: codes "alse" := rfl
  rw [literal, if_neg (by rw [written]; exact List.cons_ne_nil _ _),
    if_neg (unlike null (by decide)), if_neg (unlike true' (by decide)),
    if_neg (unlike false' (by decide)), numbers.read_text]
  rfl

theorem render_begins (v : Value N) : ∃ c rest,
    render numbers layout level v = c :: rest ∧ isSpace c = false ∧ c ≠ 0x5D := by
  cases v with
  | null => exact ⟨0x6E, _, by rw [render]; rfl, rfl, by decide⟩
  | bool b =>
    cases b with
    | true => exact ⟨0x74, _, by rw [render]; rfl, rfl, by decide⟩
    | false => exact ⟨0x66, _, by rw [render]; rfl, rfl, by decide⟩
  | str text => exact ⟨0x22, _, by rw [render]; rfl, rfl, by decide⟩
  | arr items => exact ⟨0x5B, _, by rw [render], rfl, by decide⟩
  | obj entries => exact ⟨0x7B, _, by rw [render], rfl, by decide⟩
  | num n =>
    obtain ⟨c, rest, written, _⟩ := numbers.begins n
    obtain ⟨solid, _, open', _⟩ := plain_of (numbers.plain (written ▸ List.Mem.head rest))
    exact ⟨c, rest, by rw [render, written], solid, open'⟩

theorem next_item {first : Bool} {close : Nat} {text : List Nat}
    (all : ∀ d ∈ spaces, isSpace d = true) (solid : isSpace c = false) (inside : c ≠ close)
    (parted : close ≠ 0x2C) :
    next first close (comma layout first ++ (spaces ++ c :: text)) = .item (c :: text) := by
  have skipped : skip (spaces ++ c :: text) = c :: text := by
    rw [skip_append all, skip_cons solid]
  cases first with
  | true =>
    unfold next comma
    rw [if_pos rfl, nil_append, skipped]
    simp only [if_neg inside, if_pos]
  | false =>
    unfold next comma
    rw [if_neg Bool.false_ne_true, cons_append, skip_cons (by decide)]
    simp only [if_neg parted.symm, Bool.false_eq_true, if_false, if_true,
      skip_append layout.between_spaces, skipped]

theorem next_done (first : Bool) {close : Nat} (all : ∀ d ∈ spaces, isSpace d = true)
    (solid : isSpace close = false) (rest : List Nat) :
    next first close (spaces ++ close :: rest) = .done rest := by
  unfold next
  rw [skip_append all, skip_cons solid]
  simp only [if_true]

theorem render_length (v : Value N) : 0 < (render numbers layout level v).length := by
  obtain ⟨c, rest, written, _⟩ := render_begins numbers layout level v
  rw [written]
  exact Nat.zero_lt_succ _

theorem renderItems_length (first : Bool) (items : List (Value N)) :
    0 < (renderItems numbers layout level first items).length := by
  cases items with
  | nil => simp [renderItems]
  | cons item items =>
    have positive := render_length numbers layout level item
    simp only [renderItems, length_append]
    omega

theorem renderEntries_length (first : Bool) (entries : List (List Nat × Value N)) :
    0 < (renderEntries numbers layout level first entries).length := by
  cases entries with
  | nil => simp [renderEntries]
  | cons entry entries =>
    simp only [renderEntries, length_append, length_cons]
    omega

mutual

theorem readValue_render : ∀ (v : Value N) (level fuel : Nat) {rest : List Nat}, Ends rest →
    (render numbers layout level v).length ≤ fuel →
    readValue numbers fuel (render numbers layout level v ++ rest) = some (v, rest)
  | .null, level, fuel, rest, ends, enough => by
    rw [render] at enough ⊢
    obtain ⟨fuel, rfl⟩ := exists_succ enough
    exact readValue_word numbers fuel (by decide) (by decide) ends rfl
  | .bool true, level, fuel, rest, ends, enough => by
    rw [render] at enough ⊢
    obtain ⟨fuel, rfl⟩ := exists_succ enough
    exact readValue_word numbers fuel (by decide) (by decide) ends rfl
  | .bool false, level, fuel, rest, ends, enough => by
    rw [render] at enough ⊢
    obtain ⟨fuel, rfl⟩ := exists_succ enough
    exact readValue_word numbers fuel (by decide) (by decide) ends rfl
  | .num n, level, fuel, rest, ends, enough => by
    obtain ⟨c, word, written, other⟩ := numbers.begins n
    have plain : ∀ d ∈ c :: word, isPlain d = true := by
      intro d mem
      exact numbers.plain (written ▸ mem)
    have read := literal_number numbers n
    rw [render, written] at enough ⊢
    rw [written] at read
    obtain ⟨fuel, rfl⟩ := exists_succ enough
    refine readValue_word numbers fuel plain ?_ ends read
    simp only [mem_cons, not_mem_nil, or_false, not_or] at other ⊢
    exact other.2.2.2
  | .str text, level, fuel, rest, ends, enough => by
    rw [render, quote, length_cons, length_append, List.length_singleton] at enough
    obtain ⟨fuel, rfl⟩ := exists_succ enough
    rw [render, quote, cons_append, append_assoc, readValue, if_pos rfl]
    exact congrArg (Option.map _) (readString_quoted text rest (by omega))
  | .arr items, level, fuel, rest, _, enough => by
    rw [render, length_cons] at enough
    obtain ⟨fuel, rfl⟩ := exists_succ enough
    rw [render, cons_append, readValue, if_neg (by decide), if_pos rfl,
      readItems_render items true (level + 1) fuel rest (by omega)]
    rfl
  | .obj entries, level, fuel, rest, _, enough => by
    rw [render, length_cons] at enough
    obtain ⟨fuel, rfl⟩ := exists_succ enough
    rw [render, cons_append, readValue, if_neg (by decide), if_neg (by decide),
      if_pos rfl, readEntries_render entries true (level + 1) fuel rest (by omega)]
    rfl

theorem readItems_render : ∀ (items : List (Value N)) (first : Bool) (level fuel : Nat)
    (rest : List Nat), (renderItems numbers layout level first items).length ≤ fuel →
    readItems numbers fuel first (renderItems numbers layout level first items ++ rest) =
      some (items, rest)
  | [], first, level, fuel, rest, enough => by
    have positive := renderItems_length numbers layout level first []
    obtain ⟨fuel, rfl⟩ := Nat.exists_eq_succ_of_ne_zero (by omega : fuel ≠ 0)
    rw [renderItems, append_assoc, cons_append, nil_append, readItems,
      next_done first (closing_spaces layout level first) (by decide)]
  | item :: items, first, level, fuel, rest, enough => by
    obtain ⟨c, more, written, solid, inside⟩ := render_begins numbers layout level item
    have positive := render_length numbers layout level item
    have last := renderItems_length numbers layout level false items
    have come : next first 0x5D (renderItems numbers layout level first (item :: items) ++ rest) =
        .item (render numbers layout level item ++
          (renderItems numbers layout level false items ++ rest)) := by
      simp only [renderItems, append_assoc]
      rw [written, cons_append]
      exact next_item layout (layout.gap_spaces level) solid inside (by decide)
    simp only [renderItems, length_append] at enough
    obtain ⟨fuel, rfl⟩ := Nat.exists_eq_succ_of_ne_zero (by omega : fuel ≠ 0)
    have read := readValue_render item level fuel
      (items_end numbers layout level items rest) (by omega)
    rw [readItems, come]
    simp only
    rw [read, Option.bind_some, readItems_render items false level fuel rest (by omega)]
    rfl

theorem readEntries_render : ∀ (entries : List (List Nat × Value N)) (first : Bool)
    (level fuel : Nat) (rest : List Nat),
    (renderEntries numbers layout level first entries).length ≤ fuel →
    readEntries numbers fuel first (renderEntries numbers layout level first entries ++ rest) =
      some (entries, rest)
  | [], first, level, fuel, rest, enough => by
    have positive := renderEntries_length numbers layout level first []
    obtain ⟨fuel, rfl⟩ := Nat.exists_eq_succ_of_ne_zero (by omega : fuel ≠ 0)
    rw [renderEntries, append_assoc, cons_append, nil_append, readEntries,
      next_done first (closing_spaces layout level first) (by decide)]
  | (key, item) :: entries, first, level, fuel, rest, enough => by
    have last := renderEntries_length numbers layout level false entries
    obtain ⟨c, more, written, solid, _⟩ := render_begins numbers layout level item
    have come : next first 0x7D
        (renderEntries numbers layout level first ((key, item) :: entries) ++ rest) =
        .item (0x22 :: (key.flatMap escape ++ 0x22 :: 0x3A :: (layout.after ++
          (render numbers layout level item ++
            (renderEntries numbers layout level false entries ++ rest))))) := by
      simp only [renderEntries, quote, append_assoc, cons_append, nil_append]
      exact next_item layout (layout.gap_spaces level) (by decide) (by decide) (by decide)
    have skipped : skip (layout.after ++ (render numbers layout level item ++
        (renderEntries numbers layout level false entries ++ rest))) =
        render numbers layout level item ++
          (renderEntries numbers layout level false entries ++ rest) := by
      rw [skip_append layout.after_spaces, written, cons_append, skip_cons solid]
    simp only [renderEntries, quote, length_append, length_cons,
      List.length_nil] at enough
    obtain ⟨fuel, rfl⟩ := Nat.exists_eq_succ_of_ne_zero (by omega : fuel ≠ 0)
    have named := readString_quoted key (0x3A :: (layout.after ++
      (render numbers layout level item ++
        (renderEntries numbers layout level false entries ++ rest))))
      (by omega : (key.flatMap escape).length < fuel)
    have read := readValue_render item level fuel
      (entries_end numbers layout level entries rest) (by omega)
    rw [readEntries, come]
    simp only
    rw [named, Option.bind_some]
    simp only [skip_cons (by decide : isSpace 0x3A = false)]
    rw [skipped, read, Option.bind_some,
      readEntries_render entries false level fuel rest (by omega)]
    rfl

end

theorem readDocument_render (v : Value N) :
    readDocument numbers (render numbers layout 0 v) = some v := by
  have ends : Ends [] := by
    intro c first
    cases first
  have read := readValue_render numbers layout v 0 _ ends (Nat.le_refl _)
  obtain ⟨c, rest, written, solid, _⟩ := render_begins numbers layout 0 v
  have skipped : skip (render numbers layout 0 v) = render numbers layout 0 v := by
    rw [written, skip_cons solid]
  rw [List.append_nil] at read
  rw [readDocument, skipped, read]
  rfl

theorem readDocument_line (v : Value N) :
    readDocument numbers (render numbers layout 0 v ++ [0x0A]) = some v := by
  have ends : Ends [0x0A] := by
    intro c first
    cases first
    rfl
  have read := readValue_render numbers layout v 0 (render numbers layout 0 v ++ [0x0A]).length
    ends (by rw [length_append]; exact Nat.le_add_right _ _)
  obtain ⟨c, rest, written, solid, _⟩ := render_begins numbers layout 0 v
  have skipped : skip (render numbers layout 0 v ++ [0x0A]) =
      render numbers layout 0 v ++ [0x0A] := by
    rw [written, cons_append, skip_cons solid]
  rw [readDocument, skipped, read]
  rfl

theorem render_inj {w : Value N} (same : render numbers layout 0 v = render numbers layout 0 w) :
    v = w := by
  have read := readDocument_render numbers layout v
  rw [same, readDocument_render] at read
  exact (Option.some.inj read).symm

theorem dumps_inj {w : Value N} (same : dumps numbers v = dumps numbers w) :
    sortKeys v = sortKeys w :=
  render_inj numbers compact same

theorem entries_of_dumps {entries entries' : List (List Nat × Value N)}
    (same : dumps numbers (.obj entries) = dumps numbers (.obj entries')) {key : List Nat}
    (mem : (key, v) ∈ entries) : ∃ w, (key, w) ∈ entries' ∧ sortKeys w = sortKeys v := by
  have sorted := dumps_inj numbers same
  rw [sortKeys, sortKeys] at sorted
  have there : (key, sortKeys v) ∈
      (sortEntries entries).insertionSort fun a b => a.1 ≤ b.1 :=
    (List.mem_insertionSort _).mpr (mem_sortEntries.mpr ⟨v, mem, rfl⟩)
  rw [Value.obj.inj sorted] at there
  exact mem_sortEntries.mp ((List.mem_insertionSort _).mp there)

theorem loads_letter (solid : isSpace c = false)
    (other : c ∉ [0x22, 0x5B, 0x7B, 0x6E, 0x74, 0x66, 0x2D, 0x49, 0x4E])
    (digit : ¬ (0x30 ≤ c ∧ c ≤ 0x39)) : loads numbers (c :: rest) = .error "JSONDecodeError" := by
  simp only [mem_cons, not_mem_nil, or_false, not_or] at other
  have unread : literal numbers ((c :: rest).takeWhile isPlain) = none := by
    rw [List.takeWhile_cons]
    split
    next =>
      have unlike : ∀ {word d more}, word = d :: more → c ≠ d →
          c :: rest.takeWhile isPlain ≠ word := by
        intro word d more begins differs same
        rw [begins] at same
        exact differs (List.cons.inj same).1
      have null : codes "null" = 0x6E :: codes "ull" := rfl
      have true' : codes "true" = 0x74 :: codes "rue" := rfl
      have false' : codes "false" = 0x66 :: codes "alse" := rfl
      rw [literal, if_neg (List.cons_ne_nil _ _), if_neg (unlike null (by omega)),
        if_neg (unlike true' (by omega)), if_neg (unlike false' (by omega)),
        Option.map_eq_none_iff, Option.eq_none_iff_forall_ne_some]
      intro n read
      have begins := numbers.read_begins read
      simp only [mem_cons, not_mem_nil, or_false] at begins
      omega
    next => exact if_pos rfl
  have unvalued : readValue numbers (rest.length + 1) (c :: rest) = none := by
    rw [readValue, if_neg (by omega), if_neg (by omega), if_neg (by omega), unread]
    rfl
  rw [loads, readDocument, skip_cons solid, length_cons, unvalued]
  rfl

end RoundTrip

section Keys

variable {N : Type}

mutual

def Distinct : Value N → Prop
  | .arr items => DistinctItems items
  | .obj entries => (entries.map Prod.fst).Nodup ∧ DistinctEntries entries
  | .null => True
  | .bool _ => True
  | .num _ => True
  | .str _ => True

def DistinctItems : List (Value N) → Prop
  | [] => True
  | item :: rest => Distinct item ∧ DistinctItems rest

def DistinctEntries : List (List Nat × Value N) → Prop
  | [] => True
  | (_, item) :: rest => Distinct item ∧ DistinctEntries rest

end

variable {entries : List (List Nat × Value N)}

theorem distinctEntries_iff : DistinctEntries entries ↔ ∀ e ∈ entries, Distinct e.2 := by
  induction entries with
  | nil => simp [DistinctEntries]
  | cons e rest ih => rw [DistinctEntries, List.forall_mem_cons, ih]

theorem keys_sortEntries (entries : List (List Nat × Value N)) :
    (sortEntries entries).map Prod.fst = entries.map Prod.fst := by
  induction entries with
  | nil => rw [sortEntries]
  | cons e rest ih => rw [sortEntries, map_cons, map_cons, ih]

mutual

theorem dictionaries_of_distinct : ∀ {v : Value N}, Distinct v → dictionaries v = v
  | .null, _ => by rw [dictionaries]
  | .bool b, _ => by rw [dictionaries]
  | .num n, _ => by rw [dictionaries]
  | .str text, _ => by rw [dictionaries]
  | .arr items, distinct => by
    rw [Distinct] at distinct
    rw [dictionaries, dictionaryItems_of_distinct distinct]
  | .obj entries, distinct => by
    rw [Distinct] at distinct
    rw [dictionaries, dictionaryEntries_of_distinct distinct.2,
      OrderedDict.entries_ofEntries distinct.1]

theorem dictionaryItems_of_distinct : ∀ {items : List (Value N)}, DistinctItems items →
    dictionaryItems items = items
  | [], _ => by rw [dictionaryItems]
  | item :: rest, distinct => by
    rw [DistinctItems] at distinct
    rw [dictionaryItems, dictionaries_of_distinct distinct.1,
      dictionaryItems_of_distinct distinct.2]

theorem dictionaryEntries_of_distinct : ∀ {entries : List (List Nat × Value N)},
    DistinctEntries entries → dictionaryEntries entries = entries
  | [], _ => by rw [dictionaryEntries]
  | (key, item) :: rest, distinct => by
    rw [DistinctEntries] at distinct
    rw [dictionaryEntries, dictionaries_of_distinct distinct.1,
      dictionaryEntries_of_distinct distinct.2]

end

mutual

theorem distinct_dictionaries : ∀ v : Value N, Distinct (dictionaries v)
  | .null => by rw [dictionaries, Distinct]; trivial
  | .bool b => by rw [dictionaries, Distinct]; trivial
  | .num n => by rw [dictionaries, Distinct]; trivial
  | .str text => by rw [dictionaries, Distinct]; trivial
  | .arr items => by
    rw [dictionaries, Distinct]
    exact distinct_dictionaryItems items
  | .obj entries => by
    rw [dictionaries, Distinct, distinctEntries_iff]
    refine ⟨(OrderedDict.ofEntries (dictionaryEntries entries)).distinct, ?_⟩
    intro e mem
    cases OrderedDict.mem_entries_setAll mem with
    | inl there => cases there
    | inr given => exact distinctEntries_iff.mp (distinct_dictionaryEntries entries) e given

theorem distinct_dictionaryItems : ∀ items : List (Value N), DistinctItems (dictionaryItems items)
  | [] => by rw [dictionaryItems, DistinctItems]; trivial
  | item :: rest => by
    rw [dictionaryItems, DistinctItems]
    exact ⟨distinct_dictionaries item, distinct_dictionaryItems rest⟩

theorem distinct_dictionaryEntries : ∀ entries : List (List Nat × Value N),
    DistinctEntries (dictionaryEntries entries)
  | [] => by rw [dictionaryEntries, DistinctEntries]; trivial
  | (key, item) :: rest => by
    rw [dictionaryEntries, DistinctEntries]
    exact ⟨distinct_dictionaries item, distinct_dictionaryEntries rest⟩

end

mutual

theorem distinct_sortKeys : ∀ {v : Value N}, Distinct v → Distinct (sortKeys v)
  | .null, distinct => by rw [sortKeys]; exact distinct
  | .bool b, distinct => by rw [sortKeys]; exact distinct
  | .num n, distinct => by rw [sortKeys]; exact distinct
  | .str text, distinct => by rw [sortKeys]; exact distinct
  | .arr items, distinct => by
    rw [Distinct] at distinct
    rw [sortKeys, Distinct]
    exact distinct_sortItems distinct
  | .obj entries, distinct => by
    rw [Distinct] at distinct
    have perm := List.perm_insertionSort (fun a b => a.1 ≤ b.1) (sortEntries entries)
    rw [sortKeys, Distinct, distinctEntries_iff, (perm.map Prod.fst).nodup_iff,
      keys_sortEntries]
    refine ⟨distinct.1, fun e mem => ?_⟩
    exact distinctEntries_iff.mp (distinct_sortEntries distinct.2) e (perm.mem_iff.mp mem)

theorem distinct_sortItems : ∀ {items : List (Value N)}, DistinctItems items →
    DistinctItems (sortItems items)
  | [], distinct => by rw [sortItems]; exact distinct
  | item :: rest, distinct => by
    rw [DistinctItems] at distinct
    rw [sortItems, DistinctItems]
    exact ⟨distinct_sortKeys distinct.1, distinct_sortItems distinct.2⟩

theorem distinct_sortEntries : ∀ {entries : List (List Nat × Value N)}, DistinctEntries entries →
    DistinctEntries (sortEntries entries)
  | [], distinct => by rw [sortEntries]; exact distinct
  | (key, item) :: rest, distinct => by
    rw [DistinctEntries] at distinct
    rw [sortEntries, DistinctEntries]
    exact ⟨distinct_sortKeys distinct.1, distinct_sortEntries distinct.2⟩

end

def sortedEntries (entries : List (List Nat × Value N)) : List (List Nat × Value N) :=
  (sortEntries entries).insertionSort fun a b => a.1 ≤ b.1

theorem sortKeys_obj (entries : List (List Nat × Value N)) :
    sortKeys (.obj entries) = .obj (sortedEntries entries) := by
  rw [sortKeys, sortedEntries]

theorem lookup_sortEntries (entries : List (List Nat × Value N)) (key : List Nat) :
    (sortEntries entries).lookup key = (entries.lookup key).map sortKeys := by
  induction entries with
  | nil => rw [sortEntries]; rfl
  | cons e rest ih =>
    obtain ⟨name, v⟩ := e
    rw [sortEntries, List.lookup_cons, List.lookup_cons, ih]
    cases key == name with
    | true => rfl
    | false => rfl

theorem lookup_sortedEntries (distinct : (entries.map Prod.fst).Nodup) (key : List Nat) :
    (sortedEntries entries).lookup key = (entries.lookup key).map sortKeys := by
  have perm := List.perm_insertionSort (fun a b => a.1 ≤ b.1) (sortEntries entries)
  rw [← lookup_sortEntries, sortedEntries]
  refine OrderedDict.lookup_of_perm ?_ perm.symm key
  rw [keys_sortEntries]
  exact distinct

theorem sortEntries_of_sorted (sorted : ∀ e ∈ entries, sortKeys e.2 = e.2) :
    sortEntries entries = entries := by
  induction entries with
  | nil => rw [sortEntries]
  | cons e rest ih =>
    obtain ⟨first, later⟩ := List.forall_mem_cons.mp sorted
    rw [sortEntries, first, ih later]

theorem keys_total : Std.Total fun a b : List Nat × Value N => a.1 ≤ b.1 :=
  ⟨fun a b => le_total a.1 b.1⟩

theorem keys_trans : IsTrans (List Nat × Value N) fun a b => a.1 ≤ b.1 :=
  ⟨fun _ _ _ first second => le_trans first second⟩

theorem insertionSort_twice (entries : List (List Nat × Value N)) :
    ((entries.insertionSort fun a b => a.1 ≤ b.1).insertionSort fun a b => a.1 ≤ b.1) =
      entries.insertionSort fun a b => a.1 ≤ b.1 := by
  have total := keys_total (N := N)
  have trans := keys_trans (N := N)
  exact (List.pairwise_insertionSort _ entries).insertionSort_eq

mutual

theorem sortKeys_twice : ∀ v : Value N, sortKeys (sortKeys v) = sortKeys v
  | .null => by rw [sortKeys, sortKeys]
  | .bool b => by rw [sortKeys, sortKeys]
  | .num n => by rw [sortKeys, sortKeys]
  | .str text => by rw [sortKeys, sortKeys]
  | .arr items => by rw [sortKeys, sortKeys, sortItems_twice items]
  | .obj entries => by
    have kept : ∀ e ∈ (sortEntries entries).insertionSort (fun a b => a.1 ≤ b.1),
        sortKeys e.2 = e.2 :=
      fun e mem => sortEntries_sorted entries e ((List.mem_insertionSort _).mp mem)
    rw [sortKeys, sortKeys, sortEntries_of_sorted kept, insertionSort_twice]

theorem sortItems_twice : ∀ items : List (Value N), sortItems (sortItems items) = sortItems items
  | [] => by rw [sortItems, sortItems]
  | item :: rest => by rw [sortItems, sortItems, sortKeys_twice item, sortItems_twice rest]

theorem sortEntries_sorted : ∀ (entries : List (List Nat × Value N)), ∀ e ∈ sortEntries entries,
    sortKeys e.2 = e.2
  | [], e, mem => by
    rw [sortEntries] at mem
    cases mem
  | (key, item) :: rest, e, mem => by
    rw [sortEntries] at mem
    cases mem with
    | head => exact sortKeys_twice item
    | tail _ later => exact sortEntries_sorted rest e later

end

theorem loads_dumpsIndented (numbers : NumberTexts N) {v : Value N} (distinct : Distinct v) :
    loads numbers (dumpsIndented numbers v) = .ok (sortKeys v) := by
  rw [loads, dumpsIndented, readDocument_render]
  exact congrArg Except.ok (dictionaries_of_distinct (distinct_sortKeys distinct))

theorem loads_line (numbers : NumberTexts N) {v : Value N} (distinct : Distinct v) :
    loads numbers (dumpsIndented numbers v ++ [0x0A]) = .ok (sortKeys v) := by
  rw [loads, dumpsIndented, readDocument_line]
  exact congrArg Except.ok (dictionaries_of_distinct (distinct_sortKeys distinct))

theorem distinct_of_loads {numbers : NumberTexts N} {text : List Nat} {v : Value N}
    (loaded : loads numbers text = .ok v) : Distinct v := by
  unfold loads at loaded
  split at loaded
  next read =>
    cases loaded
    exact distinct_dictionaries _
  next => cases loaded

end Keys

end JsonText
