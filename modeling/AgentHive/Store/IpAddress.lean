import Mathlib.Algebra.Group.Nat.Defs
import Mathlib.Data.List.Basic

/-!
Internet addresses and networks as texts.

An address of version 6 may carry a scope. A network is a base and a mask; it contains the
addresses of its own version that agree with the base under the mask.
-/

inductive IpAddress
  | v4 (value : Nat)
  | v6 (value : Nat) (scope : Option (List Char))
  deriving DecidableEq

namespace IpAddress

def hexDigit (c : Char) : Option Nat :=
  if '0' ≤ c ∧ c ≤ '9' then some (c.toNat - 48)
  else if 'a' ≤ c ∧ c ≤ 'f' then some (c.toNat - 87)
  else if 'A' ≤ c ∧ c ≤ 'F' then some (c.toNat - 55)
  else none

def number (base : Nat) (text : List Char) : Option Nat := do
  let digits ← text.mapM fun c => (hexDigit c).filter (· < base)
  if digits = [] then none else some (digits.foldl (fun n d => n * base + d) 0)

def joined (base : Nat) (parts : List Nat) : Nat := parts.foldl (fun n d => n * base + d) 0

def parted (base : Nat) : Nat → Nat → List Nat
  | 0, _ => []
  | count + 1, n => parted base count (n / base) ++ [n % base]

def octet (text : List Char) : Option Nat :=
  if 3 < text.length ∨ (text ≠ ['0'] ∧ text.head? = some '0') then none
  else (number 10 text).filter (· ≤ 255)

def parseV4 (text : List Char) : Option Nat := do
  let octets ← (text.splitOn '.').mapM octet
  if octets.length = 4 then some (joined 256 octets) else none

def textV4 (value : Nat) : List Char :=
  ['.'].intercalate ((parted 256 4 value).map (Nat.toDigits 10))

def hextet (text : List Char) : Option Nat :=
  if 4 < text.length then none else number 16 text

def partsV6 (text : List Char) : Option (List (List Char)) :=
  let parts := text.splitOn ':'
  if parts.length < 3 then none
  else
    match parts.getLast? with
    | none => none
    | some last =>
      if '.' ∈ last then
        (parseV4 last).map fun value =>
          parts.dropLast ++ [Nat.toDigits 16 (value / 65536), Nat.toDigits 16 (value % 65536)]
      else some parts

def gaps (parts : List (List Char)) : List Nat :=
  (List.range parts.length).filter fun i => 0 < i && i + 1 < parts.length && parts.getD i [] = []

def groupsV6 (parts : List (List Char)) : Option (List Nat) :=
  if 9 < parts.length then none
  else
    match gaps parts with
    | [] => if parts.length = 8 then parts.mapM hextet else none
    | [gap] => do
      let front := parts.take gap
      let back := parts.drop (gap + 1)
      let front ← if front.head? = some [] then (if front.length = 1 then some [] else none)
        else some front
      let back ← if back.getLast? = some [] then (if back.length = 1 then some [] else none)
        else some back
      if front.length + back.length < 8 then
        let high ← front.mapM hextet
        let low ← back.mapM hextet
        some (high ++ List.replicate (8 - (front.length + back.length)) 0 ++ low)
      else none
    | _ :: _ :: _ => none

def splitScope (text : List Char) : Option (List Char × Option (List Char)) :=
  match text.splitOn '%' with
  | [address] => some (address, none)
  | [address, scope] => if scope = [] then none else some (address, some scope)
  | _ => none

def parseV6 (text : List Char) : Option IpAddress := do
  let (address, scope) ← splitScope text
  let parts ← partsV6 address
  let groups ← groupsV6 parts
  some (.v6 (joined 65536 groups) scope)

def longestRun : Nat → Nat → Nat × Nat → List Nat → Nat × Nat
  | _, _, best, [] => best
  | place, run, best, group :: rest =>
    if group = 0 then
      let best := if best.2 < run + 1 then (place - run, run + 1) else best
      longestRun (place + 1) (run + 1) best rest
    else longestRun (place + 1) 0 best rest

def compressed (groups : List Nat) : List (List Char) :=
  let texts := groups.map (Nat.toDigits 16)
  let (start, length) := longestRun 0 0 (0, 0) groups
  if 1 < length then
    (if start = 0 then [[]] else []) ++ texts.take start ++ [[]] ++ texts.drop (start + length) ++
      (if start + length = groups.length then [[]] else [])
  else texts

def parse (text : List Char) : Option IpAddress :=
  if '/' ∈ text then none
  else
    match parseV4 text with
    | some value => some (.v4 value)
    | none => parseV6 text

def text : IpAddress → List Char
  | .v4 value => textV4 value
  | .v6 value scope =>
    [':'].intercalate (compressed (parted 65536 8 value)) ++
      match scope with
      | none => []
      | some scope => '%' :: scope

theorem octet_toDigits (n : Nat) (small : n < 256) : octet (Nat.toDigits 10 n) = some n := by
  have all : ∀ n : Fin 256, octet (Nat.toDigits 10 n) = some n.val := by decide +kernel
  exact all ⟨n, small⟩

theorem mem_parted {base count n d : Nat} (positive : 0 < base) (mem : d ∈ parted base count n) :
    d < base := by
  induction count generalizing n with
  | zero => cases mem
  | succ count ih =>
    rw [parted, List.mem_append, List.mem_singleton] at mem
    cases mem with
    | inl earlier => exact ih earlier
    | inr last =>
      rw [last]
      exact Nat.mod_lt n positive

theorem joined_parted {base count n : Nat} (small : n < base ^ count) :
    joined base (parted base count n) = n := by
  induction count generalizing n with
  | zero =>
    rw [Nat.pow_zero] at small
    rw [parted, joined, List.foldl_nil]
    omega
  | succ count ih =>
    have rest : n / base < base ^ count := by
      apply Nat.div_lt_of_lt_mul
      rw [Nat.mul_comm]
      exact small
    have front := ih rest
    unfold joined at front ⊢
    rw [parted, List.foldl_append, front, List.foldl_cons, List.foldl_nil]
    exact Nat.div_add_mod' n base

theorem length_parted (base count n : Nat) : (parted base count n).length = count := by
  induction count generalizing n with
  | zero => rfl
  | succ count ih => rw [parted, List.length_append, ih, List.length_singleton]

theorem mapM_octet {octets : List Nat} (small : ∀ n ∈ octets, n < 256) :
    (octets.map (Nat.toDigits 10)).mapM octet = some octets := by
  induction octets with
  | nil => rfl
  | cons n rest ih =>
    rw [List.map_cons, List.mapM_cons, octet_toDigits n (small n (List.mem_cons_self ..)),
      ih fun m mem => small m (List.mem_cons_of_mem n mem)]
    rfl

theorem splitOn_textV4 (value : Nat) :
    (textV4 value).splitOn '.' = (parted 256 4 value).map (Nat.toDigits 10) := by
  apply List.splitOn_intercalate
  · intro text mem dot
    obtain ⟨n, _, rfl⟩ := List.mem_map.mp mem
    exact absurd (Nat.isDigit_of_mem_toDigits (by decide) (by decide) dot) (by decide)
  · intro empty
    have length := congrArg List.length empty
    rw [List.length_map, length_parted] at length
    cases length

theorem parseV4_textV4 {value : Nat} (small : value < 2 ^ 32) :
    parseV4 (textV4 value) = some value := by
  have octets : ((parted 256 4 value).map (Nat.toDigits 10)).mapM octet =
      some (parted 256 4 value) := mapM_octet fun n mem => mem_parted (by decide) mem
  unfold parseV4
  rw [splitOn_textV4, octets, Option.bind_eq_bind, Option.bind_some, length_parted, if_pos rfl,
    @joined_parted 256 4 value small]

theorem mem_of_mem_intercalate {α : Type} {a sep : α} {parts : List (List α)}
    (mem : a ∈ [sep].intercalate parts) : a = sep ∨ ∃ part ∈ parts, a ∈ part := by
  induction parts with
  | nil => cases mem
  | cons part rest ih =>
    cases rest with
    | nil =>
      rw [List.intercalate_singleton] at mem
      exact .inr ⟨part, List.mem_cons_self .., mem⟩
    | cons next later =>
      rw [List.intercalate_cons_cons, List.mem_append, List.mem_append,
        List.mem_singleton] at mem
      obtain (here | here) | behind := mem
      · exact .inr ⟨part, List.mem_cons_self .., here⟩
      · exact .inl here
      · cases ih behind with
        | inl eq => exact .inl eq
        | inr inside =>
          obtain ⟨other, among, there⟩ := inside
          exact .inr ⟨other, List.mem_cons_of_mem part among, there⟩

theorem mem_textV4 {value : Nat} {c : Char} (mem : c ∈ textV4 value) : c = '.' ∨ c.isDigit := by
  cases mem_of_mem_intercalate mem with
  | inl dot => exact .inl dot
  | inr inside =>
    obtain ⟨text, among, here⟩ := inside
    obtain ⟨n, _, rfl⟩ := List.mem_map.mp among
    exact .inr (Nat.isDigit_of_mem_toDigits (by decide) (by decide) here)

theorem parse_textV4 {value : Nat} (small : value < 2 ^ 32) :
    parse (textV4 value) = some (.v4 value) := by
  have slash : '/' ∉ textV4 value := by
    intro mem
    cases mem_textV4 mem with
    | inl dot => exact absurd dot (by decide)
    | inr digit => exact absurd digit (by decide)
  rw [parse, if_neg slash, parseV4_textV4 small]

end IpAddress

structure IpNetwork where
  six : Bool
  base : Nat
  mask : Nat
  deriving DecidableEq

namespace IpNetwork

def prefixMask (width length : Nat) : Nat := 2 ^ width - 2 ^ (width - length)

def lengthOf (mask : Nat) : Option Nat :=
  (List.range 33).find? fun length => prefixMask 32 length = mask

def prefixLength (width : Nat) (text : List Char) : Option Nat :=
  (IpAddress.number 10 text).filter (· ≤ width)

def lengthV4 (text : List Char) : Option Nat :=
  match prefixLength 32 text with
  | some length => some length
  | none => do
    let mask ← IpAddress.parseV4 text
    match lengthOf mask with
    | some length => some length
    | none => lengthOf (2 ^ 32 - 1 - mask)

def parseWith (address : List Char) (length : Option (List Char)) : Option IpNetwork :=
  let four : Option IpNetwork := do
    let value ← IpAddress.parseV4 address
    let length ← match length with
      | none => some 32
      | some text => lengthV4 text
    some { six := false, base := value &&& prefixMask 32 length, mask := prefixMask 32 length }
  match four with
  | some network => some network
  | none =>
    match IpAddress.parseV6 address with
    | some (.v6 value _) => do
      let length ← match length with
        | none => some 128
        | some text => prefixLength 128 text
      some { six := true, base := value &&& prefixMask 128 length, mask := prefixMask 128 length }
    | _ => none

def parse (text : List Char) : Option IpNetwork :=
  match text.splitOn '/' with
  | [address] => parseWith address none
  | [address, length] => parseWith address (some length)
  | _ => none

def contains (network : IpNetwork) : IpAddress → Bool
  | .v4 value => !network.six && value &&& network.mask == network.base
  | .v6 value _ => network.six && value &&& network.mask == network.base

end IpNetwork
