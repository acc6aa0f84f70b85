import Mathlib.Algebra.Order.Floor.Ring
import Mathlib.Data.Int.Log
import Mathlib.Data.Rat.Floor
import Mathlib.Tactic.FieldSimp
import Mathlib.Tactic.Linarith

/-!
Rounding a rational, ties to even: to the nearest integer, and to a number of significant
decimal digits, as a decimal arithmetic context does to the result of an operation.
-/

namespace Numeric

def roundHalfEven (q : ℚ) : ℤ :=
  let f := ⌊q⌋
  let r := q - f
  if r < 1 / 2 then f
  else if 1 / 2 < r then f + 1
  else if f % 2 = 0 then f
  else f + 1

theorem floor_le_roundHalfEven (q : ℚ) : ⌊q⌋ ≤ roundHalfEven q := by
  simp only [roundHalfEven]
  split_ifs <;> omega

theorem roundHalfEven_le_floor_succ (q : ℚ) : roundHalfEven q ≤ ⌊q⌋ + 1 := by
  simp only [roundHalfEven]
  split_ifs <;> omega

theorem roundHalfEven_intCast (n : ℤ) : roundHalfEven n = n := by
  simp [roundHalfEven]

theorem roundHalfEven_mono {p q : ℚ} (h : p ≤ q) : roundHalfEven p ≤ roundHalfEven q := by
  rcases (Int.floor_le_floor h).lt_or_eq with lt | same
  · calc roundHalfEven p ≤ ⌊p⌋ + 1 := roundHalfEven_le_floor_succ p
      _ ≤ ⌊q⌋ := lt
      _ ≤ roundHalfEven q := floor_le_roundHalfEven q
  · have offset : p - ⌊p⌋ ≤ q - ⌊q⌋ := by rw [same]; linarith
    simp only [roundHalfEven, same] at offset ⊢
    -- with one floor the branch taken can only move upwards
    split_ifs <;> first | omega | linarith

theorem roundHalfEven_nonneg {q : ℚ} (h : 0 ≤ q) : 0 ≤ roundHalfEven q :=
  (Int.floor_nonneg.mpr h).trans (floor_le_roundHalfEven q)

variable (digits : ℕ)

def significantScale (q : ℚ) : ℤ := digits - 1 - Int.log 10 |q|

def roundSignificant (q : ℚ) : ℚ :=
  if q = 0 then 0
  else roundHalfEven (q * 10 ^ significantScale digits q) / 10 ^ significantScale digits q

theorem significantScale_pos (q : ℚ) : (0 : ℚ) < 10 ^ significantScale digits q :=
  zpow_pos (by norm_num) _

theorem roundSignificant_zero : roundSignificant digits 0 = 0 := rfl

theorem roundSignificant_nonneg {q : ℚ} (h : 0 ≤ q) : 0 ≤ roundSignificant digits q := by
  simp only [roundSignificant]
  split
  · exact le_rfl
  · have units := roundHalfEven_nonneg (mul_nonneg h (significantScale_pos digits q).le)
    exact div_nonneg (by exact_mod_cast units) (significantScale_pos digits q).le

theorem roundHalfEven_zpow {digits : ℕ} {e : ℤ} {q : ℚ} (h : 0 < q) (places : ℕ)
    (scaled : e + (digits - 1 - Int.log 10 q) = places) :
    (roundHalfEven (10 ^ e * 10 ^ significantScale digits q) : ℚ) =
      10 ^ e * 10 ^ significantScale digits q := by
  rw [← zpow_add₀ (by norm_num), significantScale, abs_of_pos h, scaled, zpow_natCast]
  exact_mod_cast roundHalfEven_intCast (10 ^ places)

theorem zpow_log_le_roundSignificant {digits : ℕ} (kept : 0 < digits) {q : ℚ} (h : 0 < q) :
    10 ^ Int.log 10 q ≤ roundSignificant digits q := by
  have pos := significantScale_pos digits q
  rw [roundSignificant, if_neg h.ne', le_div_iff₀ pos,
    ← roundHalfEven_zpow h (digits - 1) (by omega)]
  have first := Int.zpow_log_le_self (b := 10) (by norm_num) h
  exact_mod_cast roundHalfEven_mono (mul_le_mul_of_nonneg_right first pos.le)

theorem roundSignificant_le_zpow_log {digits : ℕ} {q : ℚ} (h : 0 < q) :
    roundSignificant digits q ≤ 10 ^ (Int.log 10 q + 1) := by
  have pos := significantScale_pos digits q
  rw [roundSignificant, if_neg h.ne', div_le_iff₀ pos,
    ← roundHalfEven_zpow h digits (by omega)]
  have first := (Int.lt_zpow_succ_log_self (b := 10) (by norm_num) q).le
  exact_mod_cast roundHalfEven_mono (mul_le_mul_of_nonneg_right first pos.le)

theorem roundSignificant_mono {digits : ℕ} (kept : 0 < digits) {p q : ℚ} (nonneg : 0 ≤ p)
    (h : p ≤ q) : roundSignificant digits p ≤ roundSignificant digits q := by
  rcases nonneg.eq_or_lt with zero | pos
  · rw [← zero, roundSignificant_zero]
    exact roundSignificant_nonneg digits (nonneg.trans h)
  · have logs : Int.log 10 p ≤ Int.log 10 q := Int.log_mono_right pos h
    rcases logs.eq_or_lt with same | below
    · have scale : significantScale digits p = significantScale digits q := by
        simp only [significantScale, abs_of_pos pos, abs_of_pos (pos.trans_le h), same]
      have scalePos := significantScale_pos digits q
      simp only [roundSignificant, pos.ne', (pos.trans_le h).ne', if_false, scale]
      have rounded := roundHalfEven_mono (mul_le_mul_of_nonneg_right h scalePos.le)
      gcongr
    · calc roundSignificant digits p ≤ 10 ^ (Int.log 10 p + 1) := roundSignificant_le_zpow_log pos
        _ ≤ 10 ^ Int.log 10 q := zpow_le_zpow_right₀ (by norm_num) (by omega)
        _ ≤ roundSignificant digits q := zpow_log_le_roundSignificant kept (pos.trans_le h)

end Numeric
