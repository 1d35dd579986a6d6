/-
Scriptlet.Proofs.Number.ReadBack — the decimal written for a double reads back as it.

The exact value of a finite double is nearest to that double (`nearest_eq`), so the
exact expansion reads back. The search for a shorter decimal stops at none that does
not (`nearest_firstHit`): it tries each before it takes it, and the nearer of two
neighbours is one of them. Zeros left out at the end of the coefficient do not
change the value. So whatever the search finds, and however far it gets, the decimal
that is written has the double as its nearest.
-/
import Mathlib.Tactic.FieldSimp
import Mathlib.Tactic.GCongr
import Scriptlet.Number.Shortest
import Scriptlet.Proofs.Number.Rounding

namespace Scriptlet

open Ratio (leadingBit infinityBits)

/-! ## 1. The values of doubles -/

namespace Double

def value (bits : Nat) : ℚ := significand bits * 2 ^ exponent bits

/-- The bits are the steps up to the exponent, and the significand after them. -/
theorem bits_eq (bits : Nat) :
    (exponent bits + 1074).toNat * leadingBit + significand bits = bits := by
  rw [exponent, significand]
  split
  · simp
  · simp only [leadingBit] at *
    omega

theorem significand_pos {bits : Nat} (pos : 0 < bits) : 0 < significand bits := by
  rw [significand]
  split
  · exact pos
  · exact Nat.add_pos_left (by decide) _

theorem value_pos {bits : Nat} (pos : 0 < bits) : 0 < value bits := by
  have significandPos := significand_pos pos
  rw [value]
  positivity

/-- The exponent of a magnitude is the step at its value. -/
theorem step_value {bits : Nat} (pos : 0 < bits) :
    max (-1074) (Int.log 2 (value bits) - 52) = exponent bits := by
  have positive := value_pos pos
  have power (k : Nat) : ((2 : Nat) : ℚ) ^ (k + exponent bits) = 2 ^ k * 2 ^ exponent bits := by
    rw [Nat.cast_ofNat, zpow_add₀ (by norm_num), zpow_natCast]
  rcases Nat.lt_or_ge bits leadingBit with small | large
  · have exponent_eq : exponent bits = -1074 := if_pos small
    have significandLt : significand bits < 2 ^ 52 := by rwa [significand, if_pos small]
    have upper : value bits < (2 : Nat) ^ ((52 : Nat) + exponent bits) := by
      rw [power, value]
      gcongr
      exact_mod_cast significandLt
    have log := (Int.lt_zpow_iff_log_lt (by decide) positive).mp upper
    rw [max_eq_left (by omega), exponent_eq]
  · have notSmall := Nat.not_lt.mpr large
    have quotient : 1 ≤ bits / leadingBit := (Nat.one_le_div_iff (by decide)).mpr large
    have exponent_eq : exponent bits = (bits / leadingBit : Nat) - 1075 := if_neg notSmall
    have significand_eq : significand bits = 2 ^ 52 + bits % leadingBit := if_neg notSmall
    have remainder : bits % leadingBit < 2 ^ 52 := Nat.mod_lt _ (by decide)
    have lower : (2 : Nat) ^ ((52 : Nat) + exponent bits) ≤ value bits := by
      rw [power, value]
      gcongr
      exact_mod_cast (by omega : 2 ^ 52 ≤ significand bits)
    have upper : value bits < (2 : Nat) ^ ((53 : Nat) + exponent bits) := by
      rw [power, value]
      gcongr
      exact_mod_cast (by omega : significand bits < 2 ^ 53)
    have log := (Int.zpow_le_iff_le_log (by decide) positive).mp lower
    have log' := (Int.lt_zpow_iff_log_lt (by decide) positive).mp upper
    rw [max_eq_right (by omega)]
    omega

end Double

/-- A quotient with the value of a finite magnitude is nearest to it. -/
theorem Ratio.nearest_eq {r : Ratio} (den : 0 < r.den) {bits : Nat} (finite : bits < infinityBits)
    (exact : r.value = Double.value bits) : r.nearest = bits := by
  rcases Nat.eq_zero_or_pos bits with rfl | pos
  · have zero : r.num = 0 := by
      rw [← value_eq_zero_iff den, exact, Double.value]
      simp [Double.significand, leadingBit]
    rw [nearest, if_pos zero]
  · have num : 0 < r.num := by
      have := Double.value_pos pos
      rw [Nat.pos_iff_ne_zero, Ne, ← value_eq_zero_iff den, exact]
      exact this.ne'
    have step : r.step = Double.exponent bits := by
      rw [step_eq num den, exact, Double.step_value pos]
    have round : (r.scaleDown 2 r.step).round = Double.significand bits := by
      refine round_of_value_eq_natCast (den_scaleDown_pos (by decide) den _) ?_
      rw [value_scaleDown (by decide), exact, step, Double.value, Nat.cast_ofNat,
        mul_div_cancel_right₀ _ (by positivity)]
    rw [nearest, if_neg num.ne', round, step, Double.bits_eq, Nat.min_eq_left finite.le]

/-! ## 2. The values of decimals -/

namespace Decimal

def value (d : Decimal) : ℚ := d.coefficient * 10 ^ d.exponent

/-- A decimal is a quotient with a positive denominator. -/
theorem den_ratio_pos (d : Decimal) : 0 < d.ratio.den :=
  Ratio.den_scaleDown_pos (by decide) Nat.one_pos _

/-- The quotient is the decimal, whichever sign the exponent has. -/
theorem value_ratio (d : Decimal) : d.ratio.value = d.value := by
  rw [ratio, Ratio.value_scaleDown (by decide), Ratio.value, value, Nat.cast_one, div_one,
    Nat.cast_ofNat, zpow_neg, div_inv_eq_mul]

/-- Decimals of one value are nearest to one double. -/
theorem nearest_congr {d d' : Decimal} (same : d.value = d'.value) : d.nearest = d'.nearest := by
  refine Ratio.nearest_congr d.den_ratio_pos d'.den_ratio_pos ?_
  rw [value_ratio, value_ratio, same]

/-- The exact expansion has the value of the magnitude. -/
theorem value_exact (bits : Nat) : (exact bits).value = Double.value bits := by
  rw [exact, value, Double.value]
  generalize Double.exponent bits = e
  obtain ⟨n, rfl | rfl⟩ := e.eq_nat_or_neg
  · simp
  · have ten : (10 : ℚ) ^ n = 2 ^ n * 5 ^ n := by rw [← mul_pow]; norm_num
    simp [ten]
    field_simp

/-- The exact value of a double is nearest to that double. -/
theorem nearest_exact {bits : Nat} (finite : bits < infinityBits) :
    (exact bits).nearest = bits :=
  Ratio.nearest_eq (den_ratio_pos _) finite (by rw [value_ratio, value_exact])

/-! ## 3. The search -/

/-- What is found on a grid reads back: the test says so. -/
theorem nearest_of_onGrid? {bits : Nat} {k : Int} {d : Decimal} (hit : onGrid? bits k = some d) :
    d.nearest = bits := by
  rw [onGrid?] at hit
  generalize (Double.ratio bits).scaleDown 10 k = r at hit
  split at hit
  · next below above =>
    cases hit
    rcases r.round_eq_floor_or with round | round
    · rw [round]
      exact eq_of_beq below
    · rw [round]
      exact eq_of_beq above
  · next below _ =>
    cases hit
    exact eq_of_beq below
  · next _ above =>
    cases hit
    exact eq_of_beq above
  · cases hit

/-- On no grid a hit: then the exact value is taken, which reads back as well. -/
theorem nearest_firstHit {bits : Nat} (finite : bits < infinityBits) (steps : Nat) (k : Int) :
    (firstHit bits steps k).nearest = bits := by
  induction steps generalizing k with
  | zero => exact nearest_exact finite
  | succ steps ih =>
    rw [firstHit]
    split
    · next d hit => exact nearest_of_onGrid? hit
    · exact ih _

/-- Zeros at the end of the coefficient may be left out. -/
theorem value_normal (d : Decimal) : d.normal.value = d.value := by
  fun_induction normal d with
  | case1 d zero => simp [value, zero]
  | case2 d notZero whole ih =>
    have tens : (d.coefficient : ℚ) = 10 * (d.coefficient / 10 : Nat) := by
      exact_mod_cast (by omega : d.coefficient = 10 * (d.coefficient / 10))
    rw [ih, value, value, zpow_add_one₀ (by norm_num), tens]
    ring
  | case3 => rfl

/-- The decimal that is written for a finite magnitude reads back as it. -/
theorem nearest_shortest {bits : Nat} (finite : bits < infinityBits) :
    (shortest bits).nearest = bits := by
  rw [shortest, nearest_congr (value_normal _), nearest_firstHit finite]

end Decimal

end Scriptlet
