/-
Scriptlet.Proofs.Number.Rounding — the double nearest to a quotient depends on its
value alone.

A quotient is not reduced, and its nearest double is found from its numerator and
its denominator: from the lengths of the two, from a division and from a remainder.
Here each of the steps is said again of the value as a rational number. Rounding
does not change when both parts are multiplied by one number (`round_mul`), and two
quotients of one value have a common multiple; the step comes from the binary
logarithm of the value (`step_eq`).
-/
import Mathlib.Algebra.Order.Field.Power
import Mathlib.Data.Int.Log
import Mathlib.Data.Rat.Floor
import Mathlib.Tactic.NormNum
import Mathlib.Tactic.Positivity
import Mathlib.Tactic.Ring
import Scriptlet.Number.Ratio

namespace Scriptlet.Ratio

def value (r : Ratio) : ℚ := r.num / r.den

variable {r r' : Ratio}

theorem value_eq_iff (pos : 0 < r.den) (pos' : 0 < r'.den) :
    r.value = r'.value ↔ r.num * r'.den = r'.num * r.den := by
  have ne : (r.den : ℚ) ≠ 0 := by positivity
  have ne' : (r'.den : ℚ) ≠ 0 := by positivity
  rw [value, value, div_eq_div_iff ne ne']
  exact_mod_cast Iff.rfl

theorem value_eq_zero_iff (pos : 0 < r.den) : r.value = 0 ↔ r.num = 0 := by
  have ne : (r.den : ℚ) ≠ 0 := by positivity
  rw [value, div_eq_zero_iff, or_iff_left ne, Nat.cast_eq_zero]

theorem value_pos (num : 0 < r.num) (den : 0 < r.den) : 0 < r.value := by
  rw [value]
  positivity

/-! ## 1. Scaling -/

theorem den_scaleDown_pos {base : Nat} (basePos : 0 < base) (pos : 0 < r.den) (power : Int) :
    0 < (r.scaleDown base power).den :=
  Nat.mul_pos pos (Nat.pow_pos basePos)

/-- To scale down is to divide, with powers of either sign. -/
theorem value_scaleDown {base : Nat} (basePos : 0 < base) (power : Int) :
    (r.scaleDown base power).value = r.value / (base : ℚ) ^ power := by
  have ne : (base : ℚ) ≠ 0 := by positivity
  obtain ⟨n, rfl | rfl⟩ := power.eq_nat_or_neg
  · simp [scaleDown, value, div_div]
  · simp [scaleDown, value]
    ring

/-! ## 2. Rounding -/

theorem compare_mul (k a b : Nat) (pos : 0 < k) : compare (k * a) (k * b) = compare a b := by
  rcases Nat.lt_trichotomy a b with less | rfl | greater
  · rw [compare_lt_iff_lt.mpr less, compare_lt_iff_lt.mpr (Nat.mul_lt_mul_of_pos_left less pos)]
  · rw [compare_eq_iff_eq.mpr rfl, compare_eq_iff_eq.mpr rfl]
  · rw [compare_gt_iff_gt.mpr greater,
      compare_gt_iff_gt.mpr (Nat.mul_lt_mul_of_pos_left greater pos)]

/-- Rounding does not change when both parts of a quotient are multiplied. -/
theorem round_mul (num den : Nat) {k : Nat} (pos : 0 < k) :
    round ⟨k * num, k * den⟩ = round ⟨num, den⟩ := by
  have floor : floor ⟨k * num, k * den⟩ = floor ⟨num, den⟩ := Nat.mul_div_mul_left _ _ pos
  have half : fractionToHalf ⟨k * num, k * den⟩ = fractionToHalf ⟨num, den⟩ := by
    rw [fractionToHalf, Nat.mul_mod_mul_left, Nat.mul_left_comm, compare_mul _ _ _ pos]
    rfl
  rw [round, half, floor, round]

/-- Rounding is of the value, whatever the quotient that gives it. -/
theorem round_congr (pos : 0 < r.den) (pos' : 0 < r'.den) (same : r.value = r'.value) :
    r.round = r'.round := by
  rw [value_eq_iff pos pos', Nat.mul_comm, Nat.mul_comm r'.num] at same
  rw [← round_mul r.num r.den pos', ← round_mul r'.num r'.den pos, same, Nat.mul_comm r'.den]

theorem round_of_value_eq_natCast (pos : 0 < r.den) {n : Nat} (whole : r.value = n) :
    r.round = n := by
  have same : r.value = value ⟨n, 1⟩ := by rw [whole, value, Nat.cast_one, div_one]
  rw [round_congr pos Nat.one_pos same]
  simp [round, fractionToHalf, floor, Nat.mod_one, Nat.compare_eq_ite_lt]

/-- What a quotient rounds to is one of the two natural numbers next to its value. -/
theorem round_eq_floor_or (r : Ratio) : r.round = r.floor ∨ r.round = r.floor + 1 := by
  rw [round]
  split
  · exact .inl rfl
  · exact .inr rfl
  · omega

/-! ## 3. Steps -/

/-- The difference of the binary logarithms of the two parts. -/
def top (r : Ratio) : Int := r.num.log2 - r.den.log2

/-- The value is below the power of two after the top one. -/
theorem lt_pow_top (num : 0 < r.num) (den : 0 < r.den) : r.value < 2 ^ (r.top + 1) := by
  have numLt : (r.num : ℚ) < 2 ^ (r.num.log2 + 1) := by exact_mod_cast Nat.lt_log2_self
  have denLe : (2 : ℚ) ^ r.den.log2 ≤ r.den := by exact_mod_cast Nat.log2_self_le den.ne'
  calc r.value ≤ r.num / 2 ^ r.den.log2 :=
        div_le_div_of_nonneg_left (by positivity) (by positivity) denLe
    _ < 2 ^ (r.num.log2 + 1) / 2 ^ r.den.log2 := div_lt_div_of_pos_right numLt (by positivity)
    _ = 2 ^ (r.top + 1) := by
      rw [top, ← zpow_natCast, ← zpow_natCast, ← zpow_sub₀ (by norm_num)]
      congr 1
      push_cast
      ring

theorem pow_top_lt (num : 0 < r.num) (den : 0 < r.den) : 2 ^ (r.top - 1) < r.value := by
  have numLe : (2 : ℚ) ^ r.num.log2 ≤ r.num := by exact_mod_cast Nat.log2_self_le num.ne'
  have denLt : (r.den : ℚ) < 2 ^ (r.den.log2 + 1) := by exact_mod_cast Nat.lt_log2_self
  calc (2 : ℚ) ^ (r.top - 1) = 2 ^ r.num.log2 / 2 ^ (r.den.log2 + 1) := by
        rw [top, ← zpow_natCast, ← zpow_natCast, ← zpow_sub₀ (by norm_num)]
        congr 1
        push_cast
        ring
    _ < 2 ^ r.num.log2 / r.den := div_lt_div_of_pos_left (by positivity) (by positivity) denLt
    _ ≤ r.value := div_le_div_of_nonneg_right numLe (by positivity)

/-- The step is that of the leading bit of the value. -/
theorem step_eq (num : 0 < r.num) (den : 0 < r.den) :
    r.step = max (-1074) (Int.log 2 r.value - 52) := by
  have positive := value_pos num den
  have atTop : (r.scaleDown 2 r.top).num < (r.scaleDown 2 r.top).den ↔
      Int.log 2 r.value < r.top := by
    have denPos : 0 < (r.scaleDown 2 r.top).den := den_scaleDown_pos (by decide) den r.top
    have scaled : (r.scaleDown 2 r.top).value < 1 ↔ r.value < 2 ^ r.top := by
      rw [value_scaleDown (by decide), Nat.cast_ofNat, div_lt_one (by positivity)]
    rw [← Int.lt_zpow_iff_log_lt (by decide) positive, Nat.cast_ofNat, ← scaled, value,
      div_lt_one (by exact_mod_cast denPos), Nat.cast_lt]
  have upper : Int.log 2 r.value < r.top + 1 :=
    (Int.lt_zpow_iff_log_lt (by decide) positive).mp (lt_pow_top num den)
  have lower : r.top - 1 ≤ Int.log 2 r.value :=
    (Int.zpow_le_iff_le_log (by decide) positive).mp (pow_top_lt num den).le
  show max (-1074) (if _ then r.top - 53 else r.top - 52) = _
  split
  · next less =>
    have lt := atTop.mp less
    rw [show r.top - 53 = Int.log 2 r.value - 52 by omega]
  · next notLess =>
    have notLt := mt atTop.mpr notLess
    rw [show r.top = Int.log 2 r.value by omega]

/-- The nearest double depends on the value of the quotient only. -/
theorem nearest_congr (pos : 0 < r.den) (pos' : 0 < r'.den) (same : r.value = r'.value) :
    r.nearest = r'.nearest := by
  by_cases zero : r.num = 0
  · have zero' : r'.num = 0 := by
      rwa [← value_eq_zero_iff pos', ← same, value_eq_zero_iff pos]
    rw [nearest, if_pos zero, nearest, if_pos zero']
  · have notZero' : r'.num ≠ 0 := by
      rwa [Ne, ← value_eq_zero_iff pos', ← same, value_eq_zero_iff pos]
    have step : r.step = r'.step := by
      rw [step_eq (Nat.pos_of_ne_zero zero) pos, step_eq (Nat.pos_of_ne_zero notZero') pos', same]
    have round : (r.scaleDown 2 r.step).round = (r'.scaleDown 2 r'.step).round := by
      refine round_congr (den_scaleDown_pos (by decide) pos _)
        (den_scaleDown_pos (by decide) pos' _) ?_
      rw [value_scaleDown (by decide), value_scaleDown (by decide), same, step]
    rw [nearest, if_neg zero, nearest, if_neg notZero', round, step]

end Scriptlet.Ratio
