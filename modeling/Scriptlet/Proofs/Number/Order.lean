/-
Scriptlet.Proofs.Number.Order — the doubles that are numbers are ordered as their bits.

Without its sign a double counts how many doubles lie between zero and it. With the sign
of the double that count is a place on a line (`Double.rank`), and comparing two doubles
that are numbers is comparing their places (`Double.compare_unpack`). Both zeros are at
place zero, infinity is one place beyond the largest finite double. So the comparisons of
doubles are those of integers, and whatever holds of a linear order holds of them.

What makes it true is that a significand never leaves the stretch of its exponent: one of
the next exponent is at least as large as the first that the stretch has no room for
(`compare_finite`).
-/
import Scriptlet.Proofs.Number.Sign

namespace Scriptlet.Double

open Float.Model (Format UnpackedFloat)
open Float.Model.UnpackedFloat
open Ratio (leadingBit infinityBits)

/-- The place of a double among the doubles: how far it is from zero, below zero if its
sign bit is set. -/
def rank (x : Float) : Int := if isNegative x then -magnitude x else magnitude x

/-! ## 1. What a word means, and its place -/

/-- A number of this sign, and how many doubles it is away from zero. -/
inductive Counts (sign : Sign) : UnpackedFloat → Nat → Prop
  | zero : Counts sign (.zero sign) 0
  | finite {m : Nat} {e : Int} {pos : 0 < m} (lowest : -1074 ≤ e) (narrow : m < 2 * leadingBit)
      (full : e = -1074 ∨ leadingBit ≤ m)
      (below : (e + 1074).toNat * leadingBit + m < infinityBits) :
      Counts sign (.finite sign m e pos) ((e + 1074).toNat * leadingBit + m)
  | infinite : Counts sign (.infinity sign) infinityBits

/-- The exponent decides, and then the significand, just as their sum does. -/
theorem compare_finite {m m' : Nat} {e e' : Int} (lowest : -1074 ≤ e) (lowest' : -1074 ≤ e')
    (narrow : m < 2 * leadingBit) (narrow' : m' < 2 * leadingBit)
    (full : e = -1074 ∨ leadingBit ≤ m) (full' : e' = -1074 ∨ leadingBit ≤ m') :
    (compare e e').then (compare m m') =
      compare (((e + 1074).toNat * leadingBit + m : Nat) : Int)
        ((e' + 1074).toNat * leadingBit + m' : Nat) := by
  simp only [leadingBit] at *
  rcases Int.lt_trichotomy e e' with less | rfl | greater
  · rw [Int.compare_eq_lt.mpr less, Int.compare_eq_lt.mpr (by omega)]
    rfl
  · rw [Std.compare_self, Ordering.eq_then]
    rcases Nat.lt_trichotomy m m' with less | rfl | greater
    · rw [Nat.compare_eq_lt.mpr less, Int.compare_eq_lt.mpr (by omega)]
    · rw [Std.compare_self, Std.compare_self]
    · rw [Nat.compare_eq_gt.mpr greater, Int.compare_eq_gt.mpr (by omega)]
  · rw [Int.compare_eq_gt.mpr greater, Int.compare_eq_gt.mpr (by omega)]
    rfl

/-- To change both signs is to exchange the two sides. -/
theorem compare_neg (a b : Int) : compare (-a) (-b) = (compare a b).swap := by
  rcases Int.lt_trichotomy a b with less | rfl | greater
  · rw [Int.compare_eq_lt.mpr less, Int.compare_eq_gt.mpr (by omega)]
    rfl
  · rw [Std.compare_self, Std.compare_self]
    rfl
  · rw [Int.compare_eq_gt.mpr greater, Int.compare_eq_lt.mpr (by omega)]
    rfl

/-- How a number of this sign compares with what is nearer to zero. -/
def outward : Sign → Ordering
  | .positive => .gt
  | .negative => .lt

/-- The one farther from zero decides: on its side of zero it is the larger or the smaller one. -/
theorem compare_farther {n n' : Nat} (farther : n' < n) (sign sign' : Sign) :
    compare (sign.apply n) (sign'.apply n') = outward sign := by
  cases sign with
  | positive => exact Int.compare_eq_gt.mpr (by cases sign' <;> (simp only [Sign.apply]; omega))
  | negative => exact Int.compare_eq_lt.mpr (by cases sign' <;> (simp only [Sign.apply]; omega))

theorem compare_nearer {n n' : Nat} (nearer : n < n') (sign sign' : Sign) :
    compare (sign.apply n) (sign'.apply n') = (outward sign').swap := by
  rw [Std.OrientedOrd.eq_swap, compare_farther nearer]

/-- Numbers are compared as their places. -/
theorem Counts.compare {sign sign' : Sign} {u u' : UnpackedFloat} {n n' : Nat}
    (counts : Counts sign u n) (counts' : Counts sign' u' n') :
    u.compare u' = some (Ord.compare (sign.apply n) (sign'.apply n')) := by
  have infinityPos : 0 < infinityBits := by decide
  cases counts with
  | zero =>
    cases counts' with
    | zero => cases sign <;> cases sign' <;> rfl
    | @finite m' e' pos' =>
      rw [compare_nearer (Nat.add_pos_right _ pos')]
      cases sign' <;> rfl
    | infinite =>
      rw [compare_nearer infinityPos]
      cases sign' <;> rfl
  | @finite m e pos lowest narrow full below =>
    cases counts' with
    | zero =>
      rw [compare_farther (Nat.add_pos_right _ pos)]
      cases sign <;> rfl
    | @finite m' e' pos' lowest' narrow' full' =>
      have same := compare_finite lowest lowest' narrow narrow' full full'
      cases sign with
      | positive =>
        cases sign' with
        | positive => exact congrArg some same
        | negative =>
          exact congrArg some (Int.compare_eq_gt.mpr (by simp only [Sign.apply]; omega)).symm
      | negative =>
        cases sign' with
        | positive =>
          exact congrArg some (Int.compare_eq_lt.mpr (by simp only [Sign.apply]; omega)).symm
        | negative =>
          show some (Ordering.swap _) = some (Ord.compare (-_) (-_))
          rw [same, compare_neg]
    | infinite =>
      rw [compare_nearer below]
      cases sign' <;> rfl
  | infinite =>
    cases counts' with
    | zero =>
      rw [compare_farther infinityPos]
      cases sign <;> rfl
    | finite lowest' narrow' full' below' =>
      rw [compare_farther below']
      cases sign <;> rfl
    | infinite => cases sign <;> cases sign' <;> decide

/-- A finite number counts the doubles of the smaller exponents and those of its own. -/
theorem Counts.of_finite {sign : Sign} {m n : Nat} {e : Int} {pos : 0 < m}
    (place : n = (e + 1074).toNat * leadingBit + m) (lowest : -1074 ≤ e)
    (narrow : m < 2 * leadingBit) (full : e = -1074 ∨ leadingBit ≤ m) (below : n < infinityBits) :
    Counts sign (.finite sign m e pos) n := by
  subst place
  exact .finite lowest narrow full below

/-- What a word means that is a number has its place in the bits of the word. -/
theorem counts_word (sign : Sign) (e : BitVec 11) (m : BitVec 52)
    (number : (word .positive e m).toNat ≤ infinityBits) :
    Counts sign (unpack Format.binary64 (word sign e m)) (word .positive e m).toNat := by
  have positive : Sign.positive.toBitVec.toNat = 0 := rfl
  have bias : (Format.binary64.exponentBias : Int) = 1023 := rfl
  have eLt : e.toNat < 2048 := e.isLt
  have mLt : m.toNat < 2 ^ 52 := m.isLt
  rw [toNat_word, positive, Nat.zero_mul, Nat.zero_add] at number ⊢
  simp only [unpack, unpackMantissa_packComponents, unpackExponent_packComponents,
    unpackSign_packComponents, Sign.ofBitVec_toBitVec, bias]
  split_ifs with ones noMantissa noExponent noMantissa
  · subst ones noMantissa
    exact .infinite
  · -- Bits beyond those of infinity mean no number.
    have top : e.toNat = 2047 := by rw [ones]; rfl
    have none : m.toNat = 0 := by
      simp only [top, infinityBits, leadingBit] at number
      omega
    exact absurd (BitVec.toNat_inj.mp none) noMantissa
  · subst noExponent noMantissa
    exact .zero
  · subst noExponent
    have zero : (0#11).toNat = 0 := rfl
    refine .of_finite ?_ ?_ ?_ (.inl ?_) ?_ <;>
      simp only [zero, infinityBits, leadingBit] at * <;> omega
  · have small : e.toNat ≠ 2047 := fun top => ones (BitVec.toNat_inj.mp top)
    have some : e.toNat ≠ 0 := fun none => noExponent (BitVec.toNat_inj.mp none)
    have significand : (1#1 ++ m).toNat = leadingBit + m.toNat := by
      rw [BitVec.toNat_append, ← Nat.shiftLeft_add_eq_or_of_lt m.isLt]
      rfl
    refine .of_finite ?_ ?_ ?_ (.inr ?_) ?_ <;>
      simp only [significand, infinityBits, leadingBit] at * <;> omega

/-! ## 2. Comparisons of doubles -/

variable {x y : Float}

/-- All numbers up to infinity are within the bits of infinity. -/
theorem magnitude_of_number (number : classOf x ≠ .undefined) : magnitude x ≤ infinityBits := by
  rw [classOf] at number
  split at number
  case isTrue below => exact Nat.le_of_lt below
  case isFalse =>
    split at number
    case isTrue same => exact Nat.le_of_eq same
    case isFalse => exact absurd rfl number

/-- What a double means that is a number has the place of the double. -/
theorem exists_counts (number : classOf x ≠ .undefined) :
    ∃ sign : Sign,
      Counts sign x.toModel.unpack (magnitude x) ∧ sign.apply (magnitude x) = rank x := by
  obtain ⟨sign, e, m, bits, magnitude_eq, sign_eq⟩ := exists_fields x
  have means : x.toModel.unpack = unpack Format.binary64 (word sign e m) :=
    congrArg (unpack Format.binary64) bits
  refine ⟨sign, ?_, ?_⟩
  · rw [means, magnitude_eq]
    exact counts_word sign e m (magnitude_eq ▸ magnitude_of_number number)
  · rw [rank]
    cases sign with
    | positive => rw [if_neg (mt sign_eq.mp nofun), Sign.apply]
    | negative => rw [if_pos (sign_eq.mpr rfl), Sign.apply]

/-- Two doubles that are numbers are compared as their places. -/
theorem compare_unpack (number : classOf x ≠ .undefined) (number' : classOf y ≠ .undefined) :
    x.toModel.unpack.compare y.toModel.unpack = some (compare (rank x) (rank y)) := by
  obtain ⟨sign, counts, place⟩ := exists_counts number
  obtain ⟨sign', counts', place'⟩ := exists_counts number'
  rw [counts.compare counts', place, place']

/-- The comparisons of doubles are those of their ranks: two zeros have one rank, and NaN is left
out. -/
theorem decide_le (number : classOf x ≠ .undefined) (number' : classOf y ≠ .undefined) :
    decide (x ≤ y) = (compare (rank x) (rank y)).isLE := by
  have means : (x ≤ y) = (decide (x.toModel.unpack.le y.toModel.unpack = true) = true) := rfl
  simp only [means, UnpackedFloat.le, compare_unpack number number', Option.any_some,
    Bool.decide_eq_true]

theorem decide_lt (number : classOf x ≠ .undefined) (number' : classOf y ≠ .undefined) :
    decide (x < y) = (compare (rank x) (rank y)).isLT := by
  have means : (x < y) = (decide (x.toModel.unpack.lt y.toModel.unpack = true) = true) := rfl
  simp only [means, UnpackedFloat.lt, compare_unpack number number', Bool.decide_eq_true]
  cases compare (rank x) (rank y) <;> rfl

/-- Equal doubles have equal ranks, and only these. -/
theorem beq_eq (number : classOf x ≠ .undefined) (number' : classOf y ≠ .undefined) :
    (x == y) = (compare (rank x) (rank y)).isEq := by
  have means : (x == y) = x.toModel.unpack.beq y.toModel.unpack := rfl
  simp only [means, UnpackedFloat.beq, compare_unpack number number']
  cases compare (rank x) (rank y) <;> rfl

end Scriptlet.Double
