/-
Scriptlet.Proofs.Number.Sign — a finite double is its magnitude, with a minus sign if
its sign bit is set.

A double is a word of three fields, and a negation goes by way of what the fields
mean: the word is unpacked, the sign turned, and what is left packed again. Unpacking
looks at the sign field only to copy it, so turning the sign of what a word means is
turning the sign bit of the word (`neg_unpack`), and packing takes back what unpacking
did to any word that is a number. So a negation changes the sign bit and nothing else,
of a zero as of any other finite number.
-/
import Mathlib
import Scriptlet.Number.Double

namespace Scriptlet.Double

open Float.Model (Format)
open Float.Model.UnpackedFloat

/-! ## 1. The fields of a word -/

abbrev word (sign : Sign) (e : BitVec 11) (m : BitVec 52) : BitVec Format.binary64.numBits :=
  packComponents Format.binary64 sign e m

variable (sign : Sign) (e : BitVec 11) (m : BitVec 52)

/-- Every word is made of a sign, an exponent and a significand. -/
theorem exists_word (b : BitVec Format.binary64.numBits) : ∃ sign e m, b = word sign e m :=
  ⟨_, _, _, (packComponents_unpackSign_unpackExponent_unpackMantissa b).symm⟩

/-- The number that the word is, field by field. -/
theorem toNat_word :
    (word sign e m).toNat =
      sign.toBitVec.toNat * signBit + (e.toNat * Ratio.leadingBit + m.toNat) := by
  show (sign.toBitVec ++ e ++ m).toNat = _
  rw [BitVec.toNat_append, ← Nat.shiftLeft_add_eq_or_of_lt m.isLt, BitVec.toNat_append,
    ← Nat.shiftLeft_add_eq_or_of_lt e.isLt, Nat.shiftLeft_eq, Nat.shiftLeft_eq]
  simp only [signBit, Ratio.leadingBit]
  omega

/-- The sign bit is the whole of what a word has from `signBit` up. -/
theorem toNat_word_mod : (word sign e m).toNat % signBit = (word .positive e m).toNat := by
  have eLt := e.isLt
  have mLt := m.isLt
  have positive : Sign.positive.toBitVec.toNat = 0 := rfl
  rw [toNat_word, toNat_word, positive]
  simp only [Ratio.leadingBit, signBit]
  omega

/-- To change the sign of the double is to change the sign field of its word. -/
theorem neg_unpack :
    (unpack Format.binary64 (word sign e m)).neg = unpack Format.binary64 (word (-sign) e m) := by
  simp only [unpack, unpackMantissa_packComponents, unpackExponent_packComponents,
    unpackSign_packComponents, Sign.ofBitVec_toBitVec]
  split_ifs <;> rfl

variable {sign e m}

theorem signBit_le_word : signBit ≤ (word sign e m).toNat ↔ sign = .negative := by
  cases sign with
  | positive =>
    have low : (word .positive e m).toNat < signBit :=
      toNat_word_mod .positive e m ▸ Nat.mod_lt _ (by decide)
    exact iff_of_false (Nat.not_le.mpr low) nofun
  | negative =>
    have one : Sign.negative.toBitVec.toNat = 1 := rfl
    rw [toNat_word, one]
    exact iff_of_true (by omega) rfl

/-- The exponent of a finite double is not all ones. -/
theorem exponent_ne_ones (finite : (word .positive e m).toNat < Ratio.infinityBits) :
    e ≠ -1#11 := by
  rintro rfl
  have ones : (-1#11).toNat = 2047 := rfl
  rw [toNat_word, ones] at finite
  simp only [Ratio.infinityBits, Ratio.leadingBit] at finite
  omega

/-- The word of a number is packed again as it was. -/
theorem pack_unpack_word (number : e ≠ -1#11) :
    pack Format.binary64 (unpack Format.binary64 (word sign e m)) = word sign e m := by
  have valid : Format.binary64.Valid (word sign e m) :=
    ⟨fun ones => absurd (by simpa using ones) number⟩
  exact pack_unpack_of_valid valid

/-! ## 2. Doubles -/

/-- The magnitude of a double and whether it is negative, by the fields of its word. -/
theorem exists_fields (x : Float) :
    ∃ sign e m, x.toBits.toBitVec = word sign e m ∧ magnitude x = (word .positive e m).toNat ∧
      (isNegative x = true ↔ sign = .negative) := by
  obtain ⟨sign, e, m, bits⟩ := exists_word x.toBits.toBitVec
  have toNat : x.toBits.toNat = (word sign e m).toNat := congrArg BitVec.toNat bits
  refine ⟨sign, e, m, bits, ?_, ?_⟩
  · rw [magnitude, toNat, toNat_word_mod]
  · rw [isNegative, decide_eq_true_iff, toNat, signBit_le_word]

/-- Unless the double is not a number, minus changes that one field. -/
theorem toBits_neg {x : Float} (number : e ≠ -1#11) (bits : x.toBits.toBitVec = word sign e m) :
    (-x).toBits.toBitVec = word (-sign) e m := by
  show pack Format.binary64 (unpack Format.binary64 x.toBits.toBitVec).neg = _
  rw [bits, neg_unpack, pack_unpack_word number]

/-- A magnitude is the word with a positive sign. -/
theorem toBits_ofMagnitude (number : e ≠ -1#11) :
    (ofMagnitude (word .positive e m).toNat).toBits.toBitVec = word .positive e m := by
  have bits : (UInt64.ofNat (word .positive e m).toNat).toBitVec = word .positive e m := by
    rw [UInt64.toBitVec_ofNat', BitVec.ofNat_toNat]
    exact BitVec.setWidth_eq _
  show pack Format.binary64 (unpack Format.binary64 (UInt64.ofNat _).toBitVec) = _
  rw [bits, pack_unpack_word number]

/-- Below the bits of infinity the class is finite. -/
theorem classOf_eq_finite {x : Float} (finite : classOf x = .finite) :
    magnitude x < Ratio.infinityBits := by
  rw [classOf] at finite
  split at finite
  · assumption
  · split at finite <;> cases finite

/-- A double without the sign bit is its magnitude. -/
theorem ofMagnitude_of_positive {x : Float} (positive : isNegative x = false) :
    ofMagnitude (magnitude x) = x := by
  have low : x.toBits.toNat < signBit := by simpa [isNegative] using positive
  rw [ofMagnitude, magnitude, Nat.mod_eq_of_lt low, UInt64.ofNat_toNat, Float.ofBits_toBits]

theorem neg_ofMagnitude_of_negative {x : Float} (finite : classOf x = .finite)
    (negative : isNegative x = true) : -ofMagnitude (magnitude x) = x := by
  obtain ⟨sign, e, m, bits, magnitude_eq, sign_eq⟩ := exists_fields x
  obtain rfl : sign = .negative := sign_eq.mp negative
  have number := exponent_ne_ones (magnitude_eq ▸ classOf_eq_finite finite)
  rw [magnitude_eq]
  exact Float.toBits_inj.mp (UInt64.toBitVec_inj.mp
    ((toBits_neg number (toBits_ofMagnitude number)).trans bits.symm))

/-- The double of positive sign with the bits of a finite magnitude has these bits. -/
theorem ofMagnitude_finite {bits : Nat} (finite : bits < Ratio.infinityBits) :
    classOf (ofMagnitude bits) = .finite ∧ isNegative (ofMagnitude bits) = false := by
  have low : bits < signBit := Nat.lt_trans finite (by decide)
  obtain ⟨sign, e, m, same⟩ := exists_word (BitVec.ofNat Format.binary64.numBits bits)
  have toNat : (word sign e m).toNat = bits := by
    rw [← same, BitVec.toNat_ofNat]
    exact Nat.mod_eq_of_lt (Nat.lt_trans low (by decide))
  obtain rfl : sign = .positive := by
    cases sign with
    | positive => rfl
    | negative => exact absurd (toNat ▸ signBit_le_word.mpr rfl) (Nat.not_le.mpr low)
  have number := exponent_ne_ones (toNat ▸ finite)
  have kept : (ofMagnitude bits).toBits.toNat = bits := by
    have bitVec := congrArg BitVec.toNat (toBits_ofMagnitude (m := m) number)
    rwa [toNat] at bitVec
  refine ⟨?_, ?_⟩
  · rw [classOf, magnitude, kept, Nat.mod_eq_of_lt low, if_pos finite]
  · rw [isNegative, kept]
    exact decide_eq_false (Nat.not_le.mpr low)

/-- A finite double is its magnitude, with a minus sign if its sign bit is set. -/
theorem signed_magnitude {x : Float} (finite : classOf x = .finite) :
    (if isNegative x then -ofMagnitude (magnitude x) else ofMagnitude (magnitude x)) = x := by
  split
  case isTrue negative => exact neg_ofMagnitude_of_negative finite negative
  case isFalse positive => exact ofMagnitude_of_positive (Bool.eq_false_of_not_eq_true positive)

end Scriptlet.Double
