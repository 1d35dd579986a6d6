/-
Scriptlet.Proofs.Number.Canonical — positional texts without superfluous zeros.

A positional text is canonical if no zero could be left out of it: none in front but one
that stands alone before the point or the end, and none behind the point at the end. Each
value has one such text, and both ways to it are here. A decimal whose coefficient ends in
no zero is laid out as one (`canonical_positional`). And a text with such a whole part is
laid out again as it stands when it is read digit by digit, whatever its fraction
(`positional_ofPlaces`): the digits of the coefficient that it is read as are its own,
except for zeros in front, and those are what the layout fills up with.
-/
import Scriptlet.Proofs.Number.Numeral

namespace Scriptlet

/-! ## 1. Rows of digits -/

/-- Digits with no zero in front, but for a zero alone. -/
def Whole (cs : List Char) : Prop := Digits cs ∧ (cs.head? = some '0' → cs = ['0'])

/-- Digits with no zero at the end. -/
def Trimmed (cs : List Char) : Prop := Digits cs ∧ cs.getLast? ≠ some '0'

/-- A whole part, and a fraction that ends in no zero if there is one. -/
inductive Canonical : List Char → Prop
  | whole {digits : List Char} (isWhole : Whole digits) : Canonical digits
  | point {digits places : List Char} (isWhole : Whole digits) (isTrimmed : Trimmed places) :
      Canonical (digits ++ '.' :: places)

variable {cs fs : List Char}

theorem Digits.append_forall (digits : Digits cs) (digits' : ∀ c ∈ fs, Text.isDigit c = true) :
    Digits (cs ++ fs) :=
  ⟨List.append_ne_nil_of_left_ne_nil digits.1 _, List.forall_mem_append.mpr ⟨digits.2, digits'⟩⟩

/-- The zero alone is the one whole part that starts with a zero. -/
theorem Whole.zero : Whole ['0'] :=
  ⟨⟨List.cons_ne_nil _ _, List.forall_mem_singleton.mpr rfl⟩, fun _ => rfl⟩

theorem Digits.notMem (digits : Digits cs) {c : Char} (other : Text.isDigit c = false) : c ∉ cs :=
  fun mem => Bool.false_ne_true (other.symm.trans (digits.2 c mem))

/-- A text that begins with a digit begins with nothing else. -/
theorem Digits.head?_append_ne (digits : Digits cs) (fs : List Char) {c : Char}
    (other : Text.isDigit c = false) : (cs ++ fs).head? ≠ some c := by
  rw [List.head?_append_of_ne_nil _ digits.1]
  exact fun first => digits.notMem other (List.mem_of_mem_head? first)

/-- Beside the digits on either side there is nothing but the point. -/
theorem Digits.notMem_places (digits : Digits cs) (digits' : Digits fs) {c : Char}
    (noPoint : c ≠ '.') (other : Text.isDigit c = false) : c ∉ cs ++ '.' :: fs := by
  rw [List.mem_append, List.mem_cons]
  rintro (whole | point | places)
  · exact digits.notMem other whole
  · exact noPoint point
  · exact digits'.notMem other places

/-- A canonical text holds digits and a point, and nothing else. -/
theorem Canonical.notMem (canonical : Canonical cs) {c : Char} (noPoint : c ≠ '.')
    (other : Text.isDigit c = false) : c ∉ cs := by
  cases canonical with
  | whole isWhole => exact isWhole.1.notMem other
  | point isWhole isTrimmed => exact isWhole.1.notMem_places isTrimmed.1 noPoint other

/-- What follows a row that begins with another digit than zero does not matter. -/
theorem Whole.append (isWhole : Whole cs) (notZero : cs ≠ ['0'])
    (digits : ∀ c ∈ fs, Text.isDigit c = true) : Whole (cs ++ fs) := by
  refine ⟨isWhole.1.append_forall digits, fun front => absurd ?_ notZero⟩
  rw [List.head?_append_of_ne_nil _ isWhole.1.1] at front
  exact isWhole.2 front

/-- What matters is the last digit, so others may come before it. -/
theorem Trimmed.prepend (isTrimmed : Trimmed fs) (digits : ∀ c ∈ cs, Text.isDigit c = true) :
    Trimmed (cs ++ fs) := by
  refine ⟨⟨List.append_ne_nil_of_right_ne_nil _ isTrimmed.1.1,
    List.forall_mem_append.mpr ⟨digits, isTrimmed.1.2⟩⟩, ?_⟩
  rw [List.getLast?_append_of_ne_nil _ isTrimmed.1.1]
  exact isTrimmed.2

open Decimal (ofDigits ofDigits_eq)

/-- A digit is the digit of its own value. -/
theorem exists_digitChar {c : Char} (digit : Text.isDigit c = true) :
    ∃ n < 10, c.toNat - '0'.toNat = n ∧ Nat.digitChar n = c := by
  rw [Text.isDigit, Bool.and_eq_true, decide_eq_true_iff, decide_eq_true_iff] at digit
  have low : 48 ≤ c.toNat := digit.1
  have high : c.toNat ≤ 57 := digit.2
  have small : c.toNat - 48 < 10 := by omega
  refine ⟨_, small, rfl, Char.toNat_inj.mp ?_⟩
  rw [Nat.toNat_digitChar_of_lt_ten small]
  omega

/-- No number has a superfluous zero in front when it is written out. -/
theorem whole_toDigits (n : Nat) : Whole (Nat.toDigits 10 n) := by
  refine ⟨⟨Nat.toDigits_ne_nil, fun _ => isDigit_of_mem_toDigits⟩, ?_⟩
  induction n using Nat.strong_induction_on with
  | h n ih =>
    intro front
    rcases Nat.lt_or_ge n 10 with small | large
    · rw [Nat.toDigits_of_lt_base small] at front ⊢
      exact congrArg (fun c => [c]) (Option.some.inj front)
    · rw [Nat.toDigits_of_base_le (by decide) large,
        List.head?_append_of_ne_nil _ Nat.toDigits_ne_nil] at front
      have tens := ih (n / 10) (by omega) front
      have none : n / 10 = 0 := by
        rw [← Nat.ofDigitChars_ten_toDigits (n := n / 10), tens]
        rfl
      omega

/-- A number that ten does not divide has no zero at the end. -/
theorem trimmed_toDigits {n : Nat} (units : n % 10 ≠ 0) : Trimmed (Nat.toDigits 10 n) := by
  refine ⟨⟨Nat.toDigits_ne_nil, fun _ => isDigit_of_mem_toDigits⟩, ?_⟩
  have last : (Nat.toDigits 10 n).getLast? = some (Nat.digitChar (n % 10)) := by
    rcases Nat.lt_or_ge n 10 with small | large
    · rw [Nat.toDigits_of_lt_base small, Nat.mod_eq_of_lt small]
      rfl
    · rw [Nat.toDigits_of_base_le (by decide) large, List.getLast?_concat]
  rw [last]
  exact fun zero => units (Nat.digitChar_eq_zero.mp (Option.some.inj zero))

theorem Trimmed.ofDigits_mod (isTrimmed : Trimmed cs) : ofDigits cs % 10 ≠ 0 := by
  obtain ⟨⟨notEmpty, digits⟩, last⟩ := isTrimmed
  obtain ⟨front, c, rfl⟩ : ∃ front c, cs = front ++ [c] :=
    ⟨_, _, (List.dropLast_append_getLast notEmpty).symm⟩
  obtain ⟨n, small, value, rfl⟩ := exists_digitChar (digits c List.mem_concat_self)
  rw [List.getLast?_concat] at last
  rw [ofDigits_eq, Nat.ofDigitChars_append, Nat.ofDigitChars_cons, Nat.ofDigitChars_nil, value,
    Nat.mul_add_mod, Nat.mod_eq_of_lt small]
  exact fun zero => last (congrArg some (Nat.digitChar_eq_zero.mpr zero))

/-- Digits behind those of a positive number are the digits of what both write. -/
theorem toDigits_ofDigitChars {n : Nat} (pos : 0 < n) (digits : ∀ c ∈ cs, Text.isDigit c = true) :
    Nat.toDigits 10 (Nat.ofDigitChars 10 cs n) = Nat.toDigits 10 n ++ cs := by
  induction cs generalizing n with
  | nil => rw [Nat.ofDigitChars_nil, List.append_nil]
  | cons c cs ih =>
    obtain ⟨digit, others⟩ := List.forall_mem_cons.mp digits
    obtain ⟨unit, small, value, rfl⟩ := exists_digitChar digit
    rw [Nat.ofDigitChars_cons, value, ih (by omega) others,
      ← Nat.toDigits_append_toDigits (by decide) pos small, Nat.toDigits_of_lt_base small,
      List.append_assoc, List.singleton_append]

/-- The digits of what a row writes are the row, if no zero is superfluous in it. -/
theorem Whole.toDigits_ofDigits (isWhole : Whole cs) : Nat.toDigits 10 (ofDigits cs) = cs := by
  obtain ⟨⟨notEmpty, digits⟩, alone⟩ := isWhole
  cases cs with
  | nil => exact absurd rfl notEmpty
  | cons c cs =>
    by_cases zero : c = '0'
    · rw [alone (congrArg some zero)]
      rfl
    · obtain ⟨digit, others⟩ := List.forall_mem_cons.mp digits
      obtain ⟨n, small, value, rfl⟩ := exists_digitChar digit
      have pos : 0 < n := Nat.pos_of_ne_zero fun none => zero (Nat.digitChar_eq_zero.mpr none)
      rw [ofDigits_eq, Nat.ofDigitChars_cons, value, Nat.mul_zero, Nat.zero_add,
        toDigits_ofDigitChars pos others, Nat.toDigits_of_lt_base small, List.singleton_append]

/-- Only zeros in front of a row are lost when its digits are written again. -/
theorem Digits.exists_zeros (digits : Digits cs) :
    ∃ n, cs = List.replicate n '0' ++ Nat.toDigits 10 (ofDigits cs) := by
  obtain ⟨notEmpty, digits⟩ := digits
  induction cs with
  | nil => exact absurd rfl notEmpty
  | cons c cs ih =>
    by_cases zero : c = '0' ∧ cs ≠ []
    · obtain ⟨rfl, more⟩ := zero
      obtain ⟨n, rest⟩ := ih more (List.forall_mem_cons.mp digits).2
      refine ⟨n + 1, ?_⟩
      rw [List.replicate_succ, List.cons_append]
      exact congrArg _ rest
    · refine ⟨0, (Whole.toDigits_ofDigits ⟨⟨notEmpty, digits⟩, fun front => ?_⟩).symm⟩
      obtain rfl : c = '0' := Option.some.inj front
      rw [not_not.mp fun more => zero ⟨rfl, more⟩]

/-! ## 2. The positional layout -/

namespace Decimal

/-- No zero ends the coefficient, unless it is zero and the exponent is. -/
def IsNormal (d : Decimal) : Prop := d.coefficient % 10 ≠ 0 ∨ d = ⟨0, 0⟩

theorem isNormal_normal (d : Decimal) : d.normal.IsNormal := by
  fun_induction normal d with
  | case1 d zero => exact .inr rfl
  | case2 d notZero whole ih => exact ih
  | case3 d notZero units => exact .inl units

/-- Without places behind the point the layout is a whole number, with the zeros that the exponent
asks for. -/
theorem whole_positional {d : Decimal} (isNormal : d.IsNormal) (noPlaces : 0 ≤ d.exponent) :
    Whole d.positional := by
  rw [positional, if_pos (by omega)]
  rcases isNormal with units | rfl
  · refine (whole_toDigits d.coefficient).append (fun zero => units ?_) (Digits.zeros _)
    rw [← ofDigits_digits, digits, zero]
    rfl
  · exact .zero

/-- With places it has a point, and the last place is no zero. -/
theorem point_positional {d : Decimal} (isNormal : d.IsNormal) (places : d.exponent < 0) :
    ∃ whole places, d.positional = whole ++ '.' :: places ∧ Whole whole ∧ Trimmed places := by
  have units : d.coefficient % 10 ≠ 0 := isNormal.resolve_right (by rintro rfl; cases places)
  have isWhole : Whole d.digits := whole_toDigits _
  have isTrimmed : Trimmed d.digits := trimmed_toDigits units
  have pos : (-d.exponent).toNat ≠ 0 := by omega
  rw [positional, if_neg pos]
  generalize (-d.exponent).toNat = n at *
  split
  · next short =>
    refine ⟨_, _, rfl, ⟨⟨?_, fun c mem => isWhole.1.2 c (List.mem_of_mem_take mem)⟩, ?_⟩,
      ⟨⟨?_, fun c mem => isWhole.1.2 c (List.mem_of_mem_drop mem)⟩, ?_⟩⟩
    · exact List.ne_nil_of_length_pos (by rw [List.length_take]; omega)
    · intro front
      rw [List.head?_take, if_neg (by omega)] at front
      have alone := congrArg List.length (isWhole.2 front)
      rw [List.length_singleton] at alone
      omega
    · exact List.ne_nil_of_length_pos (by rw [List.length_drop]; omega)
    · rw [List.getLast?_drop, if_neg (by omega)]
      exact isTrimmed.2
  · next long =>
    exact ⟨['0'], List.replicate (n - d.digits.length) '0' ++ d.digits, rfl, .zero,
      isTrimmed.prepend (Digits.zeros _)⟩

theorem canonical_positional {d : Decimal} (isNormal : d.IsNormal) : Canonical d.positional := by
  by_cases places : d.exponent < 0
  · obtain ⟨whole, fraction, layout, isWhole, isTrimmed⟩ := point_positional isNormal places
    exact layout ▸ .point isWhole isTrimmed
  · exact .whole (whole_positional isNormal (Int.not_lt.mp places))

/-- What is read from a text with a fraction is laid out as that text. -/
theorem positional_ofPlaces (isWhole : Whole cs) (digits : Digits fs) :
    (ofPlaces cs fs).positional = cs ++ '.' :: fs := by
  have wholePos := List.length_pos_of_ne_nil isWhole.1.1
  have placesPos := List.length_pos_of_ne_nil digits.1
  have places : (-(ofPlaces cs fs).exponent).toNat = fs.length := by
    rw [ofPlaces, Int.neg_neg, Int.toNat_natCast]
  have row : (ofPlaces cs fs).digits = Nat.toDigits 10 (ofDigits (cs ++ fs)) := rfl
  rw [positional, places, if_neg (by omega)]
  by_cases zero : cs = ['0']
  · subst zero
    obtain ⟨n, split⟩ := digits.exists_zeros
    have same : ofDigits (['0'] ++ fs) = ofDigits fs := ofDigits_zeros_before 1 fs
    rw [same] at row
    have length : fs.length = n + (ofPlaces ['0'] fs).digits.length := by
      rw [row, ← List.length_replicate (n := n) (a := '0'), ← List.length_append, ← split]
    rw [if_neg (by omega), row, show fs.length - _ = n by rw [← row]; omega]
    conv_rhs => rw [split]
    rfl
  · rw [(isWhole.append zero digits.2).toDigits_ofDigits] at row
    rw [row, List.length_append, if_pos (by omega), Nat.add_sub_cancel, List.take_left,
      List.drop_left]

end Decimal

end Scriptlet
