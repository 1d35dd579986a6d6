/-
Scriptlet.Proofs.Number.Numeral — a decimal written out is a numeral with its value.

The positional layout has three shapes: all digits before the point, some on either
side of it, and all of them behind it. Each is a number token as it stands, and what
is read off it has the value of the decimal. In the last two even the exponent is the
same; in the first the zeros that stand for it count into the coefficient.
-/
import Scriptlet.Number.Layout
import Scriptlet.Proofs.Lexical.Segmentation
import Scriptlet.Proofs.Number.ReadBack

namespace Scriptlet

/-! ## 1. Rows of digits -/

theorem isDigit_of_mem_toDigits {n : Nat} {c : Char} (mem : c ∈ Nat.toDigits 10 n) :
    Text.isDigit c = true := by
  have digit := Nat.isDigit_of_mem_toDigits (by decide) (by decide) mem
  rw [Char.isDigit, Bool.and_eq_true] at digit
  rw [Text.isDigit, Bool.and_eq_true]
  exact digit

theorem Digits.zeros (n : Nat) : ∀ c ∈ List.replicate n '0', Text.isDigit c = true := by
  intro c mem
  rw [List.eq_of_mem_replicate mem]
  decide

theorem Digits.ne_point {cs : List Char} (digits : ∀ c ∈ cs, Text.isDigit c = true) :
    ∀ c ∈ cs, decide (c ≠ '.') = true := by
  intro c mem
  refine decide_eq_true fun point => ?_
  have digit := digits c mem
  rw [point] at digit
  cases digit

namespace Decimal

/-- A coefficient is written with digits, at least one. -/
theorem digits_digits (d : Decimal) : Digits d.digits :=
  ⟨Nat.toDigits_ne_nil, fun _ => isDigit_of_mem_toDigits⟩

/-- Reading digits from the left is what the library calls by another name. -/
theorem ofDigits_eq (cs : List Char) : ofDigits cs = Nat.ofDigitChars 10 cs 0 := by
  rw [Nat.ofDigitChars_eq_foldl, ofDigits]

/-- The digits of a coefficient are read back as it. -/
theorem ofDigits_digits (d : Decimal) : ofDigits d.digits = d.coefficient := by
  rw [ofDigits_eq, digits, Nat.ofDigitChars_ten_toDigits]

/-- A zero more at the end is a factor of ten. -/
theorem ofDigits_zeros_after (cs : List Char) (n : Nat) :
    ofDigits (cs ++ List.replicate n '0') = ofDigits cs * 10 ^ n := by
  rw [ofDigits_eq, ofDigits_eq, Nat.ofDigitChars_append, Nat.ofDigitChars_replicate_zero,
    Nat.mul_comm]

theorem ofDigits_zeros_before (n : Nat) (cs : List Char) :
    ofDigits (List.replicate n '0' ++ cs) = ofDigits cs := by
  rw [ofDigits_eq, ofDigits_eq, Nat.ofDigitChars_append, Nat.ofDigitChars_replicate_zero,
    Nat.mul_zero]

/-! ## 2. Numerals -/

theorem ofNumeral_whole {cs : List Char} (digits : Digits cs) :
    ofNumeral cs = { coefficient := ofDigits cs, exponent := 0 } := by
  have noPoint := Digits.ne_point digits.2
  have stop : ∀ c, [c] <+: ([] : List Char) → decide (c ≠ '.') = false := by simp
  have before := Segment.takeWhile_run noPoint stop
  have after := Segment.dropWhile_run noPoint stop
  rw [List.append_nil] at before after
  rw [ofNumeral, before, after, List.drop_nil, ofPlaces, List.append_nil]
  rfl

theorem ofNumeral_fraction {whole : List Char} (digits : Digits whole) (fraction : List Char) :
    ofNumeral (whole ++ '.' :: fraction) = ofPlaces whole fraction := by
  have noPoint := Digits.ne_point digits.2
  have stop : ∀ c, [c] <+: '.' :: fraction → decide (c ≠ '.') = false := by
    intro c first
    obtain ⟨rest, whole⟩ := Segment.prefix_singleton.mp first
    cases whole
    rfl
  rw [ofNumeral, Segment.takeWhile_run noPoint stop, Segment.dropWhile_run noPoint stop]
  rfl

/-! ## 3. The positional layout -/

/-- The places behind the point lower the exponent. -/
theorem value_ofPlaces {whole fraction : List Char} {d : Decimal}
    (coefficient : ofDigits (whole ++ fraction) = d.coefficient)
    (exponent : d.exponent = -(fraction.length : Int)) :
    (ofPlaces whole fraction).value = d.value := by
  rw [ofPlaces, coefficient, value, value, exponent]

/-- A decimal written out is one number token, and reading the token gives its value. -/
theorem positional_reads (d : Decimal) :
    Lexeme .number d.positional ∧ (ofNumeral d.positional).value = d.value := by
  have inside := d.digits_digits
  rw [positional]
  split
  · next noPlaces =>
    obtain ⟨n, exponent⟩ : ∃ n : Nat, d.exponent = n := ⟨d.exponent.toNat, by omega⟩
    have digits : Digits (d.digits ++ List.replicate d.exponent.toNat '0') :=
      ⟨List.append_ne_nil_of_left_ne_nil inside.1 _,
        List.forall_mem_append.mpr ⟨inside.2, Digits.zeros _⟩⟩
    refine ⟨.whole digits, ?_⟩
    rw [ofNumeral_whole digits, ofDigits_zeros_after, ofDigits_digits, value, value, exponent]
    simp
  · next places =>
    have exponent : d.exponent = -((-d.exponent).toNat : Int) := by omega
    generalize (-d.exponent).toNat = n at *
    split
    · next short =>
      have whole : Digits (d.digits.take (d.digits.length - n)) :=
        ⟨List.ne_nil_of_length_pos (by rw [List.length_take]; omega),
          fun c mem => inside.2 c (List.mem_of_mem_take mem)⟩
      have fraction : Digits (d.digits.drop (d.digits.length - n)) :=
        ⟨List.ne_nil_of_length_pos (by rw [List.length_drop]; omega),
          fun c mem => inside.2 c (List.mem_of_mem_drop mem)⟩
      refine ⟨.fraction whole fraction, ?_⟩
      rw [ofNumeral_fraction whole]
      refine value_ofPlaces ?_ ?_
      · rw [List.take_append_drop, ofDigits_digits]
      · rw [exponent, List.length_drop]
        omega
    · next long =>
      have whole : Digits ['0'] := ⟨List.cons_ne_nil _ _, List.all_eq_true.mp rfl⟩
      have fraction : Digits (List.replicate (n - d.digits.length) '0' ++ d.digits) :=
        ⟨List.append_ne_nil_of_right_ne_nil _ inside.1,
          List.forall_mem_append.mpr ⟨Digits.zeros _, inside.2⟩⟩
      refine ⟨.fraction whole fraction, ?_⟩
      have read := ofNumeral_fraction whole (List.replicate (n - d.digits.length) '0' ++ d.digits)
      show (ofNumeral (['0'] ++ '.' :: (_ ++ _))).value = _
      rw [read]
      refine value_ofPlaces ?_ ?_
      · show ofDigits (List.replicate (_ + 1) '0' ++ d.digits) = _
        rw [ofDigits_zeros_before, ofDigits_digits]
      · rw [exponent, List.length_append, List.length_replicate]
        omega

end Decimal

end Scriptlet
