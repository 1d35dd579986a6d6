/-
Scriptlet.Proofs.Displayed — a number is displayed in the one positional text of its value.

What a number is described as is read digit by digit, moved to where its exponent says,
and freed of a fraction that is only a zero: that is how it is displayed
(`repositioned_scientific`). The text need not be looked at further than its last two
characters, whatever the exponent. A fraction that is described ends in no zero unless it
is one, and is laid out as it stands; behind an exponent the coefficient ends in no zero
at all, so nothing but a lone fraction can end in one (`Described.canonical`).

The digits of a display have the number's magnitude as their nearest, and its minus sign
is the sign bit, so the display determines the number.
-/
import Scriptlet.Proofs.Number.Canonical
import Scriptlet.Proofs.Written

namespace Scriptlet

/-! ## 1. Texts with an exponent -/

namespace Decimal

def exponentOf : List Char → Int
  | 'e' :: '-' :: digits => -(ofDigits digits : Int)
  | 'e' :: '+' :: digits => ofDigits digits
  | _ => 0

/-- The decimal that a text writes: a numeral, and an exponent if one follows. Every
digit counts, also a superfluous zero. -/
def ofText (cs : List Char) : Decimal :=
  let numeral := ofNumeral (cs.takeWhile (· ≠ 'e'))
  { coefficient := numeral.coefficient,
    exponent := numeral.exponent + exponentOf (cs.dropWhile (· ≠ 'e')) }

def dropPointZero (cs : List Char) : List Char :=
  if ['.', '0'] <:+ cs then cs.take (cs.length - 2) else cs

/-- The text with its digits where its exponent says, and without a fraction that is
only a zero. -/
def repositioned (cs : List Char) : List Char := dropPointZero (ofText cs).positional

end Decimal

/-- The digits in front of an exponent, the last of which is not a zero. -/
inductive Mantissa : List Char → Prop
  | whole {digits : List Char} (isTrimmed : Trimmed digits) : Mantissa digits
  | point {digits places : List Char} (isDigits : Digits digits) (isTrimmed : Trimmed places) :
      Mantissa (digits ++ '.' :: places)

/-- The texts that describe a finite magnitude: always with a point or an exponent, and
with no superfluous zero but for a fraction that is one. -/
inductive Described : List Char → Prop
  | fixed {digits places : List Char} (isWhole : Whole digits)
      (isPlaces : Trimmed places ∨ places = ['0']) : Described (digits ++ '.' :: places)
  | scaled {mantissa digits : List Char} {sign : Char} (isMantissa : Mantissa mantissa)
      (isSign : sign = '+' ∨ sign = '-') (isDigits : Digits digits) :
      Described (mantissa ++ 'e' :: sign :: digits)

variable {cs fs : List Char} {d : Decimal}

namespace Decimal

/-- The exponent starts at the mark, which is nowhere in the numeral before it. -/
theorem ofText_append (noMark : 'e' ∉ cs) (mark : fs = [] ∨ fs.head? = some 'e') :
    ofText (cs ++ fs) =
      { coefficient := (ofNumeral cs).coefficient,
        exponent := (ofNumeral cs).exponent + exponentOf fs } := by
  have run : ∀ c ∈ cs, decide (c ≠ 'e') = true := fun c mem =>
    decide_eq_true fun same => noMark (same ▸ mem)
  have stop : ∀ c, [c] <+: fs → decide (c ≠ 'e') = false := by
    intro c first
    obtain ⟨rest, rfl⟩ := Segment.prefix_singleton.mp first
    rcases mark with empty | head
    · cases empty
    · rw [Option.some.inj head]
      rfl
  rw [ofText, Segment.takeWhile_run run stop, Segment.dropWhile_run run stop]

theorem ofText_numeral (noMark : 'e' ∉ cs) : ofText cs = ofNumeral cs := by
  have read := ofText_append noMark (.inl rfl)
  have none : exponentOf [] = 0 := rfl
  rwa [List.append_nil, none, Int.add_zero] at read

end Decimal

/-! ## 2. Texts that describe a magnitude -/

open Decimal

theorem Mantissa.noMark (isMantissa : Mantissa cs) : 'e' ∉ cs := by
  cases isMantissa with
  | whole isTrimmed => exact isTrimmed.1.notMem rfl
  | point isDigits isTrimmed => exact isDigits.notMem_places isTrimmed.1 (by decide) rfl

/-- A mantissa does not end in a zero, so its decimal cannot be shortened. -/
theorem Mantissa.units (isMantissa : Mantissa cs) : (ofNumeral cs).coefficient % 10 ≠ 0 := by
  cases isMantissa with
  | whole isTrimmed =>
    rw [ofNumeral_whole isTrimmed.1]
    exact isTrimmed.ofDigits_mod
  | point isDigits isTrimmed =>
    rw [ofNumeral_fraction isDigits]
    exact (isTrimmed.prepend isDigits.2).ofDigits_mod

/-- The minus sign of a number is not part of the description of its magnitude. -/
theorem Described.head?_ne (described : Described cs) : cs.head? ≠ some '-' := by
  cases described with
  | fixed isWhole isPlaces => exact isWhole.1.head?_append_ne _ rfl
  | scaled isMantissa isSign isDigits =>
    cases isMantissa with
    | whole isTrimmed => exact isTrimmed.1.head?_append_ne _ rfl
    | point isDigits isTrimmed =>
      rw [List.append_assoc]
      exact isDigits.head?_append_ne _ rfl

theorem Canonical.ofText_eq (canonical : Canonical cs) : ofText cs = ofNumeral cs :=
  ofText_numeral (canonical.notMem (by decide) rfl)

/-- Nothing that could be dropped is at the end of a canonical text. -/
theorem Canonical.dropPointZero_eq (canonical : Canonical cs) : dropPointZero cs = cs := by
  refine if_neg fun ends => ?_
  cases canonical with
  | whole isWhole => exact isWhole.1.notMem rfl (ends.subset (List.mem_cons_self))
  | @point whole places isWhole isTrimmed =>
    obtain ⟨front, same⟩ := ends
    have last := congrArg List.getLast? same
    rw [List.getLast?_append_of_ne_nil _ (List.cons_ne_nil _ _),
      List.getLast?_append_of_ne_nil _ (List.cons_ne_nil _ _),
      List.getLast?_cons_of_ne_nil isTrimmed.1.1] at last
    exact isTrimmed.2 last.symm

/-- A fraction of a single zero goes, whatever stands before it. -/
theorem dropPointZero_zero (cs : List Char) : dropPointZero (cs ++ ['.', '0']) = cs := by
  rw [dropPointZero, if_pos (List.suffix_append _ _), List.length_append]
  exact List.take_left

/-- Digits without a superfluous zero, put where the exponent says, are the positional layout. -/
theorem repositioned_eq (isNormal : d.IsNormal) (read : ofText cs = d) :
    repositioned cs = d.positional := by
  rw [repositioned, read, (canonical_positional isNormal).dropPointZero_eq]

/-- A text without an exponent is read and laid out as it stands. -/
theorem positional_ofText (isWhole : Whole cs) (digits : Digits fs) :
    (ofText (cs ++ '.' :: fs)).positional = cs ++ '.' :: fs := by
  rw [ofText_numeral (isWhole.1.notMem_places digits (by decide) rfl),
    ofNumeral_fraction isWhole.1, positional_ofPlaces isWhole digits]

/-- A text with a point and a trimmed fraction has nothing to be moved. -/
theorem repositioned_trimmed (isWhole : Whole cs) (isTrimmed : Trimmed fs) :
    repositioned (cs ++ '.' :: fs) = cs ++ '.' :: fs := by
  rw [repositioned, positional_ofText isWhole isTrimmed.1,
    Canonical.dropPointZero_eq (.point isWhole isTrimmed)]

/-- A whole number, described with a point and a zero, loses both. -/
theorem repositioned_zero (isWhole : Whole cs) : repositioned (cs ++ ['.', '0']) = cs := by
  rw [repositioned, positional_ofText isWhole Whole.zero.1, dropPointZero_zero]

/-- A description is moved to a canonical text of the same value. -/
theorem Described.canonical (described : Described cs) :
    Canonical (repositioned cs) ∧ (ofText (repositioned cs)).value = (ofText cs).value := by
  cases described with
  | @fixed whole places isWhole isPlaces =>
    rcases isPlaces with isTrimmed | rfl
    · rw [repositioned_trimmed isWhole isTrimmed]
      exact ⟨.point isWhole isTrimmed, rfl⟩
    · rw [repositioned_zero isWhole]
      refine ⟨.whole isWhole, ?_⟩
      have zero : ofDigits (whole ++ ['0']) = ofDigits whole * 10 ^ 1 :=
        ofDigits_zeros_after whole 1
      rw [ofText_numeral (isWhole.1.notMem rfl), ofNumeral_whole isWhole.1,
        ofText_numeral (isWhole.1.notMem_places Whole.zero.1 (by decide) rfl),
        ofNumeral_fraction isWhole.1, ofPlaces, zero]
      simp [value]
  | @scaled mantissa digits sign isMantissa isSign isDigits =>
    have read : ofText (mantissa ++ 'e' :: sign :: digits) = _ :=
      ofText_append isMantissa.noMark (.inr rfl)
    have units : (ofText (mantissa ++ 'e' :: sign :: digits)).coefficient % 10 ≠ 0 := by
      rw [read]
      exact isMantissa.units
    have isCanonical := canonical_positional (.inl units)
    rw [repositioned_eq (.inl units) rfl, isCanonical.ofText_eq]
    exact ⟨isCanonical, (positional_reads _).2⟩

/-! ## 3. The scientific layout -/

namespace Decimal

/-- The mark is a sign and digits, and they write the exponent. -/
theorem exponentMark_eq (e : Int) :
    ∃ sign digits, exponentMark e = 'e' :: sign :: digits ∧ (sign = '+' ∨ sign = '-') ∧
      Digits digits ∧ exponentOf (exponentMark e) = e := by
  let size := Nat.toDigits 10 e.natAbs
  let digits := List.replicate (2 - size.length) '0' ++ size
  have isDigits : Digits digits :=
    ⟨List.append_ne_nil_of_right_ne_nil _ Nat.toDigits_ne_nil,
      List.forall_mem_append.mpr ⟨Digits.zeros _, fun _ => isDigit_of_mem_toDigits⟩⟩
  have read : ofDigits digits = e.natAbs := by
    rw [ofDigits_zeros_before, ofDigits_eq, Nat.ofDigitChars_ten_toDigits]
  by_cases negative : e < 0
  · have mark : exponentMark e = 'e' :: '-' :: digits := by
      rw [exponentMark, if_pos negative]
      rfl
    refine ⟨_, _, mark, .inr rfl, isDigits, ?_⟩
    rw [mark, exponentOf, read]
    omega
  · have mark : exponentMark e = 'e' :: '+' :: digits := by
      rw [exponentMark, if_neg negative]
      rfl
    refine ⟨_, _, mark, .inl rfl, isDigits, ?_⟩
    rw [mark, exponentOf, read]
    omega

/-- What stands before the mark is the coefficient, cut behind its first digit. -/
theorem withExponent_eq (units : d.coefficient % 10 ≠ 0) :
    ∃ mantissa,
      d.withExponent = mantissa ++ exponentMark (d.exponent + (d.digits.length - 1 : Nat)) ∧
      Mantissa mantissa ∧
      ofNumeral mantissa =
        { coefficient := d.coefficient, exponent := -(d.digits.length - 1 : Nat) } := by
  have isDigits : Digits d.digits := d.digits_digits
  have isTrimmed : Trimmed d.digits := trimmed_toDigits units
  have coefficient := d.ofDigits_digits
  rw [withExponent]
  generalize exponentMark _ = mark
  generalize d.digits = row at *
  match row with
  | [] => exact absurd rfl isDigits.1
  | [lead] =>
    refine ⟨[lead], rfl, .whole isTrimmed, ?_⟩
    rw [ofNumeral_whole isDigits, coefficient]
    rfl
  | lead :: next :: rest =>
    obtain ⟨digit, others⟩ := List.forall_mem_cons.mp isDigits.2
    have one : Digits [lead] := ⟨List.cons_ne_nil _ _, List.forall_mem_singleton.mpr digit⟩
    have more : next :: rest ≠ [] := List.cons_ne_nil _ _
    refine ⟨[lead] ++ '.' :: next :: rest, rfl, .point one ⟨⟨more, others⟩, isTrimmed.2⟩, ?_⟩
    rw [ofNumeral_fraction one, ofPlaces, List.singleton_append, coefficient]
    rfl

/-- With an exponent a decimal is described so that it can be read off. -/
theorem described_withExponent (units : d.coefficient % 10 ≠ 0) :
    Described d.withExponent ∧ ofText d.withExponent = d := by
  obtain ⟨mantissa, layout, isMantissa, numeral⟩ := withExponent_eq units
  obtain ⟨sign, places, mark, isSign, isPlaces, back⟩ :=
    exponentMark_eq (d.exponent + (d.digits.length - 1 : Nat))
  refine ⟨?_, ?_⟩
  · rw [layout, mark]
    exact .scaled isMantissa isSign isPlaces
  · have ends : (exponentMark (d.exponent + (d.digits.length - 1 : Nat))).head? = some 'e' := by
      rw [mark]
      rfl
    have moved : -((d.digits.length - 1 : Nat) : Int) + (d.exponent + (d.digits.length - 1 : Nat)) =
        d.exponent := by omega
    rw [layout, ofText_append isMantissa.noMark (.inr ends), back, numeral]
    exact congrArg (Decimal.mk d.coefficient) moved

/-- A decimal without superfluous zeros is described so that its positional layout is the
description, moved. -/
theorem repositioned_scientific (isNormal : d.IsNormal) :
    Described d.scientific ∧ repositioned d.scientific = d.positional := by
  rw [scientific]
  split
  · next far =>
    have units := isNormal.resolve_right (by rintro rfl; exact far.1 rfl)
    obtain ⟨described, back⟩ := described_withExponent units
    exact ⟨described, repositioned_eq isNormal back⟩
  · split
    · next places =>
      obtain ⟨whole, fraction, layout, isWhole, isTrimmed⟩ := point_positional isNormal places
      rw [layout]
      exact ⟨.fixed isWhole (.inl isTrimmed), repositioned_trimmed isWhole isTrimmed⟩
    · next noPlaces =>
      have isWhole := whole_positional isNormal (Int.not_lt.mp noPlaces)
      exact ⟨.fixed isWhole (.inr rfl), repositioned_zero isWhole⟩

def signed : List Char → ℚ
  | '-' :: cs => -(ofText cs).value
  | cs => (ofText cs).value

end Decimal

/-! ## 4. Numbers -/

namespace Number

def minus (x : Float) : List Char := if Double.isNegative x then ['-'] else []

/-- The number is displayed by this text after its sign, and described by that one. -/
structure DisplaysAs (x : Float) (description body : List Char) : Prop where
  described : Described description
  describe : (Number.describe x).toList = minus x ++ description
  canonical : Canonical body
  display : (Number.display x).toList = minus x ++ body
  moved : body = Decimal.repositioned description
  noExponent : 'e' ∉ (Number.display x).toList ∧ 'E' ∉ (Number.display x).toList
  value : Decimal.signed (Number.display x).toList = Decimal.signed (Number.describe x).toList
  negative : '-' ∈ (Number.display x).toList ↔ Double.isNegative x = true

/-- The sign is read off the text if nothing after it looks like one. -/
theorem signed_append (x : Float) (first : cs.head? ≠ some '-') :
    Decimal.signed (minus x ++ cs) =
      if Double.isNegative x then -(ofText cs).value else (ofText cs).value := by
  rw [minus]
  split
  · rfl
  · rw [List.nil_append, Decimal.signed]
    rintro rest rfl
    exact first rfl

/-- A finite number is its sign and then the layout of its magnitude, and never one of the words.
-/
theorem toList_written {x : Float} (finite : Double.classOf x = .finite) (undefined : String)
    (layout : Decimal → List Char) :
    (written undefined layout x).toList = minus x ++ layout (shortest (Double.magnitude x)) := by
  rw [written, finite, String.toList_ofList, minus]

/-- The shortest decimal is in normal form, and both texts of the number come from it. -/
theorem displaysAs {x : Float} (finite : Double.classOf x = .finite) :
    DisplaysAs x (shortest (Double.magnitude x)).scientific
      (shortest (Double.magnitude x)).positional := by
  have describe := toList_written finite "nan" Decimal.scientific
  have display := toList_written finite "NaN" Decimal.positional
  have isNormal : (shortest (Double.magnitude x)).IsNormal := isNormal_normal _
  obtain ⟨described, moved⟩ := repositioned_scientific isNormal
  obtain ⟨canonical, value⟩ := described.canonical
  rw [moved] at canonical value
  have noSign : '-' ∉ (shortest (Double.magnitude x)).positional :=
    canonical.notMem (by decide) rfl
  have outside {c : Char} (other : c ≠ '-') (noPoint : c ≠ '.') (noDigit : Text.isDigit c = false) :
      c ∉ (Number.display x).toList := by
    rw [Number.display, display, List.mem_append, minus]
    rintro (sign | inside)
    · split at sign
      · exact other (List.mem_singleton.mp sign)
      · cases sign
    · exact canonical.notMem noPoint noDigit inside
  refine ⟨described, describe, canonical, display, moved.symm,
    ⟨outside (by decide) (by decide) rfl, outside (by decide) (by decide) rfl⟩, ?_, ?_⟩
  · have first : (shortest (Double.magnitude x)).positional.head? ≠ some '-' :=
      fun sign => noSign (List.mem_of_mem_head? sign)
    rw [Number.display, Number.describe, display, describe, signed_append x first,
      signed_append x described.head?_ne]
    exact congrArg (fun size => if Double.isNegative x then -size else size) value
  · rw [Number.display, display, List.mem_append, or_iff_left noSign, minus]
    split
    · next negative => exact iff_of_true (List.mem_singleton_self _) negative
    · next positive => exact iff_of_false List.not_mem_nil positive

/-- A finite number is made out of what it is displayed with. -/
theorem display_inj {x y : Float} (finite : Double.classOf x = .finite)
    (finite' : Double.classOf y = .finite) (same : Number.display y = Number.display x) :
    y = x := by
  have shown := displaysAs finite
  have shown' := displaysAs finite'
  have sign : Double.isNegative y = Double.isNegative x := by
    rw [Bool.eq_iff_iff, ← shown.negative, ← shown'.negative, same]
  have body : (shortest (Double.magnitude y)).positional =
      (shortest (Double.magnitude x)).positional := by
    have text := shown'.display
    rw [same, shown.display, minus, minus, sign] at text
    exact (List.append_cancel_left text).symm
  have size :
      Double.ofMagnitude (Double.magnitude y) = Double.ofMagnitude (Double.magnitude x) := by
    rw [← Double.ofNumeral_positional finite', ← Double.ofNumeral_positional finite, body]
  rw [← Double.signed_magnitude finite', ← Double.signed_magnitude finite, sign, size]

end Number

/-- A finite number is displayed in the one positional text of its value, and no other
finite number is displayed so. -/
theorem display_canonical {x : Float} (finite : Double.classOf x = .finite) :
    (∃ description body, Number.DisplaysAs x description body) ∧
      ∀ y, Double.classOf y = .finite → Number.display y = Number.display x → y = x :=
  ⟨⟨_, _, Number.displaysAs finite⟩, fun _ finite' => Number.display_inj finite finite'⟩

/-- A number whose description has an exponent: it is displayed with all of its zeros. -/
theorem display_canonical_large :
    Number.describe (Double.ofMagnitude 0x4480f0cf064dd592) = "1e+22" ∧
      Number.display (Double.ofMagnitude 0x4480f0cf064dd592) = "10000000000000000000000" ∧
      (∃ description body,
        Number.DisplaysAs (Double.ofMagnitude 0x4480f0cf064dd592) description body) ∧
      ∀ y, Double.classOf y = .finite →
        Number.display y = Number.display (Double.ofMagnitude 0x4480f0cf064dd592) →
        y = Double.ofMagnitude 0x4480f0cf064dd592 :=
  ⟨by decide +kernel, by decide +kernel,
    display_canonical (x := Double.ofMagnitude 0x4480f0cf064dd592) (by decide +kernel)⟩

/-- The zeros are displayed apart. -/
example : Number.display (Double.ofMagnitude 0) = "0" ∧
    Number.display (-Double.ofMagnitude 0) = "-0" := by decide +kernel

end Scriptlet
