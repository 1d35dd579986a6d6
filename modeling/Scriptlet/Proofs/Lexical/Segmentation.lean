/-
Scriptlet.Proofs.Lexical.Segmentation — a text has one cut into segments.

The segment that is taken off a text fits before what is left (`fits_next`), so
every segment of a text fits before those after it (`chain_segments`). The other
way round, a segment that fits is the one taken (`Fits.segments_append`), so a
list of segments each of which fits before the next ones is the cut of the text
that they make up (`segments_of_chain`). Together: there is one such list for
each text, and the cut is it.

Both directions go through the branches of `next` one by one; a branch is chosen
by the first character alone, and no character chooses two.
-/
import Scriptlet.Proofs.Lexical.Lexeme

namespace Scriptlet

namespace Segment

open Lexeme (EndsBefore)
open Scanner (startsWord continuesWord lone? joinable? wordKind)

/-! ## 1. Runs of characters of a class -/

section Runs

variable {p : Char → Bool} {run after : List Char}

theorem prefix_singleton {c : Char} {cs : List Char} : [c] <+: cs ↔ ∃ rest, cs = c :: rest := by
  constructor
  · rintro ⟨rest, rfl⟩
    exact ⟨rest, rfl⟩
  · rintro ⟨rest, rfl⟩
    exact ⟨rest, rfl⟩

/-- A run of a class, up to the first character that is not in it, is taken whole. -/
theorem takeWhile_run (all : ∀ c ∈ run, p c = true) (stop : ∀ c, [c] <+: after → p c = false) :
    (run ++ after).takeWhile p = run := by
  rw [List.takeWhile_append_of_pos all]
  cases after with
  | nil => simp
  | cons c rest => simp [stop c (prefix_singleton.mpr ⟨rest, rfl⟩)]

theorem dropWhile_run (all : ∀ c ∈ run, p c = true) (stop : ∀ c, [c] <+: after → p c = false) :
    (run ++ after).dropWhile p = after := by
  rw [List.dropWhile_append_of_pos all]
  cases after with
  | nil => rfl
  | cons c rest => simp [stop c (prefix_singleton.mpr ⟨rest, rfl⟩)]

/-- The first character that is left is not in the class. -/
theorem stop_dropWhile (p : Char → Bool) (cs : List Char) (c : Char)
    (first : [c] <+: cs.dropWhile p) : p c = false := by
  obtain ⟨rest, found⟩ := prefix_singleton.mp first
  have stopped := List.head?_dropWhile_not p cs
  rw [found] at stopped
  exact stopped

theorem all_takeWhile (p : Char → Bool) (cs : List Char) : ∀ c ∈ cs.takeWhile p, p c = true :=
  List.all_eq_true.mp List.all_takeWhile

end Runs

/-! ## 2. Signs -/

/-- A lone sign is spelled with its character and nothing goes on with it. -/
theorem toList_spelling_of_lone {c : Char} {m : Mark} (found : lone? c = some m) :
    m.spelling.toList = [c] ∧ ∀ lexeme next, ¬Lexeme.Extends lexeme (.mark m) next := by
  unfold lone? at found
  split at found <;> cases found <;> exact ⟨rfl, fun _ _ => id⟩

/-- A joinable sign is spelled with its character, with an equals sign behind it or without; only
that sign goes on with it. -/
theorem toList_spelling_of_joinable {c : Char} {marks : Mark × Mark}
    (found : joinable? c = some marks) :
    marks.1.spelling.toList = [c] ∧ marks.2.spelling.toList = [c, '='] ∧
      ∀ lexeme next, (Lexeme.Extends lexeme (.mark marks.1) next → next = ['=']) ∧
        ¬Lexeme.Extends lexeme (.mark marks.2) next := by
  unfold joinable? at found
  split at found <;> cases found <;> exact ⟨rfl, rfl, fun _ _ => ⟨id, id⟩⟩

/-- Of the two signs the longer one is taken if the text allows. -/
theorem fits_afterJoinable {c : Char} {marks : Mark × Mark} (found : joinable? c = some marks)
    (rest : List Char) :
    (afterJoinable c marks rest).1.Fits (afterJoinable c marks rest).2 := by
  obtain ⟨alone, joined, ends⟩ := toList_spelling_of_joinable found
  unfold afterJoinable
  split
  · refine .token (joined ▸ .mark marks.2) fun next _ => (ends _ next).2
  · next other =>
    refine .token (alone ▸ .mark marks.1) fun next first extend => ?_
    obtain rfl := (ends _ next).1 extend
    obtain ⟨tail, rfl⟩ := prefix_singleton.mp first
    exact other tail rfl

/-- If no equals sign follows, the sign is alone. -/
theorem afterJoinable_alone {c : Char} {marks : Mark × Mark} {after : List Char}
    (ends : ¬['='] <+: after) :
    afterJoinable c marks after = (.token (.mark marks.1) [c], after) := by
  unfold afterJoinable
  split
  · next tail => exact absurd (prefix_singleton.mpr ⟨tail, rfl⟩) ends
  · rfl

/-! ## 3. Comments -/

/-- The comment ends with the first closing sign. -/
theorem closes_closeComment {cs inside after : List Char}
    (found : closeComment? cs = some (inside, after)) : Closes inside := by
  fun_induction closeComment? cs generalizing inside with
  | case1 => cases found
  | case2 rest =>
    cases found
    refine ⟨List.suffix_refl _, fun before after whole => ?_⟩
    have short := congrArg List.length whole
    simp only [closing, List.length_append, List.length_cons, List.length_nil] at short
    exact List.length_eq_zero_iff.mp (by omega)
  | case3 c rest noClosing inside' after' found' ih =>
    cases found
    obtain ⟨ends, once⟩ := ih found'
    refine ⟨ends.trans (List.suffix_cons c _), fun before after' whole => ?_⟩
    cases before with
    | nil =>
      -- The comment would have been closed at `c` already.
      cases whole
      refine absurd ?_ (noClosing (after' ++ after) rfl)
      rw [← closeComment?_text found']
      rfl
    | cons d before =>
      cases whole
      exact once before after' rfl
  | case4 => cases found

theorem noClosing_of_closeComment {cs : List Char} (none : closeComment? cs = none) :
    ¬closing <:+: cs := by
  fun_induction closeComment? cs with
  | case1 => rintro ⟨before, after, whole⟩; simp [closing] at whole
  | case2 rest => cases none
  | case3 c rest noClosing inside after found ih => cases none
  | case4 c rest noClosing found ih =>
    rintro ⟨before, after, whole⟩
    cases before with
    | nil =>
      cases whole
      exact noClosing after rfl rfl
    | cons d before =>
      cases whole
      exact ih found ⟨before, after, rfl⟩

/-- Of two beginnings of a text that each end with their first closing sign neither
is the longer one. -/
theorem Closes.unique {inside inside' after after' : List Char} (closes : Closes inside)
    (closes' : Closes inside') (same : inside ++ after = inside' ++ after') : inside = inside' := by
  obtain ⟨⟨body, rfl⟩, once⟩ := closes
  obtain ⟨⟨body', rfl⟩, once'⟩ := closes'
  obtain ⟨more, longer, -⟩ | ⟨more, longer, -⟩ := List.append_eq_append_iff.mp same
  · rw [once' body more longer.symm, List.append_nil] at longer
    exact longer.symm
  · rw [once body' more longer.symm, List.append_nil] at longer
    exact longer

/-- The part up to the first closing sign is found. -/
theorem closeComment?_of_closes {inside : List Char} (closes : Closes inside)
    (after : List Char) : closeComment? (inside ++ after) = some (inside, after) := by
  cases found : closeComment? (inside ++ after) with
  | none =>
    obtain ⟨body, rfl⟩ := closes.1
    exact absurd ⟨body, after, rfl⟩ (noClosing_of_closeComment found)
  | some answer =>
    have whole := closeComment?_text found
    obtain rfl := (closes_closeComment found).unique closes whole
    exact congrArg (fun rest => some (_, rest)) (List.append_cancel_left whole)

theorem closeComment?_of_noClosing {body : List Char} (noClosing : ¬closing <:+: body) :
    closeComment? body = none := by
  cases found : closeComment? body with
  | none => rfl
  | some answer =>
    obtain ⟨before, ends⟩ := (closes_closeComment found).1
    refine absurd ⟨before, answer.2, ?_⟩ noClosing
    rw [ends, closeComment?_text found]

/-- After a slash the segment is what the text says: each of the cases fits. -/
theorem fits_afterSlash (rest : List Char) : (afterSlash rest).1.Fits (afterSlash rest).2 := by
  unfold afterSlash
  split
  · next tail =>
    refine .lineComment (fun mem => ?_) fun c first => ?_
    · simpa using all_takeWhile _ _ _ mem
    · simpa using stop_dropWhile _ _ _ first
  · next tail =>
    split
    · next inside after found => exact .blockComment (closes_closeComment found)
    · next none => exact .openComment (noClosing_of_closeComment none)
  · next notLine notBlock =>
    refine .token (.mark .slash) fun next first extend => ?_
    obtain rfl | rfl := extend
    · obtain ⟨tail, rfl⟩ := prefix_singleton.mp first
      exact notLine tail rfl
    · obtain ⟨tail, rfl⟩ := prefix_singleton.mp first
      exact notBlock tail rfl

theorem afterSlash_alone {after : List Char} (ends : EndsBefore (.mark .slash) ['/'] after) :
    afterSlash after = (.token (.mark .slash) ['/'], after) := by
  unfold afterSlash
  split
  · next tail => exact absurd (Or.inl rfl) (ends ['/'] (prefix_singleton.mpr ⟨tail, rfl⟩))
  · next tail => exact absurd (Or.inr rfl) (ends ['*'] (prefix_singleton.mpr ⟨tail, rfl⟩))
  · rfl

/-! ## 4. Texts -/

/-- A text is closed by its next quote, or is open to the end. -/
theorem fits_afterQuote (rest : List Char) : (afterQuote rest).1.Fits (afterQuote rest).2 := by
  have noQuote : '"' ∉ rest.takeWhile (· ≠ '"') := fun mem => by
    simpa using all_takeWhile _ _ _ mem
  unfold afterQuote
  split
  · exact .openText noQuote
  · next quote tail found =>
    have stopped := stop_dropWhile _ _ _ (prefix_singleton.mpr ⟨tail, found⟩)
    obtain rfl : quote = '"' := by simpa using stopped
    exact .token (.text noQuote) fun _ _ => id

theorem all_ne_quote {body : List Char} (noQuote : '"' ∉ body) :
    ∀ c ∈ body, decide (c ≠ '"') = true := by
  rintro c mem
  exact decide_eq_true fun same => noQuote (same ▸ mem)

/-- The next quote closes the text, since none is inside. -/
theorem afterQuote_closed {body : List Char} (noQuote : '"' ∉ body) (after : List Char) :
    afterQuote (body ++ '"' :: after) = (.token .text ('"' :: (body ++ ['"'])), after) := by
  have stop : ∀ c, [c] <+: '"' :: after → decide (c ≠ '"') = false := by
    intro c first
    obtain ⟨rest, same⟩ := prefix_singleton.mp first
    cases same
    rfl
  simp only [afterQuote, takeWhile_run (all_ne_quote noQuote) stop,
    dropWhile_run (all_ne_quote noQuote) stop, List.cons_append]

theorem afterQuote_open {body : List Char} (noQuote : '"' ∉ body) :
    afterQuote body = (.openText ('"' :: body), []) := by
  have stop : ∀ c, [c] <+: ([] : List Char) → decide (c ≠ '"') = false := by
    intro c first
    cases List.prefix_nil.mp first
  have taken := takeWhile_run (all_ne_quote noQuote) stop
  have left := dropWhile_run (all_ne_quote noQuote) stop
  rw [List.append_nil] at taken left
  simp only [afterQuote, taken, left]

/-! ## 5. Numbers -/

/-- The fraction is taken exactly if a digit follows the point, and then with all digits. -/
theorem fraction_eq (rest : List Char) :
    (fraction rest = ([], rest) ∧ ∀ c, ['.', c] <+: rest → Text.isDigit c = false) ∨
      ∃ places tail, fraction rest = (places, tail) ∧ Digits places ∧
        ∀ c, [c] <+: tail → Text.isDigit c = false := by
  unfold fraction
  split
  · next d tail =>
    split
    · next digit =>
      refine Or.inr ⟨_, _, rfl, ⟨?_, all_takeWhile _ _⟩, stop_dropWhile _ _⟩
      rw [List.takeWhile_cons_of_pos digit]
      exact List.cons_ne_nil _ _
    · next notDigit =>
      refine Or.inl ⟨rfl, fun c first => ?_⟩
      obtain ⟨more, same⟩ := first
      cases same
      exact eq_false_of_ne_true notDigit
  · next other =>
    refine Or.inl ⟨rfl, fun c first => ?_⟩
    obtain ⟨more, rfl⟩ := first
    exact absurd rfl (other c more)

/-- A number takes all of its digits, and its fraction. -/
theorem fits_afterDigit {c : Char} (digit : Text.isDigit c = true) (rest : List Char) :
    (afterDigit c rest).1.Fits (afterDigit c rest).2 := by
  have whole : Digits (c :: rest.takeWhile Text.isDigit) :=
    ⟨List.cons_ne_nil _ _, List.forall_mem_cons.mpr ⟨digit, all_takeWhile _ _⟩⟩
  unfold afterDigit
  obtain ⟨none, noPlaces⟩ | ⟨places, tail, some, digits, stop⟩ :=
    fraction_eq (rest.dropWhile Text.isDigit)
  · rw [none]
    refine .token (.whole whole) fun next first extend => ?_
    obtain ⟨d, rfl, isDigit⟩ | ⟨-, d, rfl, isDigit⟩ := extend
    · exact absurd isDigit (by simp [stop_dropWhile _ _ _ first])
    · exact absurd isDigit (by simp [noPlaces d first])
  · rw [some]
    cases places with
    | nil => exact absurd rfl digits.1
    | cons d places =>
      refine .token (.fraction whole digits) fun next first extend => ?_
      obtain ⟨d, rfl, isDigit⟩ | ⟨noPoint, -⟩ := extend
      · exact absurd isDigit (by simp [stop d first])
      · exact noPoint (List.mem_append_right _ List.mem_cons_self)

theorem fraction_none {rest : List Char} (none : ∀ c, ['.', c] <+: rest → Text.isDigit c = false) :
    fraction rest = ([], rest) := by
  unfold fraction
  split
  · next c tail => rw [if_neg (by simp [none c ⟨tail, rfl⟩])]
  · rfl

theorem fraction_some {places after : List Char} (digits : Digits places)
    (stop : ∀ c, [c] <+: after → Text.isDigit c = false) :
    fraction ('.' :: (places ++ after)) = (places, after) := by
  have taken := takeWhile_run digits.2 stop
  have left := dropWhile_run digits.2 stop
  cases places with
  | nil => exact absurd rfl digits.1
  | cons c places =>
    rw [List.cons_append] at taken left ⊢
    rw [fraction, if_pos (digits.2 c List.mem_cons_self), taken, left]

/-- The point of a number is not one of its digits. -/
theorem not_mem_of_digits {digits : List Char} (isDigits : ∀ c ∈ digits, Text.isDigit c = true) :
    '.' ∉ digits :=
  fun mem => absurd (isDigits '.' mem) (by decide)

/-- A row of digits with no fraction behind it. -/
theorem afterDigit_whole {c : Char} {digits after : List Char} (whole : Digits (c :: digits))
    (ends : EndsBefore .number (c :: digits) after) :
    afterDigit c (digits ++ after) = (.token .number (c :: digits), after) := by
  have all : ∀ d ∈ digits, Text.isDigit d = true := fun d mem =>
    whole.2 d (List.mem_cons_of_mem c mem)
  have stop : ∀ d, [d] <+: after → Text.isDigit d = false := fun d first =>
    eq_false_of_ne_true fun digit => ends [d] first (Or.inl ⟨d, rfl, digit⟩)
  have none : ∀ d, ['.', d] <+: after → Text.isDigit d = false := fun d first =>
    eq_false_of_ne_true fun digit =>
      ends ['.', d] first (Or.inr ⟨not_mem_of_digits whole.2, d, rfl, digit⟩)
  simp only [afterDigit, takeWhile_run all stop, dropWhile_run all stop, fraction_none none]

theorem afterDigit_fraction {c : Char} {digits places after : List Char}
    (whole : Digits (c :: digits)) (isPlaces : Digits places)
    (ends : EndsBefore .number (c :: (digits ++ '.' :: places)) after) :
    afterDigit c (digits ++ '.' :: (places ++ after)) =
      (.token .number (c :: (digits ++ '.' :: places)), after) := by
  have all : ∀ d ∈ digits, Text.isDigit d = true := fun d mem =>
    whole.2 d (List.mem_cons_of_mem c mem)
  have point : ∀ d, [d] <+: '.' :: (places ++ after) → Text.isDigit d = false := by
    rintro d ⟨rest, same⟩
    cases same
    rfl
  have stop : ∀ d, [d] <+: after → Text.isDigit d = false := fun d first =>
    eq_false_of_ne_true fun digit => ends [d] first (Or.inl ⟨d, rfl, digit⟩)
  simp only [afterDigit, takeWhile_run all point, dropWhile_run all point,
    fraction_some isPlaces stop]
  cases places with
  | nil => exact absurd rfl isPlaces.1
  | cons d places => rfl

/-! ## 6. The first character decides -/

theorem startsWord_of_isDigit {c : Char} (digit : Text.isDigit c = true) :
    startsWord c = false := by
  simp only [Text.isDigit, Bool.and_eq_true, decide_eq_true_eq] at digit
  have lower : 48 ≤ c.toNat := digit.1
  have upper : c.toNat ≤ 57 := digit.2
  have ascii : c.toNat < 0x80 := by omega
  have notSmall : ¬ 'a' ≤ c := fun h => by have : 97 ≤ c.toNat := h; omega
  have notCapital : ¬ 'A' ≤ c := fun h => by have : 65 ≤ c.toNat := h; omega
  have notUnderscore : c ≠ '_' := by rintro rfl; revert upper; decide
  simp [startsWord, Text.isLetter, ascii, notSmall, notCapital, notUnderscore]

/-- A character that starts a number or a word starts no other segment. -/
theorem next_of_plain {c : Char} (plain : Text.isDigit c = true ∨ startsWord c = true)
    (rest : List Char) :
    next c rest = if Text.isDigit c then afterDigit c rest else afterLetter c rest := by
  have ne : ∀ d, Text.isDigit d = false → startsWord d = false → c ≠ d := by
    rintro d notDigit notWord rfl
    simp [notDigit, notWord] at plain
  have notBlank : isBlank c = false := by
    have space := ne ' ' rfl (by decide)
    have tab := ne '\t' rfl (by decide)
    have cr := ne '\r' rfl (by decide)
    have lf := ne '\n' rfl (by decide)
    simp [isBlank, space, tab, cr, lf]
  have lone : lone? c = none := by
    unfold lone?
    split <;> first | rfl | exact absurd rfl (ne _ rfl (by decide))
  have joinable : joinable? c = none := by
    unfold joinable?
    split <;> first | rfl | exact absurd rfl (ne _ rfl (by decide))
  rw [next, notBlank, if_neg Bool.false_ne_true, if_neg (ne '/' rfl (by decide)), lone, joinable]
  show (if c = '"' then _ else _) = _
  rw [if_neg (ne '"' rfl (by decide))]
  split
  · rfl
  · next notDigit =>
    rw [if_pos (plain.resolve_left notDigit)]

theorem next_digit {c : Char} (digit : Text.isDigit c = true) (rest : List Char) :
    next c rest = afterDigit c rest := by
  rw [next_of_plain (Or.inl digit), if_pos digit]

theorem next_letter {c : Char} (starts : startsWord c = true) (rest : List Char) :
    next c rest = afterLetter c rest := by
  rw [next_of_plain (Or.inr starts), if_neg]
  intro digit
  rw [startsWord_of_isDigit digit] at starts
  cases starts

/-- A character that no segment but a stray one can start with is taken as such. -/
theorem next_stray {c : Char} (unexpected : Unexpected c) (rest : List Char) :
    next c rest = (.stray c, rest) := by
  obtain ⟨notBlank, noLexeme⟩ := unexpected
  have notSlash : c ≠ '/' := by rintro rfl; exact noLexeme _ _ (.mark .slash)
  have notQuote : c ≠ '"' := by rintro rfl; exact noLexeme _ ['"'] (.text List.not_mem_nil)
  have notDigit : ¬Text.isDigit c = true := fun digit =>
    noLexeme _ [] (.whole ⟨List.cons_ne_nil _ _, by simp [digit]⟩)
  have notLetter : ¬startsWord c = true := fun starts =>
    noLexeme _ [] (.word starts fun _ mem => absurd mem List.not_mem_nil)
  have lone : lone? c = none := by
    refine Option.eq_none_iff_forall_ne_some.mpr fun m found => noLexeme (.mark m) [] ?_
    rw [← (toList_spelling_of_lone found).1]
    exact .mark m
  have joinable : joinable? c = none := by
    refine Option.eq_none_iff_forall_ne_some.mpr fun marks found => noLexeme (.mark marks.1) [] ?_
    rw [← (toList_spelling_of_joinable found).1]
    exact .mark marks.1
  rw [next, notBlank, if_neg Bool.false_ne_true, if_neg notSlash, lone, joinable]
  show (if c = '"' then _ else _) = _
  rw [if_neg notQuote, if_neg notDigit, if_neg notLetter]

/-! ## 7. What is taken fits -/

theorem fits_afterLetter {c : Char} (starts : startsWord c = true) (rest : List Char) :
    (afterLetter c rest).1.Fits (afterLetter c rest).2 := by
  have lexeme := Lexeme.word starts (all_takeWhile continuesWord rest)
  refine .token lexeme fun next first extend => ?_
  have notMark : ∃ d, next = [d] ∧ continuesWord d = true := by
    rw [wordKind] at extend
    split at extend <;> exact extend
  obtain ⟨d, rfl, continues⟩ := notMark
  exact absurd continues (by simp [stop_dropWhile _ _ _ first])

/-- A character that none of the rules is for is no blank and starts no token. -/
theorem unexpected_of_next {c : Char} (notBlank : ¬isBlank c = true) (notSlash : c ≠ '/')
    (lone : lone? c = none) (joinable : joinable? c = none) (notQuote : c ≠ '"')
    (notDigit : ¬Text.isDigit c = true) (notLetter : ¬startsWord c = true) : Unexpected c := by
  refine ⟨eq_false_of_ne_true notBlank, fun kind tail isLexeme => ?_⟩
  generalize whole : c :: tail = lexeme at isLexeme
  cases isLexeme with
  | mark m =>
    obtain ⟨d, rest, spelled, first⟩ := m.toList_spelling
    rw [spelled] at whole
    cases whole
    simp [lone, joinable, notSlash] at first
  | keyword k =>
    obtain ⟨d, rest, spelled, starts, -⟩ := k.toList_spelling
    rw [spelled] at whole
    cases whole
    exact notLetter starts
  | name starts continues unreserved =>
    cases whole
    exact notLetter starts
  | text noQuote =>
    cases whole
    exact notQuote rfl
  | whole digits =>
    cases whole
    exact notDigit (digits.2 c List.mem_cons_self)
  | @fraction digits places isDigits isPlaces =>
    cases digits with
    | nil => exact isDigits.1 rfl
    | cons d digits =>
      cases whole
      exact notDigit (isDigits.2 c List.mem_cons_self)

theorem mem_of_isBlank {c : Char} (blank : isBlank c = true) : c ∈ [' ', '\t', '\r', '\n'] := by
  simp only [isBlank, Bool.or_eq_true, decide_eq_true_eq] at blank
  simp only [List.mem_cons, List.not_mem_nil, or_false, ← or_assoc]
  exact blank

/-- The segment that is taken off a text fits before what is left. -/
theorem fits_next (c : Char) (rest : List Char) : (next c rest).1.Fits (next c rest).2 := by
  unfold next
  split
  · next blank => exact .blank (mem_of_isBlank blank)
  · next notBlank =>
    split
    · exact fits_afterSlash rest
    · next notSlash =>
      split
      · next m lone =>
        obtain ⟨spelled, ends⟩ := toList_spelling_of_lone lone
        exact .token (spelled ▸ .mark m) fun next _ => ends _ next
      · next lone =>
        split
        · next marks joinable => exact fits_afterJoinable joinable rest
        · next joinable =>
          split
          · exact fits_afterQuote rest
          · next notQuote =>
            split
            · next digit => exact fits_afterDigit digit rest
            · next notDigit =>
              split
              · next starts => exact fits_afterLetter starts rest
              · next notLetter =>
                exact .stray (unexpected_of_next notBlank notSlash lone joinable notQuote
                  notDigit notLetter)

/-! ## 8. What fits is taken -/

theorem segments_of_next {c : Char} {rest left : List Char} {s : Segment}
    (taken : next c rest = (s, left)) : segments (c :: rest) = s :: segments left := by
  rw [segments_cons, taken]

/-- A sign that nothing goes on with is cut off. -/
theorem segments_mark {m : Mark} {after : List Char}
    (ends : EndsBefore (.mark m) m.spelling.toList after) :
    segments (m.spelling.toList ++ after) =
      .token (.mark m) m.spelling.toList :: segments after := by
  have alone : Lexeme.Extends m.spelling.toList (.mark m) ['='] → ¬['='] <+: after :=
    fun extend first => ends ['='] first extend
  cases m with
  | slash => exact segments_of_next (afterSlash_alone ends)
  | bang => exact segments_of_next (afterJoinable_alone (alone rfl))
  | equal => exact segments_of_next (afterJoinable_alone (alone rfl))
  | less => exact segments_of_next (afterJoinable_alone (alone rfl))
  | greater => exact segments_of_next (afterJoinable_alone (alone rfl))
  | _ => exact segments_of_next rfl

/-- A word up to its last character is cut off. -/
theorem segments_word {c : Char} {tail after : List Char} (starts : startsWord c = true)
    (continues : ∀ d ∈ tail, continuesWord d = true)
    (ends : ∀ d, [d] <+: after → continuesWord d = false) :
    segments (c :: (tail ++ after)) =
      .token (wordKind (String.ofList (c :: tail))) (c :: tail) :: segments after := by
  refine segments_of_next ?_
  rw [next_letter starts]
  simp only [afterLetter, takeWhile_run continues ends, dropWhile_run continues ends]

/-- Any token is cut off when nothing goes on with it, one case for each sort of text. -/
theorem segments_token {kind : Token.Kind} {lexeme after : List Char}
    (isLexeme : Lexeme kind lexeme) (ends : EndsBefore kind lexeme after) :
    segments (lexeme ++ after) = .token kind lexeme :: segments after := by
  have stop : (∀ d, continuesWord d = true → Lexeme.Extends lexeme kind [d]) →
      ∀ d, [d] <+: after → continuesWord d = false := fun extend d first =>
    eq_false_of_ne_true fun continues => ends [d] first (extend d continues)
  cases isLexeme with
  | mark m => exact segments_mark ends
  | keyword k =>
    obtain ⟨c, tail, spelled, starts, continues⟩ := k.toList_spelling
    have taken := segments_word starts continues (stop fun d continues => ⟨d, rfl, continues⟩)
    rw [← List.cons_append, ← spelled, String.ofList_toList, Scanner.wordKind_spelling] at taken
    exact taken
  | name starts continues unreserved =>
    have taken := segments_word starts continues (stop fun d continues => ⟨d, rfl, continues⟩)
    rw [Scanner.wordKind_of_unreserved unreserved] at taken
    exact taken
  | @text body noQuote =>
    rw [List.cons_append, List.append_assoc]
    exact segments_of_next (afterQuote_closed noQuote after)
  | whole digits =>
    cases lexeme with
    | nil => exact absurd rfl digits.1
    | cons c digits' =>
      refine segments_of_next ?_
      rw [next_digit (digits.2 c List.mem_cons_self)]
      exact afterDigit_whole digits ends
  | @fraction digits places isDigits isPlaces =>
    cases digits with
    | nil => exact absurd rfl isDigits.1
    | cons c digits =>
      rw [List.cons_append, List.cons_append, List.append_assoc, List.cons_append]
      refine segments_of_next ?_
      rw [next_digit (isDigits.2 c List.mem_cons_self)]
      exact afterDigit_fraction isDigits isPlaces ends

/-- A line comment ends before the line feed, which is a segment of its own. -/
theorem segments_lineComment {body after : List Char} (oneLine : '\n' ∉ body)
    (ends : ∀ c, [c] <+: after → c = '\n') :
    segments ('/' :: '/' :: body ++ after) =
      .comment ('/' :: '/' :: body) :: segments after := by
  have all : ∀ c ∈ body, decide (c ≠ '\n') = true := fun c mem =>
    decide_eq_true fun same => oneLine (same ▸ mem)
  have stop : ∀ c, [c] <+: after → decide (c ≠ '\n') = false := fun c first =>
    decide_eq_false (not_not_intro (ends c first))
  have taken : afterSlash ('/' :: (body ++ after)) = (.comment ('/' :: '/' :: body), after) := by
    simp only [afterSlash, takeWhile_run all stop, dropWhile_run all stop]
  exact segments_of_next taken

/-- A segment that fits before a text is the first one of both together. -/
theorem Fits.segments_append {s : Segment} {after : List Char} (fits : s.Fits after) :
    segments (s.text ++ after) = s :: segments after := by
  cases fits with
  | token isLexeme ends => exact segments_token isLexeme ends
  | @blank c after isBlank =>
    refine segments_of_next ?_
    simp only [List.mem_cons, List.not_mem_nil, or_false] at isBlank
    obtain rfl | rfl | rfl | rfl := isBlank <;> rfl
  | lineComment oneLine ends => exact segments_lineComment oneLine ends
  | @blockComment inside after closes =>
    have taken : afterSlash ('*' :: (inside ++ after)) =
        (.comment ('/' :: '*' :: inside), after) := by
      simp only [afterSlash, closeComment?_of_closes closes]
    exact segments_of_next taken
  | stray unexpected => exact segments_of_next (next_stray unexpected after)
  | @openText body noQuote =>
    rw [List.append_nil]
    exact segments_of_next (afterQuote_open noQuote)
  | @openComment body noClosing =>
    have taken : afterSlash ('*' :: body) = (.openComment ('/' :: '*' :: body), []) := by
      simp only [afterSlash, closeComment?_of_noClosing noClosing]
    rw [List.append_nil]
    exact segments_of_next taken

/-! ## 9. The cut -/

/-- Each of the segments fits before those after it. -/
def Chain : List Segment → Prop
  | [] => True
  | s :: rest => s.Fits (rest.flatMap text) ∧ Chain rest

/-- The cutting makes segments that fit before what comes after them. -/
theorem chain_segments (cs : List Char) : Chain (segments cs) := by
  fun_induction segments cs with
  | case1 => trivial
  | case2 c rest segment left h _ ih =>
    refine ⟨?_, ih⟩
    have fits := fits_next c rest
    rwa [h, ← segments_text left] at fits

theorem segments_of_chain {ss : List Segment} (chain : Chain ss) :
    segments (ss.flatMap text) = ss := by
  induction ss with
  | nil => exact segments_nil
  | cons s rest ih => rw [List.flatMap_cons, chain.1.segments_append, ih chain.2]

/-- The segments of a text are the only ones that make it up and each fit before
those after it. -/
theorem eq_segments_iff {cs : List Char} {ss : List Segment} :
    ss = segments cs ↔ ss.flatMap text = cs ∧ Chain ss := by
  constructor
  · rintro rfl
    exact ⟨segments_text cs, chain_segments cs⟩
  · rintro ⟨rfl, chain⟩
    exact (segments_of_chain chain).symm

end Segment

end Scriptlet
