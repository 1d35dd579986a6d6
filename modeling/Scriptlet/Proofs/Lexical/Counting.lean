/-
Scriptlet.Proofs.Lexical.Counting — the scanner keeps its counts.

Where a scanner should stand after some characters is as many characters further, and as
many lines further as there are line feeds among them (`Scanner.past`). Every loop of the
scanner comes out just there. The loop inside a text and the one inside a block comment
count line feeds as they meet them; the loop that counts none is only ever used for a
class without the line feed.

So what a scanner finds is the first segment of what is left, at its place (`find_eq`). A
token is made when it is over, on the line the scanner has come to by then: that is the
line it starts on, since no lexeme but that of a text has a line feed. A text may have
some, and takes the line that was kept when it was opened. A whole run finds all segments
(`run_eq`), and ends on the line that the line feeds of the whole script make.
-/
import Scriptlet.Proofs.Lexical.Segment

namespace Scriptlet

open Segment (closeComment? afterSlash afterJoinable afterQuote afterDigit afterLetter next
  segments)

/-- What a scanner makes of a segment at its place. -/
def Placed.finding (p : Placed) : Finding :=
  match p.segment with
  | .token kind lexeme =>
    .token
      { kind, lexeme := String.ofList lexeme, line := p.line, payload := kind.payload lexeme
        start := p.start }
  | .blank _ => .nothing
  | .comment _ => .nothing
  | .stray c =>
    .error { line := p.line, start := p.start, cause := .unexpected (String.singleton c) }
  | .openText _ => .error { line := p.line, start := p.start, cause := .openText }
  | .openComment _ => .error { line := p.line, start := p.start, cause := .openComment }

/-- A scanner finds a token just where the segment is one. -/
theorem Placed.token?_finding (p : Placed) : p.finding.token? = p.token? := by
  obtain ⟨start, line, segment⟩ := p
  cases segment <;> rfl

theorem Placed.error?_finding (p : Placed) : p.finding.error? = p.error? := by
  obtain ⟨start, line, segment⟩ := p
  cases segment <;> rfl

namespace Scanner

/-- The scanner after some characters, with this left behind them. -/
def past (s : Scanner) (cs rest : List Char) : Scanner :=
  { left := rest, taken := s.taken + cs.length, line := s.line + cs.count '\n' }

/-- One character ahead of the others, if it is no line feed. -/
theorem ahead_past (s : Scanner) {c : Char} (flat : c ≠ '\n') (between cs rest : List Char) :
    (s.ahead between).past cs rest = s.past (c :: cs) rest := by
  simp only [past, ahead, List.length_cons, List.count_cons_of_ne flat, Nat.add_assoc,
    Nat.add_comm cs.length]

/-- A character that is no line feed leaves the line as it is. -/
theorem ahead_eq_past (s : Scanner) {c : Char} (flat : c ≠ '\n') (rest : List Char) :
    s.ahead rest = s.past [c] rest :=
  ahead_past s flat rest [] rest

/-- Two stretches one after the other are one. -/
theorem past_past (s : Scanner) (cs ds between rest : List Char) :
    (s.past cs between).past ds rest = s.past (cs ++ ds) rest := by
  simp only [past, List.length_append, List.count_append, Nat.add_assoc]

/-! ## 1. The loops -/

/-- Where no line is counted, none is missed. -/
theorem takeAll_eq (belongs : Char → Bool) (flat : belongs '\n' = false) (left : List Char)
    (taken line : Nat) :
    takeAll belongs left taken line =
      past { left, taken, line } (left.takeWhile belongs) (left.dropWhile belongs) := by
  fun_induction takeAll belongs left taken line with
  | case1 => rfl
  | case2 c rest taken line inside ih =>
    have noBreak : c ≠ '\n' := by
      rintro rfl
      rw [flat] at inside
      cases inside
    rw [ih, List.takeWhile_cons_of_pos inside, List.dropWhile_cons_of_pos inside]
    exact ahead_past { left := c :: rest, taken, line } noBreak rest _ _
  | case3 c rest taken line outside =>
    rw [List.takeWhile_cons_of_neg outside, List.dropWhile_cons_of_neg outside]
    rfl

/-- One character ahead of the others, where line feeds are counted. -/
theorem counted_past (c : Char) (rest : List Char) (taken line : Nat) (cs after : List Char) :
    past { left := rest, taken := taken + 1, line := if c = '\n' then line + 1 else line } cs after =
      past { left := c :: rest, taken, line } (c :: cs) after := by
  split
  · next lineFeed =>
    subst lineFeed
    simp only [past, List.length_cons, List.count_cons_self, Nat.add_assoc, Nat.add_comm 1]
  · next flat => exact ahead_past { left := c :: rest, taken, line } flat rest _ _

/-- The loop of a text counts the line feeds up to the quote, or up to the end. -/
theorem takeText_eq (left : List Char) (taken line : Nat) :
    takeText left taken line =
      past { left, taken, line } (left.takeWhile (· ≠ '"')) (left.dropWhile (· ≠ '"')) := by
  fun_induction takeText left taken line with
  | case1 => rfl
  | case2 => rfl
  | case3 c rest taken line other ih =>
    have inside : decide (c ≠ '"') = true := decide_eq_true other
    rw [ih, List.takeWhile_cons_of_pos (p := (· ≠ '"')) inside,
      List.dropWhile_cons_of_pos (p := (· ≠ '"')) inside, counted_past]

/-- The loop of a block comment counts those up to its closing sign, or all that are left. -/
theorem takeComment_eq (left : List Char) (taken line : Nat) :
    takeComment left taken line =
      match closeComment? left with
      | some (inside, after) => (true, past { left, taken, line } inside after)
      | none => (false, past { left, taken, line } left []) := by
  fun_induction takeComment left taken line with
  | case1 => rfl
  | case2 => rfl
  | case3 c rest taken line notClosed ih =>
    rw [ih, closeComment?]
    · cases closeComment? rest with
      | none => exact congrArg _ (counted_past ..)
      | some found => exact congrArg _ (counted_past ..)
    · exact notClosed

/-! ## 2. What is found -/

/-- What a scanner finds, and where it stands, when it takes this segment and leaves that. -/
def taking (s : Scanner) (cut : Segment × List Char) : Finding × Scanner :=
  (Placed.finding { start := s.taken, line := s.line, segment := cut.1 },
    s.past cut.1.text cut.2)

/-- The text of a token is what was taken since it was opened. -/
theorem lexeme_past {s : Scanner} {lexeme after : List Char} (whole : s.left = lexeme ++ after) :
    Scanner.lexeme s (s.past lexeme after) = lexeme := by
  rw [Scanner.lexeme, past, Nat.add_sub_cancel_left, whole, List.take_left]

/-- A token is made of what was taken since it was opened. -/
theorem token_past {s : Scanner} {lexeme after : List Char} (whole : s.left = lexeme ++ after)
    (kind : Token.Kind) :
    (Finding.token (token s (s.past lexeme after) s.line kind), s.past lexeme after) =
      s.taking (.token kind lexeme, after) := by
  rw [token, lexeme_past whole]
  rfl

/-- A token without a line feed, made when it is over, is on the line it started on. -/
theorem emit_past {s : Scanner} {lexeme after : List Char} (whole : s.left = lexeme ++ after)
    (flat : '\n' ∉ lexeme) (kind : Token.Kind) :
    emit s (s.past lexeme after) kind = s.taking (.token kind lexeme, after) := by
  have line : (s.past lexeme after).line = s.line := by
    rw [past, List.count_eq_zero_of_not_mem flat, Nat.add_zero]
  rw [emit, line, token_past whole]

variable {s : Scanner} {c : Char} {rest : List Char}

/-- A sign of one character. -/
theorem emit_ahead (flat : c ≠ '\n') (whole : s.left = c :: rest) (kind : Token.Kind) :
    emit s (s.ahead rest) kind = s.taking (.token kind [c], rest) := by
  rw [ahead_eq_past s flat]
  exact emit_past whole (by simpa using flat.symm) kind

/-- After a slash: a line comment, a block comment that ends or does not, or the sign. Of these
only block comments hold line feeds. -/
theorem slash_eq (whole : s.left = '/' :: rest) :
    slash s (s.ahead rest) = s.taking (afterSlash rest) := by
  have opened (sign : Char) (flat : sign ≠ '\n') (tail cs after : List Char) :
      ((s.ahead rest).ahead tail).past cs after = s.past ('/' :: sign :: cs) after := by
    rw [ahead_past _ flat, ahead_past _ (by decide : '/' ≠ '\n')]
  fun_cases afterSlash rest with
  | case1 tail =>
    have taken := takeAll_eq (· ≠ '\n') rfl tail (s.taken + 1 + 1) s.line
    exact congrArg _ (taken.trans (opened '/' (by decide) tail _ _))
  | case2 tail inside after closed =>
    have taken := takeComment_eq tail (s.taken + 1 + 1) s.line
    rw [closed] at taken
    simp only [slash, ahead, taken]
    exact congrArg _ (opened '*' (by decide) tail _ _)
  | case3 tail notClosed =>
    have taken := takeComment_eq tail (s.taken + 1 + 1) s.line
    rw [notClosed] at taken
    simp only [slash, ahead, taken]
    exact congrArg _ (opened '*' (by decide) tail _ _)
  | case4 rest notLine notBlock =>
    have alone : slash s (s.ahead rest) = emit s (s.ahead rest) (.mark .slash) := by
      rw [slash]
      split
      · next tail found => exact absurd found (notLine tail)
      · next tail found => exact absurd found (notBlock tail)
      · rfl
    rw [alone]
    exact emit_ahead (by decide) whole _

theorem ne_lineFeed_of_joinable {marks : Mark × Mark} (joinable : joinable? c = some marks) :
    c ≠ '\n' := by
  rintro rfl
  cases joinable

theorem join_eq {marks : Mark × Mark} (joinable : joinable? c = some marks)
    (whole : s.left = c :: rest) :
    join marks s (s.ahead rest) = s.taking (afterJoinable c marks rest) := by
  have flat := ne_lineFeed_of_joinable joinable
  fun_cases afterJoinable c marks rest with
  | case1 tail =>
    have both : (s.ahead ('=' :: tail)).ahead tail = s.past [c, '='] tail := by
      rw [ahead_eq_past _ (by decide : '=' ≠ '\n'), ahead_past s flat]
    have flat : '\n' ∉ [c, '='] := by simpa using flat.symm
    exact (congrArg (emit s · _) both).trans (emit_past whole flat _)
  | case2 rest other =>
    have alone : join marks s (s.ahead rest) = emit s (s.ahead rest) (.mark marks.1) := by
      rw [join]
      split
      · next tail found => exact absurd found (other tail)
      · rfl
    rw [alone]
    exact emit_ahead flat whole _

/-- A text may end on another line than it starts on, and its token is on the first. -/
theorem quote_eq (whole : s.left = '"' :: rest) :
    quote s (s.ahead rest) = s.taking (afterQuote rest) := by
  have parts := List.takeWhile_append_dropWhile (p := (· ≠ '"')) (l := rest)
  have stops := List.head?_dropWhile_not (· ≠ '"') rest
  have taken : takeText (s.ahead rest).left (s.ahead rest).taken (s.ahead rest).line =
      s.past ('"' :: rest.takeWhile (· ≠ '"')) (rest.dropWhile (· ≠ '"')) :=
    (takeText_eq rest _ _).trans (ahead_past s (by decide) rest _ _)
  rw [quote, afterQuote, taken]
  generalize rest.takeWhile (· ≠ '"') = contents at *
  cases left : rest.dropWhile (· ≠ '"') with
  | nil => rfl
  | cons closing tail =>
    rw [left] at parts stops
    obtain rfl : closing = '"' := by simpa using stops
    have closed : (s.past ('"' :: contents) ('"' :: tail)).ahead tail =
        s.past ('"' :: contents ++ ['"']) tail := by
      rw [ahead_eq_past _ (by decide : '"' ≠ '\n'), past_past]
    have whole : s.left = '"' :: contents ++ ['"'] ++ tail := by
      rw [whole, ← parts, List.cons_append, List.cons_append, List.append_assoc]
      rfl
    rw [← token_past whole, ← closed]
    rfl

/-- What is taken is of the class, and so without a line feed. -/
theorem not_mem_takeWhile {belongs : Char → Bool} (flat : belongs '\n' = false)
    (cs : List Char) : '\n' ∉ cs.takeWhile belongs := by
  intro mem
  have inside := List.all_eq_true.mp List.all_takeWhile _ mem
  rw [flat] at inside
  cases inside

/-- The fraction is taken behind what was taken already, or nothing is. -/
theorem fraction_past (s : Scanner) (cs left : List Char) :
    (s.past cs left).fraction =
      match Segment.fraction left with
      | ([], tail) => s.past cs tail
      | (places, tail) => s.past (cs ++ '.' :: places) tail := by
  fun_cases Segment.fraction left with
  | case1 d tail digit =>
    have point := ahead_past (s.past cs ('.' :: d :: tail)) (by decide : '.' ≠ '\n') (d :: tail)
    have taken := (takeAll_eq Text.isDigit rfl (d :: tail) _ _).trans (point _ _)
    rw [past_past, List.takeWhile_cons_of_pos digit] at taken
    rw [fraction, List.takeWhile_cons_of_pos digit]
    exact (if_pos digit).trans taken
  | case2 d tail notDigit => exact if_neg notDigit
  | case3 left other =>
    rw [fraction]
    split
    · next d tail found => exact absurd found (other d tail)
    · rfl

theorem not_mem_fraction (left : List Char) : '\n' ∉ (Segment.fraction left).1 := by
  fun_cases Segment.fraction left with
  | case1 d tail => exact not_mem_takeWhile rfl (d :: tail)
  | case2 | case3 => exact List.not_mem_nil

theorem number_eq (digit : Text.isDigit c = true) (whole : s.left = c :: rest) :
    number s (s.ahead rest) = s.taking (afterDigit c rest) := by
  have flat : c ≠ '\n' := by
    rintro rfl
    cases digit
  have taken : takeAll Text.isDigit (s.ahead rest).left (s.ahead rest).taken (s.ahead rest).line =
      s.past (c :: rest.takeWhile Text.isDigit) (rest.dropWhile Text.isDigit) :=
    (takeAll_eq _ rfl rest _ _).trans (ahead_past s flat rest _ _)
  have digits : '\n' ∉ c :: rest.takeWhile Text.isDigit :=
    List.not_mem_cons_of_ne_of_not_mem flat.symm (not_mem_takeWhile rfl rest)
  have parts : s.left = (afterDigit c rest).1.text ++ (afterDigit c rest).2 :=
    whole.trans (Segment.afterDigit_text c rest).symm
  have point := not_mem_fraction (rest.dropWhile Text.isDigit)
  rw [number, taken, fraction_past]
  rw [afterDigit] at parts ⊢
  generalize Segment.fraction (rest.dropWhile Text.isDigit) = cut at *
  obtain ⟨places, tail⟩ := cut
  cases places with
  | nil => exact emit_past parts digits _
  | cons d places =>
    refine emit_past parts (List.not_mem_append digits ?_) _
    exact List.not_mem_cons_of_ne_of_not_mem (by decide) point

theorem word_eq (letter : startsWord c = true) (whole : s.left = c :: rest) :
    word s (s.ahead rest) = s.taking (afterLetter c rest) := by
  have flat : c ≠ '\n' := by
    rintro rfl
    revert letter
    decide
  have noBreak : continuesWord '\n' = false := by decide
  have taken : takeAll continuesWord (s.ahead rest).left (s.ahead rest).taken (s.ahead rest).line =
      s.past (c :: rest.takeWhile continuesWord) (rest.dropWhile continuesWord) :=
    (takeAll_eq _ noBreak rest _ _).trans (ahead_past s flat rest _ _)
  have whole : s.left = c :: rest.takeWhile continuesWord ++ rest.dropWhile continuesWord := by
    rw [whole, List.cons_append, List.takeWhile_append_dropWhile]
  rw [word, taken, lexeme_past whole]
  exact emit_past whole (List.not_mem_cons_of_ne_of_not_mem flat.symm (not_mem_takeWhile noBreak rest)) _

/-- A scanner finds the first segment of what is left, at its place. -/
theorem find_eq (whole : s.left = c :: rest) :
    find c s (s.ahead rest) = s.taking (next c rest) := by
  by_cases lineFeed : c = '\n'
  · subst lineFeed
    rfl
  have alone := ahead_eq_past s lineFeed rest
  by_cases space : isSpace c = true
  · have blank : Segment.isBlank c = true := by rw [Segment.isBlank, ← isSpace, space]; rfl
    rw [find, next, if_pos space, if_pos blank, alone]
    rfl
  have notBlank : ¬Segment.isBlank c = true := by
    rw [Segment.isBlank, ← isSpace]
    simp [space, lineFeed]
  rw [find, next, if_neg space, if_neg lineFeed, if_neg notBlank]
  by_cases slash : c = '/'
  · subst slash
    exact slash_eq whole
  rw [if_neg slash, if_neg slash]
  cases lone? c with
  | some mark => exact emit_ahead lineFeed whole _
  | none =>
    cases joinable : joinable? c with
    | some marks => exact join_eq joinable whole
    | none =>
      by_cases quote : c = '"'
      · subst quote
        exact quote_eq whole
      by_cases digit : Text.isDigit c = true
      · simp only [if_neg quote, if_pos digit]
        exact number_eq digit whole
      by_cases letter : startsWord c = true
      · simp only [if_neg quote, if_neg digit, if_pos letter]
        exact word_eq letter whole
      simp only [if_neg quote, if_neg digit, if_neg letter]
      exact congrArg (Prod.mk _) alone

/-- A run finds the segments of what is left, each at its place, and ends behind them. -/
theorem run_eq (s : Scanner) :
    run s =
      ((Segment.place s.taken s.line (segments s.left)).map Placed.finding, s.past s.left []) := by
  fun_induction run s with
  | case1 taken line =>
    rw [Segment.segments_nil]
    rfl
  | case2 c rest taken line opened found others ih =>
    have first : found = opened.taking (next c rest) := find_eq rfl
    have text := Segment.next_text c rest
    rw [Segment.segments_cons, Segment.place, List.map_cons]
    simp only [others, ih, first, taking, past_past]
    exact congrArg (Prod.mk _) (congrArg (opened.past · []) text)

end Scanner

/-- The scan of a script is read off its segments at their places, and its end marker is on
the line that all line feeds make. -/
theorem Scan.ofText_eq (source : String) :
    Scan.ofText source =
      { body := (Scan.placed source.toList).filterMap Placed.token?
        finish := { kind := .finish, lexeme := "", line := 1 + source.toList.count '\n'
                    start := source.toList.length }
        errors := (Scan.placed source.toList).filterMap Placed.error? } := by
  have tokens : Finding.token? ∘ Placed.finding = Placed.token? := funext Placed.token?_finding
  have errors : Finding.error? ∘ Placed.finding = Placed.error? := funext Placed.error?_finding
  simp only [ofText, Scanner.run_eq, List.filterMap_map, tokens, errors]
  rfl

/-- The tokens of a scan are those of the segments at their places. -/
theorem Scan.body_ofText (source : String) :
    (Scan.ofText source).body = (Scan.placed source.toList).filterMap Placed.token? :=
  congrArg body (ofText_eq source)

/-- The marker is where the loops have come to at the end of the script. -/
theorem Scan.finish_ofText (source : String) :
    (Scan.ofText source).finish =
      { kind := .finish, lexeme := "", line := 1 + source.toList.count '\n'
        start := source.toList.length } :=
  congrArg finish (ofText_eq source)

theorem Scan.errors_ofText (source : String) :
    (Scan.ofText source).errors = (Scan.placed source.toList).filterMap Placed.error? :=
  congrArg errors (ofText_eq source)

theorem Scan.mem_body {source : String} {t : Token} :
    t ∈ (Scan.ofText source).body ↔ ∃ p ∈ Scan.placed source.toList, p.token? = some t := by
  rw [Scan.body_ofText, List.mem_filterMap]

theorem Scan.mem_errors {source : String} {e : LexicalError} :
    e ∈ (Scan.ofText source).errors ↔ ∃ p ∈ Scan.placed source.toList, p.error? = some e := by
  rw [Scan.errors_ofText, List.mem_filterMap]

end Scriptlet
