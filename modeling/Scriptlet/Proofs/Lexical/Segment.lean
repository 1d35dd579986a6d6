/-
Scriptlet.Proofs.Lexical.Segment — a script cut into segments.

Each segment is a token, a blank, a comment, or a fault: a character that
starts nothing, or a text or comment that never ends. `next` takes the first
segment off a text, as long as its kind allows, and `segments` takes them all.
Nothing is dropped on the way: `next_text` says that a segment and the rest
make up the text again, `segments_text` says so of the whole cut.

A cut counts nothing. `place` puts the segments one after the other, each where the
text before it ends, on the line that the line feeds before it make; the scanner does
not go by that rule, and that its counts come to the same is shown in
`Scriptlet.Proofs.Lexical.Counting`.
-/
import Scriptlet.Token.Scan

namespace Scriptlet

/-- A stretch of a script. -/
inductive Segment
  /-- A token and its text. -/
  | token (kind : Token.Kind) (lexeme : List Char)
  /-- A space, a tab or a line break. -/
  | blank (c : Char)
  /-- A comment that is over: up to the end of its line, or to its closing sign. -/
  | comment (text : List Char)
  /-- A character that no segment starts with. -/
  | stray (c : Char)
  /-- A text without its closing quote. It runs to the end of the script. -/
  | openText (text : List Char)
  /-- A block comment without its closing sign. It runs to the end of the script. -/
  | openComment (text : List Char)
  deriving DecidableEq

namespace Segment

open Scanner (startsWord continuesWord lone? joinable? wordKind)

def text : Segment → List Char
  | .token _ lexeme => lexeme
  | .blank c => [c]
  | .comment text => text
  | .stray c => [c]
  | .openText text => text
  | .openComment text => text

def isBlank (c : Char) : Bool := c = ' ' || c = '\t' || c = '\r' || c = '\n'

/-! ## 1. The first segment

Each of these takes what follows the first character, and answers the segment
with what is left. -/

/-- The part of a text up to and with the first closing sign of a block comment. -/
def closeComment? : List Char → Option (List Char × List Char)
  | [] => none
  | '*' :: '/' :: rest => some (['*', '/'], rest)
  | c :: rest =>
    match closeComment? rest with
    | some (inside, after) => some (c :: inside, after)
    | none => none

def afterSlash (rest : List Char) : Segment × List Char :=
  match rest with
  | '/' :: tail =>
    (.comment ('/' :: '/' :: tail.takeWhile (· ≠ '\n')), tail.dropWhile (· ≠ '\n'))
  | '*' :: tail =>
    match closeComment? tail with
    | some (inside, after) => (.comment ('/' :: '*' :: inside), after)
    | none => (.openComment ('/' :: '*' :: tail), [])
  | _ => (.token (.mark .slash) ['/'], rest)

def afterJoinable (c : Char) (marks : Mark × Mark) (rest : List Char) : Segment × List Char :=
  match rest with
  | '=' :: tail => (.token (.mark marks.2) [c, '='], tail)
  | _ => (.token (.mark marks.1) [c], rest)

def afterQuote (rest : List Char) : Segment × List Char :=
  let contents := rest.takeWhile (· ≠ '"')
  match rest.dropWhile (· ≠ '"') with
  | [] => (.openText ('"' :: contents), [])
  | quote :: tail =>
    (.token .text ('"' :: contents ++ [quote]), tail)

/-- After the whole part of a number: its fraction, if a point and a digit follow. -/
def fraction (rest : List Char) : List Char × List Char :=
  match rest with
  | '.' :: c :: tail =>
    if Text.isDigit c then
      ((c :: tail).takeWhile Text.isDigit, (c :: tail).dropWhile Text.isDigit)
    else
      ([], rest)
  | _ => ([], rest)

def afterDigit (c : Char) (rest : List Char) : Segment × List Char :=
  let whole := c :: rest.takeWhile Text.isDigit
  match fraction (rest.dropWhile Text.isDigit) with
  | ([], tail) => (.token .number whole, tail)
  | (places, tail) => (.token .number (whole ++ '.' :: places), tail)

def afterLetter (c : Char) (rest : List Char) : Segment × List Char :=
  let word := c :: rest.takeWhile continuesWord
  (.token (wordKind (String.ofList word)) word, rest.dropWhile continuesWord)

/-- The segment that `c` starts when `rest` follows it, and what is left. -/
def next (c : Char) (rest : List Char) : Segment × List Char :=
  if isBlank c then
    (.blank c, rest)
  else if c = '/' then
    afterSlash rest
  else
    match lone? c with
    | some mark => (.token (.mark mark) [c], rest)
    | none =>
      match joinable? c with
      | some marks => afterJoinable c marks rest
      | none =>
        if c = '"' then afterQuote rest
        else if Text.isDigit c then afterDigit c rest
        else if startsWord c then afterLetter c rest
        else (.stray c, rest)

/-! ## 2. Nothing is lost -/

/-- What is inside of a comment and what comes after it are the text. -/
theorem closeComment?_text : ∀ {cs inside after : List Char},
    closeComment? cs = some (inside, after) → inside ++ after = cs := by
  intro cs
  fun_induction closeComment? cs with
  | case1 => simp
  | case2 rest => simp_all
  | case3 c rest _ inside after h ih => intro i a; grind
  | case4 => simp

/-- Each rule cuts the text, and loses none of it. -/
theorem afterSlash_text (rest : List Char) :
    (afterSlash rest).1.text ++ (afterSlash rest).2 = '/' :: rest := by
  unfold afterSlash
  split
  · simp [text]
  · split
    · next h => simp [text, closeComment?_text h]
    · simp [text]
  · simp [text]

theorem afterJoinable_text (c : Char) (marks : Mark × Mark) (rest : List Char) :
    (afterJoinable c marks rest).1.text ++ (afterJoinable c marks rest).2 = c :: rest := by
  unfold afterJoinable
  split <;> simp [text]

theorem afterQuote_text (rest : List Char) :
    (afterQuote rest).1.text ++ (afterQuote rest).2 = '"' :: rest := by
  have whole := List.takeWhile_append_dropWhile (p := (· ≠ '"')) (l := rest)
  unfold afterQuote
  split
  · next h => rw [h] at whole; simpa [text] using whole
  · next h => rw [h] at whole; simpa [text] using whole

/-- A fraction is cut off with its point, or there is none. -/
theorem fraction_text (rest : List Char) :
    fraction rest = ([], rest) ∨
      '.' :: (fraction rest).1 ++ (fraction rest).2 = rest ∧ (fraction rest).1 ≠ [] := by
  unfold fraction
  split
  · next c tail =>
    split
    · next h =>
      right
      simp [List.takeWhile_append_dropWhile, h]
    · simp
  · simp

theorem afterDigit_text (c : Char) (rest : List Char) :
    (afterDigit c rest).1.text ++ (afterDigit c rest).2 = c :: rest := by
  have whole := List.takeWhile_append_dropWhile (p := Text.isDigit) (l := rest)
  have places := fraction_text (rest.dropWhile Text.isDigit)
  unfold afterDigit
  split <;> grind [text]

theorem afterLetter_text (c : Char) (rest : List Char) :
    (afterLetter c rest).1.text ++ (afterLetter c rest).2 = c :: rest := by
  simp [afterLetter, text]

/-- A segment and what is left make up the text. -/
theorem next_text (c : Char) (rest : List Char) :
    (next c rest).1.text ++ (next c rest).2 = c :: rest := by
  unfold next
  split
  · simp [text]
  · split
    · next h => rw [afterSlash_text, h]
    · split
      · simp [text]
      · split
        · exact afterJoinable_text ..
        · split
          · next h => rw [afterQuote_text, h]
          · split
            · exact afterDigit_text ..
            · split
              · exact afterLetter_text ..
              · simp [text]

/-- A segment takes at least one character. -/
theorem text_next_ne_nil (c : Char) (rest : List Char) : (next c rest).1.text ≠ [] := by
  unfold next
  split
  · simp [text]
  · split
    · unfold afterSlash
      split
      · simp [text]
      · split <;> simp [text]
      · simp [text]
    · split
      · simp [text]
      · split
        · unfold afterJoinable
          split <;> simp [text]
        · split
          · unfold afterQuote
            split <;> simp [text]
          · split
            · unfold afterDigit
              split <;> simp [text]
            · split <;> simp [text, afterLetter]

/-- What is left is shorter, so that the cutting ends. -/
theorem length_next_le (c : Char) (rest : List Char) : (next c rest).2.length ≤ rest.length := by
  have whole := congrArg List.length (next_text c rest)
  have taken := List.length_pos_iff.2 (text_next_ne_nil c rest)
  simp only [List.length_append, List.length_cons] at whole
  omega

/-! ## 3. The whole text -/

def segments (cs : List Char) : List Segment :=
  match cs with
  | [] => []
  | c :: rest =>
    match h : next c rest with
    | (segment, left) =>
      have : left.length < (c :: rest).length := by
        have := length_next_le c rest
        simp only [h, List.length_cons] at this ⊢
        omega
      segment :: segments left
termination_by cs.length
decreasing_by assumption

theorem segments_nil : segments [] = [] := by
  rw [segments]

/-- The first segment, and the segments of what it leaves. -/
theorem segments_cons (c : Char) (rest : List Char) :
    segments (c :: rest) = (next c rest).1 :: segments (next c rest).2 := by
  rw [segments]

/-- The segments of a text make it up. -/
theorem segments_text (cs : List Char) : (segments cs).flatMap text = cs := by
  fun_induction segments cs with
  | case1 => rfl
  | case2 c rest segment left h _ ih =>
    have whole := next_text c rest
    rw [h] at whole
    rw [List.flatMap_cons, ih, whole]

end Segment

/-! ## 4. Places -/

/-- A segment, the offset of its first character, and the line that character is on. -/
structure Placed where
  start : Nat
  line : Nat
  segment : Segment

namespace Segment

def lineFeeds (s : Segment) : Nat := s.text.count '\n'

/-- Segments one after the other, the first of them at a given place. -/
def place : (start line : Nat) → List Segment → List Placed
  | _, _, [] => []
  | start, line, s :: rest =>
    { start, line, segment := s } :: place (start + s.text.length) (line + s.lineFeeds) rest

end Segment

namespace Placed

def token? (p : Placed) : Option Token :=
  match p.segment with
  | .token kind lexeme =>
    some
      { kind, lexeme := String.ofList lexeme, line := p.line, payload := kind.payload lexeme
        start := p.start }
  | _ => none

def error? (p : Placed) : Option LexicalError :=
  match p.segment with
  | .stray c =>
    some { line := p.line, start := p.start, cause := .unexpected (String.singleton c) }
  | .openText _ => some { line := p.line, start := p.start, cause := .openText }
  | .openComment _ => some { line := p.line, start := p.start, cause := .openComment }
  | _ => none

end Placed

def Scan.placed (cs : List Char) : List Placed := Segment.place 0 1 (Segment.segments cs)

end Scriptlet
