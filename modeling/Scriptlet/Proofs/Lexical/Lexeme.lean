/-
Scriptlet.Proofs.Lexical.Lexeme — which texts are tokens, and which segments may
stand where, said without any scanning.

`Lexeme` is the lexical grammar: the texts that are tokens, with their kinds.
`Segment.Fits` says of a segment that it may stand where a given text follows
it. For a token that is a matter of what must not come next, since a token goes
on for as long as it can.

All of it is about what must not follow, so a segment that fits before a text
fits before every beginning of that text (`Fits.of_prefix`). That is why a
script can be cut off after a token.
-/
import Scriptlet.Proofs.Lexical.Segment

namespace Scriptlet

open Segment (isBlank)
open Scanner (startsWord continuesWord)

/-! ## 1. The texts of tokens -/

/-- One digit or more, and nothing else. -/
def Digits (cs : List Char) : Prop := cs ≠ [] ∧ ∀ c ∈ cs, Text.isDigit c = true

/-- The texts that are tokens, and of which kind. -/
inductive Lexeme : Token.Kind → List Char → Prop
  | mark (m : Mark) : Lexeme (.mark m) m.spelling.toList
  | keyword (k : Keyword) : Lexeme (.keyword k) k.spelling.toList
  | name {c : Char} {tail : List Char} (starts : startsWord c = true)
      (continues : ∀ d ∈ tail, continuesWord d = true)
      (unreserved : ∀ k : Keyword, k.spelling.toList ≠ c :: tail) : Lexeme .identifier (c :: tail)
  | text {body : List Char} (noQuote : '"' ∉ body) : Lexeme .text ('"' :: (body ++ ['"']))
  | whole {digits : List Char} (whole : Digits digits) : Lexeme .number digits
  | fraction {digits places : List Char} (whole : Digits digits) (fraction : Digits places) :
      Lexeme .number (digits ++ '.' :: places)

/-- What would make something else of a token if it came next: a longer token, or
the opening of a comment. -/
def Lexeme.Extends (lexeme : List Char) : Token.Kind → (next : List Char) → Prop
  | .mark .slash, next => next = ['/'] ∨ next = ['*']
  | .mark .bang, next => next = ['=']
  | .mark .equal, next => next = ['=']
  | .mark .less, next => next = ['=']
  | .mark .greater, next => next = ['=']
  | .keyword _, next => ∃ c, next = [c] ∧ continuesWord c = true
  | .identifier, next => ∃ c, next = [c] ∧ continuesWord c = true
  | .number, next =>
    (∃ c, next = [c] ∧ Text.isDigit c = true) ∨
      '.' ∉ lexeme ∧ ∃ c, next = ['.', c] ∧ Text.isDigit c = true
  | _, _ => False

/-- Nothing that would make something else of the token comes next. -/
def Lexeme.EndsBefore (kind : Token.Kind) (lexeme after : List Char) : Prop :=
  ∀ next, next <+: after → ¬Extends lexeme kind next

/-- Something must come next to make a difference. -/
theorem Lexeme.Extends.ne_nil {kind : Token.Kind} {lexeme next : List Char}
    (extend : Extends lexeme kind next) : next ≠ [] := by
  rintro rfl
  unfold Extends at extend
  split at extend <;> simp at extend

theorem Lexeme.endsBefore_nil (kind : Token.Kind) (lexeme : List Char) :
    EndsBefore kind lexeme [] :=
  fun _ first extend => extend.ne_nil (List.prefix_nil.mp first)

/-! ## 2. Segments -/

namespace Segment

def closing : List Char := ['*', '/']

/-- The text ends with a closing sign, and there is none in it before that. -/
def Closes (inside : List Char) : Prop :=
  closing <:+ inside ∧ ∀ before after, before ++ closing ++ after = inside → after = []

/-- No blank and no token starts with the character. -/
def Unexpected (c : Char) : Prop := isBlank c = false ∧ ∀ kind tail, ¬Lexeme kind (c :: tail)

/-- The segment is what it should be, and may stand where `after` follows it. -/
inductive Fits : Segment → (after : List Char) → Prop
  | token {kind : Token.Kind} {lexeme after : List Char} (isLexeme : Lexeme kind lexeme)
      (ends : Lexeme.EndsBefore kind lexeme after) : Fits (.token kind lexeme) after
  | blank {c : Char} {after : List Char} (isBlank : c ∈ [' ', '\t', '\r', '\n']) :
      Fits (.blank c) after
  | lineComment {body after : List Char} (oneLine : '\n' ∉ body)
      (ends : ∀ c, [c] <+: after → c = '\n') : Fits (.comment ('/' :: '/' :: body)) after
  | blockComment {inside after : List Char} (closes : Closes inside) :
      Fits (.comment ('/' :: '*' :: inside)) after
  | stray {c : Char} {after : List Char} (unexpected : Unexpected c) : Fits (.stray c) after
  | openText {body : List Char} (noQuote : '"' ∉ body) : Fits (.openText ('"' :: body)) []
  | openComment {body : List Char} (noClosing : ¬closing <:+: body) :
      Fits (.openComment ('/' :: '*' :: body)) []

end Segment

/-- If less follows, less is there that could make a difference. -/
theorem Lexeme.EndsBefore.of_prefix {kind : Token.Kind} {lexeme after before : List Char}
    (ends : EndsBefore kind lexeme after) (sub : before <+: after) :
    EndsBefore kind lexeme before :=
  fun next first => ends next (first.trans sub)

/-- A segment that fits where a text follows fits where only a part of it does. -/
theorem Segment.Fits.of_prefix {s : Segment} {after before : List Char} (fits : s.Fits after)
    (sub : before <+: after) : s.Fits before := by
  cases fits with
  | token isLexeme ends => exact .token isLexeme (ends.of_prefix sub)
  | blank isBlank => exact .blank isBlank
  | lineComment oneLine ends => exact .lineComment oneLine fun c first => ends c (first.trans sub)
  | blockComment closes => exact .blockComment closes
  | stray unexpected => exact .stray unexpected
  | openText noQuote =>
    obtain rfl := List.prefix_nil.mp sub
    exact .openText noQuote
  | openComment noClosing =>
    obtain rfl := List.prefix_nil.mp sub
    exact .openComment noClosing

/-! ## 3. Signs and words -/

/-- How a sign starts tells which of the rules it is found by. -/
theorem Mark.toList_spelling (m : Mark) :
    ∃ c tail, m.spelling.toList = c :: tail ∧
      ((Scanner.lone? c).isSome ∨ (Scanner.joinable? c).isSome ∨ c = '/') := by
  cases m <;> exact ⟨_, _, rfl, by decide⟩

theorem Keyword.toList_spelling (k : Keyword) :
    ∃ c tail, k.spelling.toList = c :: tail ∧ startsWord c = true ∧
      ∀ d ∈ tail, continuesWord d = true := by
  cases k <;> exact ⟨_, _, rfl, by decide, List.all_eq_true.mp rfl⟩

/-- Different reserved words are spelled differently. -/
theorem Keyword.ofSpelling?_eq_some_iff {word : String} {k : Keyword} :
    Keyword.ofSpelling? word = some k ↔ k.spelling = word := by
  constructor
  · intro found
    rw [ofSpelling?] at found
    simpa using List.find?_some found
  · rintro rfl
    cases k <;> rfl

/-- A whole word is a reserved word or a name, as its spelling says. -/
theorem Lexeme.word {c : Char} {tail : List Char} (starts : startsWord c = true)
    (continues : ∀ d ∈ tail, continuesWord d = true) :
    Lexeme (Scanner.wordKind (String.ofList (c :: tail))) (c :: tail) := by
  rw [Scanner.wordKind]
  split
  · next k found =>
    have spelled := Keyword.ofSpelling?_eq_some_iff.mp found
    have lexeme := Lexeme.keyword k
    rwa [spelled, String.toList_ofList] at lexeme
  · next none =>
    refine .name starts continues fun k spelled => ?_
    rw [← spelled, String.ofList_toList, Keyword.ofSpelling?_eq_some_iff.mpr rfl] at none
    cases none

/-- A word that is spelled as a reserved one is that reserved word. -/
theorem Scanner.wordKind_spelling (k : Keyword) : wordKind k.spelling = .keyword k := by
  rw [wordKind, Keyword.ofSpelling?_eq_some_iff.mpr rfl]

theorem Scanner.wordKind_of_unreserved {word : List Char}
    (unreserved : ∀ k : Keyword, k.spelling.toList ≠ word) :
    wordKind (String.ofList word) = .identifier := by
  rw [wordKind]
  split
  · next k found =>
    have spelled := Keyword.ofSpelling?_eq_some_iff.mp found
    refine absurd ?_ (unreserved k)
    rw [spelled, String.toList_ofList]
  · rfl

end Scriptlet
