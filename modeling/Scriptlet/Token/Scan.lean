/-
Scriptlet.Token.Scan — the tokens and the lexical errors of a script.

A scanner goes over a script once, from left to right, and keeps two counts as it goes:
the characters it has taken, and the line it has come to. Line feeds turn up between
tokens, inside a text and inside a block comment, and each of these three places counts
its own. A text is on the line it was opened on, and so is a text or a comment that is
never closed. Every other token or error is on the line the scanner has come to when it
is found, and the end marker on the line it has come to at the end.

An error does not stop the scanner: it goes on behind the character, or at the end of the
script when what was opened takes up all of it.
-/
import Scriptlet.Text.Character
import Scriptlet.Token

namespace Scriptlet

inductive LexicalCause
  /-- Text that no token starts with. -/
  | unexpected (text : String)
  /-- A text without its closing quote. -/
  | openText
  /-- A block comment without its closing sign. -/
  | openComment
  deriving DecidableEq, Repr

structure LexicalError where
  line : Int
  start : Nat
  cause : LexicalCause
  deriving DecidableEq, Repr

def LexicalCause.message : LexicalCause → String
  | .unexpected text => "Unexpected character " ++ Text.quoted text ++ "."
  | .openText => "Unterminated string."
  | .openComment => "Unterminated block comment."

def LexicalCause.width : LexicalCause → Nat
  | .unexpected _ => 1
  | .openText => 1
  | .openComment => 2

/-- What a scanner comes upon before it looks for the next token. -/
inductive Finding
  | nothing
  | token (token : Token)
  | error (error : LexicalError)

namespace Finding

def token? : Finding → Option Token
  | .token t => some t
  | _ => none

def error? : Finding → Option LexicalError
  | .error e => some e
  | _ => none

end Finding

/-- How far a scan has come: what it has yet to take, how many characters it has taken,
and the line it is on. -/
structure Scanner where
  left : List Char
  taken : Nat := 0
  line : Nat := 1

namespace Scanner

/-! ## 1. Classes of characters -/

def isSpace (c : Char) : Bool := c = ' ' || c = '\t' || c = '\r'

def startsWord (c : Char) : Bool := Text.isLetter c || c = '_'

def continuesWord (c : Char) : Bool := Text.isLetter c || Text.isNumeral c || c = '_'

/-- The signs that nothing can be joined to. -/
def lone? (c : Char) : Option Mark :=
  match c with
  | '(' => some .leftParen
  | ')' => some .rightParen
  | '\x7b' => some .leftBrace
  | '\x7d' => some .rightBrace
  | ',' => some .comma
  | '.' => some .dot
  | '-' => some .minus
  | '+' => some .plus
  | ';' => some .semicolon
  | '*' => some .star
  | _ => none

/-- The signs that an equals sign can be joined to: alone, and joined. -/
def joinable? (c : Char) : Option (Mark × Mark) :=
  match c with
  | '!' => some (.bang, .bangEqual)
  | '=' => some (.equal, .equalEqual)
  | '<' => some (.less, .lessEqual)
  | '>' => some (.greater, .greaterEqual)
  | _ => none

def wordKind (word : String) : Token.Kind :=
  match Keyword.ofSpelling? word with
  | some k => .keyword k
  | none => .identifier

/-! ## 2. Taking characters -/

/-- One character further, with this left behind it. -/
def ahead (s : Scanner) (rest : List Char) : Scanner :=
  { left := rest, taken := s.taken + 1, line := s.line }

def takeAll (belongs : Char → Bool) : (left : List Char) → (taken line : Nat) → Scanner
  | [], taken, line => { left := [], taken, line }
  | c :: rest, taken, line =>
    if belongs c then takeAll belongs rest (taken + 1) line
    else { left := c :: rest, taken, line }

/-- Take what a text holds, up to its closing quote, and count the lines. -/
def takeText : (left : List Char) → (taken line : Nat) → Scanner
  | [], taken, line => { left := [], taken, line }
  | c :: rest, taken, line =>
    if c = '"' then { left := c :: rest, taken, line }
    else takeText rest (taken + 1) (if c = '\n' then line + 1 else line)

/-- Take what a block comment holds and its closing sign, and count the lines; whether
there was a closing sign. -/
def takeComment : (left : List Char) → (taken line : Nat) → Bool × Scanner
  | [], taken, line => (false, { left := [], taken, line })
  | '*' :: '/' :: rest, taken, line => (true, { left := rest, taken := taken + 2, line })
  | c :: rest, taken, line =>
    takeComment rest (taken + 1) (if c = '\n' then line + 1 else line)

/-! ## 3. Tokens

A token, comment or error starts where the scanner stood at `opened`; `s` is where it
stands behind the first character. -/

def lexeme (opened s : Scanner) : List Char := opened.left.take (s.taken - opened.taken)

def token (opened s : Scanner) (line : Nat) (kind : Token.Kind) : Token :=
  { kind, lexeme := String.ofList (lexeme opened s), line
    payload := kind.payload (lexeme opened s), start := opened.taken }

/-- A token on the line the scanner has come to. -/
def emit (opened s : Scanner) (kind : Token.Kind) : Finding × Scanner :=
  (.token (token opened s s.line kind), s)

def fault (opened : Scanner) (line : Nat) (cause : LexicalCause) : Finding :=
  .error { line, start := opened.taken, cause }

/-- After a slash: a comment, or the sign itself. -/
def slash (opened s : Scanner) : Finding × Scanner :=
  match s.left with
  | '/' :: rest => (.nothing, takeAll (· ≠ '\n') rest (s.taken + 1) s.line)
  | '*' :: rest =>
    match takeComment rest (s.taken + 1) s.line with
    | (true, last) => (.nothing, last)
    | (false, last) => (fault opened s.line .openComment, last)
  | _ => emit opened s (.mark .slash)

def join (marks : Mark × Mark) (opened s : Scanner) : Finding × Scanner :=
  match s.left with
  | '=' :: rest => emit opened (s.ahead rest) (.mark marks.2)
  | _ => emit opened s (.mark marks.1)

def quote (opened s : Scanner) : Finding × Scanner :=
  let last := takeText s.left s.taken s.line
  match last.left with
  | [] => (fault opened s.line .openText, last)
  | _ :: rest => (.token (token opened (last.ahead rest) s.line .text), last.ahead rest)

/-- After the whole part of a number: its fraction, if a point and a digit follow. -/
def fraction (s : Scanner) : Scanner :=
  match s.left with
  | '.' :: c :: rest =>
    if Text.isDigit c then takeAll Text.isDigit (c :: rest) (s.taken + 1) s.line else s
  | _ => s

def number (opened s : Scanner) : Finding × Scanner :=
  emit opened (takeAll Text.isDigit s.left s.taken s.line).fraction .number

def word (opened s : Scanner) : Finding × Scanner :=
  let last := takeAll continuesWord s.left s.taken s.line
  emit opened last (wordKind (String.ofList (lexeme opened last)))

def find (c : Char) (opened s : Scanner) : Finding × Scanner :=
  if isSpace c then
    (.nothing, s)
  else if c = '\n' then
    (.nothing, { s with line := s.line + 1 })
  else if c = '/' then
    slash opened s
  else
    match lone? c with
    | some mark => emit opened s (.mark mark)
    | none =>
      match joinable? c with
      | some marks => join marks opened s
      | none =>
        if c = '"' then quote opened s
        else if Text.isDigit c then number opened s
        else if startsWord c then word opened s
        else (fault opened s.line (.unexpected (String.singleton c)), s)

/-! ## 4. The whole script -/

/-- What is left is an end of what was left before, for this loop and all that are made of it: a
scanner takes from the front and puts nothing back. -/
theorem left_takeAll (belongs : Char → Bool) (left : List Char) (taken line : Nat) :
    (takeAll belongs left taken line).left <:+ left := by
  fun_induction takeAll belongs left taken line with
  | case1 => exact List.suffix_rfl
  | case2 c rest taken line _ ih => exact ih.trans (List.suffix_cons c rest)
  | case3 => exact List.suffix_rfl

theorem left_takeText (left : List Char) (taken line : Nat) :
    (takeText left taken line).left <:+ left := by
  fun_induction takeText left taken line with
  | case1 => exact List.suffix_rfl
  | case2 => exact List.suffix_rfl
  | case3 c rest taken line _ ih => exact ih.trans (List.suffix_cons c rest)

theorem left_takeComment (left : List Char) (taken line : Nat) :
    (takeComment left taken line).2.left <:+ left := by
  fun_induction takeComment left taken line with
  | case1 => exact List.suffix_rfl
  | case2 rest => exact List.suffix_append ['*', '/'] rest
  | case3 c rest taken line _ ih => exact ih.trans (List.suffix_cons c rest)

theorem left_slash (opened s : Scanner) : (slash opened s).2.left <:+ s.left := by
  rw [slash]
  split
  · next rest found =>
    rw [found]
    exact (left_takeAll _ _ _ _).trans (List.suffix_cons _ rest)
  · next rest found =>
    rw [found]
    have later := left_takeComment rest (s.taken + 1) s.line
    split <;> next taken => rw [taken] at later; exact later.trans (List.suffix_cons _ rest)
  · exact List.suffix_rfl

theorem left_join (marks : Mark × Mark) (opened s : Scanner) :
    (join marks opened s).2.left <:+ s.left := by
  rw [join]
  split
  · next rest found => exact found ▸ List.suffix_cons _ rest
  · exact List.suffix_rfl

theorem left_quote (opened s : Scanner) : (quote opened s).2.left <:+ s.left := by
  have later := left_takeText s.left s.taken s.line
  rw [quote]
  split
  · exact later
  · next closing rest found =>
    rw [found] at later
    exact (List.suffix_cons closing rest).trans later

/-- A fraction may leave all as it is, when no digit follows the point. -/
theorem left_fraction (s : Scanner) : s.fraction.left <:+ s.left := by
  rw [fraction]
  split
  · next c rest found =>
    split
    · rw [found]
      exact (left_takeAll _ _ _ _).trans (List.suffix_cons _ _)
    · exact List.suffix_rfl
  · exact List.suffix_rfl

/-- A scanner never goes back. -/
theorem left_find (c : Char) (opened s : Scanner) : (find c opened s).2.left <:+ s.left := by
  unfold find
  split
  · exact List.suffix_rfl
  · split
    · exact List.suffix_rfl
    · split
      · exact left_slash opened s
      · split
        · exact List.suffix_rfl
        · split
          · exact left_join _ opened s
          · split
            · exact left_quote opened s
            · split
              · exact (left_fraction _).trans (left_takeAll _ _ _ _)
              · split
                · exact left_takeAll _ _ _ _
                · exact List.suffix_rfl

/-- Everything that a scanner finds, and where it stands at the end. -/
def run : Scanner → List Finding × Scanner
  | { left := [], taken, line } => ([], { left := [], taken, line })
  | { left := c :: rest, taken, line } =>
    let opened : Scanner := { left := c :: rest, taken, line }
    let found := find c opened (opened.ahead rest)
    let others := run found.2
    (found.1 :: others.1, others.2)
termination_by s => s.left.length
decreasing_by exact Nat.lt_succ_of_le (left_find c _ (ahead _ rest)).length_le

end Scanner

structure Scan where
  body : List Token
  finish : Token
  errors : List LexicalError

namespace Scan

def ofText (source : String) : Scan :=
  let cs := source.toList
  let (found, last) := Scanner.run { left := cs }
  { body := found.filterMap Finding.token?
    finish := { kind := .finish, lexeme := "", line := last.line, start := cs.length }
    errors := found.filterMap Finding.error? }

def tokens (s : Scan) : List Token := s.body ++ [s.finish]

end Scan

end Scriptlet
