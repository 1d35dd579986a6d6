/-
Scriptlet.Grammar.Stream — what the grammar reads, and how it refuses it.

A stream is the tokens before the first end marker, and that marker. The
grammar reads the tokens only; the marker is what it blames when it wants more
of them.

Every rule of the grammar that answers has read at least one token. `Parsed`
keeps the proof of that beside the answer, and the recursion of the grammar
rests on it.
-/
import Scriptlet.Tree

namespace Scriptlet

/-- The tokens of a script, and the marker of its end. -/
structure Stream where
  body : List Token
  finish : Token

namespace Stream

/-- The tokens before the first end marker, and that marker; `none` without one. -/
def splitAtFinish? : List Token → Option Stream
  | [] => none
  | t :: rest =>
    if t.isFinish then
      some { body := [], finish := t }
    else
      match splitAtFinish? rest with
      | some stream => some { stream with body := t :: stream.body }
      | none => none

/-- The stream of a list of tokens that ends with an end marker. What stands
between its first end marker and its last is never read. -/
def ofTokens? (tokens : List Token) : Option Stream :=
  match tokens.getLast? with
  | some last => if last.isFinish then splitAtFinish? tokens else none
  | none => none

/-- The complaint about a list of tokens that makes no stream. -/
def unterminated : String := "Token stream must end with " ++ Token.Kind.finish.name

end Stream

/-- What the grammar wanted where it found something else. -/
inductive Wanted
  | expression
  | variableName
  | semicolonAfterDeclaration
  | semicolonAfterExpression
  | semicolonAfterValue
  | blockStart
  | blockEnd
  | openingAfter (word : String)
  | closingAfterCondition
  | closingAfterExpression
  | endOfInput
  /-- Something that only the text describes. -/
  | other (text : String)
  deriving DecidableEq, Repr

def Wanted.text : Wanted → String
  | .expression => "an expression"
  | .variableName => "a variable name after 'var'"
  | .semicolonAfterDeclaration => "';' after variable declaration"
  | .semicolonAfterExpression => "';' after expression"
  | .semicolonAfterValue => "';' after value"
  | .blockStart => "'\x7b' to begin a block"
  | .blockEnd => "'\x7d' to close the block"
  | .openingAfter word => "'(' after '" ++ word ++ "'"
  | .closingAfterCondition => "')' after condition"
  | .closingAfterExpression => "')' after expression"
  | .endOfInput => "end of input"
  | .other text => text

/-- Why a stream is refused. -/
inductive ParseError
  /-- The token found cannot go on what stands before it. -/
  | unexpected (found : Token) (wanted : Wanted)
  /-- What stands left of an equals sign is not a plain variable. -/
  | target (equals : Token) (target : Expr)
  deriving DecidableEq

namespace ParseError

def token : ParseError → Token
  | .unexpected found _ => found
  | .target equals _ => equals

def message : ParseError → String
  | .unexpected found wanted =>
    let name := if found.isFinish then "end of input" else "'" ++ found.lexeme ++ "'"
    "Expected " ++ wanted.text ++ ", but found " ++ name ++ "."
  | .target _ _ => "Only a plain variable can be assigned to."

end ParseError

namespace Grammar

/-- What a rule of the grammar answers: what it has read, and the tokens it has
left, fewer than it was given. -/
structure Parsed (α : Type) (ts : List Token) where
  value : α
  rest : List Token
  shorter : rest.length < ts.length

abbrev Reading (α : Type) (ts : List Token) := Except ParseError (Parsed α ts)

def expect (finish : Token) (kind : Token.Kind) (wanted : Wanted) (ts : List Token) :
    Reading Token ts :=
  match ts with
  | [] => .error (.unexpected finish wanted)
  | t :: rest =>
    if t.kind = kind then
      .ok { value := t, rest, shorter := by simp }
    else
      .error (.unexpected t wanted)

end Grammar

end Scriptlet
