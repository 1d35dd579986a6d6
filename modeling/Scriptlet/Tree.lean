/-
Scriptlet.Tree — the phrases of a script.

Every node keeps the tokens it was made from, beside the meaning that the
grammar gave them: an operator next to its sign, a name next to its token. The
meaning is what a run looks at, the tokens are what a complaint points at.
-/
import Scriptlet.Token
import Scriptlet.Value.Operator

namespace Scriptlet

inductive Expr
  /-- A number, a text, a truth value or `nil`, written out. -/
  | literal (value : Value) (token : Token)
  /-- The value of a variable. -/
  | reference (name : String) (token : Token)
  /-- An expression in parentheses. -/
  | grouping (opening : Token) (inner : Expr) (closing : Token)
  /-- An operator before its operand. -/
  | unary (op : UnaryOp) (sign : Token) (operand : Expr)
  /-- An operator between its operands. -/
  | binary (op : BinaryOp) (left : Expr) (sign : Token) (right : Expr)
  /-- The words `and` and `or` between their operands. -/
  | logical (op : LogicalOp) (left : Expr) (sign : Token) (right : Expr)
  /-- A new value for a variable. -/
  | assign (name : String) (target : Token) (value : Expr)
  deriving DecidableEq

/-- Statements between braces. -/
structure Block (σ : Type) where
  opening : Token
  body : List σ
  closing : Token

inductive Stmt
  /-- An expression for its effect. -/
  | expr (e : Expr) (semicolon : Token)
  /-- The statement `print`. -/
  | print (keyword : Token) (e : Expr) (semicolon : Token)
  /-- A declaration, with or without a first value. -/
  | declare (keyword : Token) (name : String) (target : Token) (value : Option Expr)
      (semicolon : Token)
  /-- A block, with a scope of its own. -/
  | block (b : Block Stmt)
  /-- An `if` without `else`. -/
  | ifThen (keyword : Token) (condition : Expr) (thenBlock : Block Stmt)
  /-- An `if` with `else`. -/
  | ifElse (keyword : Token) (condition : Expr) (thenBlock elseBlock : Block Stmt)
  /-- The loop `while`. -/
  | loop (keyword : Token) (condition : Expr) (body : Block Stmt)

abbrev Program := List Stmt

namespace Expr

def leftmost : Expr → Token
  | .literal _ token => token
  | .reference _ token => token
  | .grouping opening _ _ => opening
  | .unary _ sign _ => sign
  | .binary _ left _ _ => left.leftmost
  | .logical _ left _ _ => left.leftmost
  | .assign _ target _ => target

def rightmost : Expr → Token
  | .literal _ token => token
  | .reference _ token => token
  | .grouping _ _ closing => closing
  | .unary _ _ operand => operand.rightmost
  | .binary _ _ _ right => right.rightmost
  | .logical _ _ _ right => right.rightmost
  | .assign _ _ value => value.rightmost

end Expr

namespace Stmt

def leftmost : Stmt → Token
  | .expr e _ => e.leftmost
  | .print keyword _ _ => keyword
  | .declare keyword _ _ _ _ => keyword
  | .block b => b.opening
  | .ifThen keyword _ _ => keyword
  | .ifElse keyword _ _ _ => keyword
  | .loop keyword _ _ => keyword

def rightmost : Stmt → Token
  | .expr _ semicolon => semicolon
  | .print _ _ semicolon => semicolon
  | .declare _ _ _ _ semicolon => semicolon
  | .block b => b.closing
  | .ifThen _ _ thenBlock => thenBlock.closing
  | .ifElse _ _ _ elseBlock => elseBlock.closing
  | .loop _ _ body => body.closing

end Stmt

/-- Anything in a script that can be blamed for something. -/
inductive Phrase
  | expr (e : Expr)
  | stmt (s : Stmt)

namespace Phrase

def leftmost : Phrase → Token
  | .expr e => e.leftmost
  | .stmt s => s.leftmost

def rightmost : Phrase → Token
  | .expr e => e.rightmost
  | .stmt s => s.rightmost

def line (p : Phrase) : Int := p.leftmost.line

def start (p : Phrase) : Nat := p.leftmost.start

def stop (p : Phrase) : Nat := p.rightmost.stop

end Phrase

end Scriptlet
