/-
Scriptlet.Grammar.Expression — the grammar of expressions.

    expression := or ( "=" expression )?        a plain variable left of "="
    or         := and ( "or" and )*
    and        := equality ( "and" equality )*
    equality   := comparison ( ( "!=" | "==" ) comparison )*
    comparison := term ( ( ">" | ">=" | "<" | "<=" ) term )*
    term       := factor ( ( "-" | "+" ) factor )*
    factor     := unary ( ( "/" | "*" ) unary )*
    unary      := ( "!" | "-" ) unary | primary
    primary    := literal | name | "(" expression ")"

The six rules in the middle differ in nothing but their operators, so they are
one rule, `ladder`, that takes its level; `chain` is its repetition, which
folds to the left.

Each rule either reads a token or goes to a rule of a lower rank with all of
its tokens. The pair of the tokens left and the rank is what the recursion
counts down.

The limit that a host sets on how deep its calls may nest is left out of the
model: parentheses, signs and blocks are read however deep they nest.
-/
import Scriptlet.Grammar.Stream

namespace Scriptlet

inductive Operator
  | binary (op : BinaryOp)
  | logical (op : LogicalOp)
  deriving DecidableEq, Repr

namespace Operator

/-- How loosely an operator binds: the lower, the tighter. -/
def level : Operator → Nat
  | .binary (.arithmetic .multiply) => 0
  | .binary (.arithmetic .divide) => 0
  | .binary (.arithmetic .subtract) => 1
  | .binary .add => 1
  | .binary (.compare _) => 2
  | .binary .equal => 3
  | .binary .unequal => 3
  | .logical .both => 4
  | .logical .either => 5

/-- One more than the level of the operator that binds most loosely. -/
def levels : Nat := 6

def ofKind? : Token.Kind → Option Operator
  | .mark .star => some (.binary (.arithmetic .multiply))
  | .mark .slash => some (.binary (.arithmetic .divide))
  | .mark .minus => some (.binary (.arithmetic .subtract))
  | .mark .plus => some (.binary .add)
  | .mark .less => some (.binary (.compare .less))
  | .mark .lessEqual => some (.binary (.compare .lessEqual))
  | .mark .greater => some (.binary (.compare .greater))
  | .mark .greaterEqual => some (.binary (.compare .greaterEqual))
  | .mark .equalEqual => some (.binary .equal)
  | .mark .bangEqual => some (.binary .unequal)
  | .keyword .andWord => some (.logical .both)
  | .keyword .orWord => some (.logical .either)
  | _ => none

def atLevel? (level : Nat) (kind : Token.Kind) : Option Operator :=
  (ofKind? kind).filter fun op => op.level = level

def join : Operator → Expr → Token → Expr → Expr
  | .binary op, left, sign, right => .binary op left sign right
  | .logical op, left, sign, right => .logical op left sign right

end Operator

def UnaryOp.ofKind? : Token.Kind → Option UnaryOp
  | .mark .minus => some .negate
  | .mark .bang => some .invert
  | _ => none

/-- The value that a token writes out: what it carries, or what its word means. -/
def Value.ofToken? (t : Token) : Option Value :=
  match t.kind with
  | .number => some t.payload
  | .text => some t.payload
  | .keyword .trueWord => some (.boolean true)
  | .keyword .falseWord => some (.boolean false)
  | .keyword .nilWord => some .nil
  | _ => none

namespace Grammar

/-- What a repetition answers: it may have read nothing. -/
structure Extended (α : Type) (ts : List Token) where
  value : α
  rest : List Token
  noLonger : rest.length ≤ ts.length

def Extended.unread {α : Type} (value : α) (ts : List Token) : Extended α ts :=
  { value, rest := ts, noLonger := Nat.le_refl _ }

mutual

/-- An expression. A target is read like any other expression, and refused only
once the value right of its equals sign has been read. -/
def expression (finish : Token) (ts : List Token) : Reading Expr ts := do
  let left ← ladder finish Operator.levels ts
  match h : left.rest with
  | [] => pure left
  | equals :: after =>
    if equals.kind = .mark .equal then
      have : after.length < ts.length := by
        have := left.shorter
        simp only [h, List.length_cons] at this
        omega
      let right ← expression finish after
      match left.value with
      | .reference name token =>
        pure { value := .assign name token right.value, rest := right.rest,
               shorter := Nat.lt_trans right.shorter this }
      | target => throw (.target equals target)
    else
      pure left
termination_by (ts.length, Operator.levels + 2)

/-- Operands joined by the operators below a level. -/
def ladder (finish : Token) (level : Nat) (ts : List Token) : Reading Expr ts :=
  match level with
  | 0 => unary finish ts
  | level + 1 => do
    let first ← ladder finish level ts
    have := first.shorter
    let all ← chain finish level first.value first.rest
    pure { value := all.value, rest := all.rest,
           shorter := Nat.lt_of_le_of_lt all.noLonger first.shorter }
termination_by (ts.length, level + 1)

/-- The operators of a level with their right operands, as often as they follow. -/
def chain (finish : Token) (level : Nat) (left : Expr) (ts : List Token) :
    Except ParseError (Extended Expr ts) :=
  match ts with
  | [] => pure (.unread left [])
  | sign :: after =>
    match Operator.atLevel? level sign.kind with
    | none => pure (.unread left (sign :: after))
    | some op => do
      let right ← ladder finish level after
      have : right.rest.length < (sign :: after).length :=
        Nat.lt_succ_of_lt right.shorter
      let all ← chain finish level (op.join left sign right.value) right.rest
      pure { value := all.value, rest := all.rest,
             noLonger := Nat.le_trans all.noLonger (Nat.le_of_lt this) }
termination_by (ts.length, 0)

def unary (finish : Token) (ts : List Token) : Reading Expr ts :=
  match ts with
  | [] => .error (.unexpected finish .expression)
  | t :: after =>
    match UnaryOp.ofKind? t.kind with
    | some op => do
      let operand ← unary finish after
      pure { value := .unary op t operand.value, rest := operand.rest,
             shorter := Nat.lt_succ_of_lt operand.shorter }
    | none => primary finish t after
termination_by (ts.length, 0)

def primary (finish : Token) (t : Token) (after : List Token) : Reading Expr (t :: after) :=
  match Value.ofToken? t with
  | some value => pure { value := .literal value t, rest := after, shorter := by simp }
  | none =>
    match t.kind with
    | .identifier => pure { value := .reference t.name t, rest := after, shorter := by simp }
    | .mark .leftParen => do
      let inner ← expression finish after
      let closing ← expect finish (.mark .rightParen) .closingAfterExpression inner.rest
      pure { value := .grouping t inner.value closing.value, rest := closing.rest,
             shorter := Nat.lt_succ_of_lt (Nat.lt_trans closing.shorter inner.shorter) }
    | _ => throw (.unexpected t .expression)
termination_by (after.length, Operator.levels + 3)

end

end Grammar

def Expr.ofStream (stream : Stream) : Except ParseError Expr := do
  let parsed ← Grammar.expression stream.finish stream.body
  match parsed.rest with
  | [] => pure parsed.value
  | t :: _ => throw (.unexpected t .endOfInput)

end Scriptlet
