/-
Scriptlet.Proofs.Cursor.Reader — the grammar as it is read by position.

The rules of `Scriptlet.Grammar` take the tokens that are left and answer with fewer.
Here the same rules go along the whole list of tokens as it is handed in, end markers in
its middle included. A cursor says where the reading stands, and nothing but `advance`
moves it. The marker is a token like any other, except that `advance` stays there.

Nothing is promised in advance. The position may run out of the list, and then the reading
is `outside` of it. Rules call each other, and nothing here says that they come to an end:
each takes a bound on how deep they may nest, a further round of a repetition included, and
says so when that does not do. That neither happens is a theorem, with the depth that does,
and not part of the definition.
-/
import Scriptlet.Grammar.Statement

namespace Scriptlet

/-- Where a reading stands in the list of tokens, and where it has stood before. -/
structure Cursor where
  position : Nat
  past : List Nat
  deriving DecidableEq

namespace Cursor

def start : Cursor := { position := 0, past := [] }

def next (c : Cursor) : Cursor := { position := c.position + 1, past := c.position :: c.past }

end Cursor

/-- Why a reading ends without an answer. -/
inductive Halt
  /-- No token stands at the position. -/
  | outside
  /-- The rules nest deeper than they may. -/
  | tooDeep
  /-- The list is refused. -/
  | refused (e : ParseError)
  deriving DecidableEq

/-- A reading that moves a cursor. Wherever it ends, also without an answer, the cursor
stays. -/
abbrev Walk (α : Type) := ExceptT Halt (StateM Cursor) α

namespace Walk

def ending {α : Type} (m : Walk α) (c : Cursor) : Except Halt α × Cursor := m.run.run c

def outcome {α : Type} (m : Walk α) : Except Halt α := (m.ending .start).1

variable (tokens : List Token)

/-! ## 1. Tokens -/

def peek : Walk Token := do
  match tokens[(← get).position]? with
  | some t => pure t
  | none => throw .outside

/-- The token at the position, which is left behind unless it is an end marker. -/
def advance : Walk Token := do
  let t ← peek tokens
  unless t.isFinish do modify Cursor.next
  pure t

/-- The token at the position if it is of a kind that is asked for, with what it is then. -/
def accept {β : Type} (asked : Token.Kind → Option β) : Walk (Option (β × Token)) := do
  match asked (← peek tokens).kind with
  | some found => return some (found, ← advance tokens)
  | none => return none

def only (kind : Token.Kind) : Token.Kind → Option Unit :=
  fun found => if found = kind then some () else none

theorem only_of_eq {kind found : Token.Kind} (same : found = kind) : only kind found = some () :=
  if_pos same

theorem only_of_ne {kind found : Token.Kind} (other : found ≠ kind) : only kind found = none :=
  if_neg other

def demand (kind : Token.Kind) (wanted : Wanted) : Walk Token := do
  let t ← peek tokens
  if t.kind = kind then advance tokens else throw (.refused (.unexpected t wanted))

/-! ## 2. Expressions -/

mutual

def expression : (depth : Nat) → Walk Expr
  | 0 => throw .tooDeep
  | depth + 1 => do
    let left ← operand depth Operator.levels
    match ← accept tokens (only (.mark .equal)) with
    | none => pure left
    | some (_, equals) =>
      let value ← expression depth
      match left with
      | .reference name token => pure (.assign name token value)
      | target => throw (.refused (.target equals target))

def operand : (depth level : Nat) → Walk Expr
  | 0, _ => throw .tooDeep
  | depth + 1, 0 => unary depth
  | depth + 1, level + 1 => do
    let first ← operand depth level
    operations depth level first

def operations : (depth level : Nat) → Expr → Walk Expr
  | 0, _, _ => throw .tooDeep
  | depth + 1, level, left => do
    match ← accept tokens (Operator.atLevel? level) with
    | none => pure left
    | some (op, sign) =>
      let right ← operand depth level
      operations depth level (op.join left sign right)

def unary : (depth : Nat) → Walk Expr
  | 0 => throw .tooDeep
  | depth + 1 => do
    match ← accept tokens UnaryOp.ofKind? with
    | none => primary depth
    | some (op, sign) =>
      let operand ← unary depth
      pure (.unary op sign operand)

def primary : (depth : Nat) → Walk Expr
  | 0 => throw .tooDeep
  | depth + 1 => do
    let t ← peek tokens
    match Value.ofToken? t with
    | some value => return .literal value (← advance tokens)
    | none =>
      match t.kind with
      | .identifier =>
        let token ← advance tokens
        pure (.reference token.name token)
      | .mark .leftParen =>
        let opening ← advance tokens
        let inner ← expression depth
        let closing ← demand tokens (.mark .rightParen) .closingAfterExpression
        pure (.grouping opening inner closing)
      | _ => throw (.refused (.unexpected t .expression))

end

/-! ## 3. Statements -/

def firstValue (depth : Nat) : Walk (Option Expr) := do
  match ← accept tokens (only (.mark .equal)) with
  | none => pure none
  | some _ => return some (← expression tokens depth)

def afterVar (depth : Nat) (keyword : Token) : Walk Stmt := do
  let name ← demand tokens .identifier .variableName
  let value ← firstValue tokens depth
  let semicolon ← demand tokens (.mark .semicolon) .semicolonAfterDeclaration
  pure (.declare keyword name.name name value semicolon)

def printStatement (depth : Nat) : Walk Stmt := do
  let keyword ← advance tokens
  let e ← expression tokens depth
  let semicolon ← demand tokens (.mark .semicolon) .semicolonAfterValue
  pure (.print keyword e semicolon)

def expressionStatement (depth : Nat) : Walk Stmt := do
  let e ← expression tokens depth
  let semicolon ← demand tokens (.mark .semicolon) .semicolonAfterExpression
  pure (.expr e semicolon)

def condition (depth : Nat) (keyword : Token) : Walk Expr := do
  let _ ← demand tokens (.mark .leftParen) (.openingAfter keyword.lexeme)
  let e ← expression tokens depth
  let _ ← demand tokens (.mark .rightParen) .closingAfterCondition
  pure e

mutual

def declaration : (depth : Nat) → Walk Stmt
  | 0 => throw .tooDeep
  | depth + 1 => do
    match ← accept tokens (only (.keyword .varWord)) with
    | some (_, keyword) => afterVar tokens depth keyword
    | none => statement depth

def statement : (depth : Nat) → Walk Stmt
  | 0 => throw .tooDeep
  | depth + 1 => do
    match (← peek tokens).kind with
    | .keyword .printWord => printStatement tokens depth
    | .keyword .ifWord => ifStatement depth
    | .keyword .whileWord => whileStatement depth
    | .mark .leftBrace => return .block (← block depth)
    | _ => expressionStatement tokens depth

def ifStatement : (depth : Nat) → Walk Stmt
  | 0 => throw .tooDeep
  | depth + 1 => do
    let keyword ← advance tokens
    let test ← condition tokens depth keyword
    let thenBlock ← block depth
    match ← elseBlock depth with
    | none => pure (.ifThen keyword test thenBlock)
    | some other => pure (.ifElse keyword test thenBlock other)

def elseBlock : (depth : Nat) → Walk (Option (Block Stmt))
  | 0 => throw .tooDeep
  | depth + 1 => do
    match ← accept tokens (only (.keyword .elseWord)) with
    | none => pure none
    | some _ => return some (← block depth)

def whileStatement : (depth : Nat) → Walk Stmt
  | 0 => throw .tooDeep
  | depth + 1 => do
    let keyword ← advance tokens
    let test ← condition tokens depth keyword
    let body ← block depth
    pure (.loop keyword test body)

def block : (depth : Nat) → Walk (Block Stmt)
  | 0 => throw .tooDeep
  | depth + 1 => do
    let opening ← demand tokens (.mark .leftBrace) .blockStart
    let (body, closing) ← declarations depth
    pure { opening, body, closing }

def declarations : (depth : Nat) → Walk (List Stmt × Token)
  | 0 => throw .tooDeep
  | depth + 1 => do
    let t ← peek tokens
    if t.kind = .mark .rightBrace then
      return ([], ← advance tokens)
    else if t.isFinish then
      throw (.refused (.unexpected t .blockEnd))
    else
      let first ← declaration depth
      let (others, closing) ← declarations depth
      pure (first :: others, closing)

end

/-! ## 4. Whole lists -/

/-- Declarations up to an end marker. -/
def program : (depth : Nat) → Walk Program
  | 0 => throw .tooDeep
  | depth + 1 => do
    if (← peek tokens).isFinish then
      pure []
    else
      let first ← declaration tokens depth
      let others ← program depth
      pure (first :: others)

/-- An expression up to an end marker. -/
def wholeExpression (depth : Nat) : Walk Expr := do
  let e ← expression tokens depth
  let _ ← demand tokens .finish .endOfInput
  pure e

end Walk

end Scriptlet
