/-
Scriptlet.Proofs.Grammar.Mapped — the grammar does not look at the places of tokens.

A derivation asks of a token for its kind alone, and a tree takes from a token its
name and what it carries. So tokens may be exchanged for others that agree with
them in these (`Token.Keeps`): the derivation stays one, with the exchanged word
and the exchanged tree.
-/
import Scriptlet.Proofs.Grammar.Derivation

namespace Scriptlet

/-! ## 1. Trees with other tokens -/

/-- The expression with each of its tokens exchanged. -/
def Expr.mapTokens (f : Token → Token) : Expr → Expr
  | .literal value token => .literal value (f token)
  | .reference name token => .reference name (f token)
  | .grouping opening inner closing => .grouping (f opening) (inner.mapTokens f) (f closing)
  | .unary op sign operand => .unary op (f sign) (operand.mapTokens f)
  | .binary op left sign right => .binary op (left.mapTokens f) (f sign) (right.mapTokens f)
  | .logical op left sign right => .logical op (left.mapTokens f) (f sign) (right.mapTokens f)
  | .assign name target value => .assign name (f target) (value.mapTokens f)

mutual

def Stmt.mapTokens (f : Token → Token) : Stmt → Stmt
  | .expr e semicolon => .expr (e.mapTokens f) (f semicolon)
  | .print keyword e semicolon => .print (f keyword) (e.mapTokens f) (f semicolon)
  | .declare keyword name target value semicolon =>
    .declare (f keyword) name (f target) (value.map (Expr.mapTokens f)) (f semicolon)
  | .block b => .block (mapBlock f b)
  | .ifThen keyword condition thenBlock =>
    .ifThen (f keyword) (condition.mapTokens f) (mapBlock f thenBlock)
  | .ifElse keyword condition thenBlock elseBlock =>
    .ifElse (f keyword) (condition.mapTokens f) (mapBlock f thenBlock) (mapBlock f elseBlock)
  | .loop keyword condition body => .loop (f keyword) (condition.mapTokens f) (mapBlock f body)

def Stmt.mapBlock (f : Token → Token) : Block Stmt → Block Stmt
  | ⟨opening, body, closing⟩ => ⟨f opening, mapAll f body, f closing⟩

def Stmt.mapAll (f : Token → Token) : List Stmt → List Stmt
  | [] => []
  | s :: rest => s.mapTokens f :: mapAll f rest

end

def Phrase.mapTokens (f : Token → Token) : Phrase → Phrase
  | .expr e => .expr (e.mapTokens f)
  | .stmt s => .stmt (s.mapTokens f)

/-- The outermost tokens of a node are exchanged where they stand: the first one here, the last one
below. -/
theorem Expr.leftmost_mapTokens (f : Token → Token) (e : Expr) :
    (e.mapTokens f).leftmost = f e.leftmost := by
  induction e with
  | binary op left sign right ih ihRight => exact ih
  | logical op left sign right ih ihRight => exact ih
  | _ => rfl

theorem Expr.rightmost_mapTokens (f : Token → Token) (e : Expr) :
    (e.mapTokens f).rightmost = f e.rightmost := by
  induction e with
  | unary op sign operand ih => exact ih
  | binary op left sign right ihLeft ih => exact ih
  | logical op left sign right ihLeft ih => exact ih
  | assign name target value ih => exact ih
  | _ => rfl

theorem Stmt.braces_mapBlock (f : Token → Token) (b : Block Stmt) :
    (mapBlock f b).opening = f b.opening ∧ (mapBlock f b).closing = f b.closing := by
  cases b
  exact ⟨rfl, rfl⟩

/-- The first token of a node is the first one of the exchanged node. -/
theorem Phrase.leftmost_mapTokens (f : Token → Token) (node : Phrase) :
    (node.mapTokens f).leftmost = f node.leftmost := by
  cases node with
  | expr e => exact e.leftmost_mapTokens f
  | stmt s =>
    cases s with
    | expr e semicolon => exact e.leftmost_mapTokens f
    | block b => exact (Stmt.braces_mapBlock f b).1
    | _ => rfl

/-- The last token of a node is the last one of the exchanged node. -/
theorem Phrase.rightmost_mapTokens (f : Token → Token) (node : Phrase) :
    (node.mapTokens f).rightmost = f node.rightmost := by
  cases node with
  | expr e => exact e.rightmost_mapTokens f
  | stmt s =>
    cases s with
    | block b | ifThen _ _ b | ifElse _ _ _ b | loop _ _ b => exact (Stmt.braces_mapBlock f b).2
    | _ => rfl

/-- The exchange keeps all that the grammar looks at. -/
structure Token.Keeps (f : Token → Token) : Prop where
  kind : ∀ t, (f t).kind = t.kind
  payload : ∀ t, (f t).payload = t.payload
  lexeme : ∀ t, (f t).lexeme = t.lexeme

/-- A name is read off the kind and the payload. -/
theorem Token.Keeps.name {f : Token → Token} (keeps : Keeps f) (t : Token) :
    (f t).name = t.name := by
  rw [Token.name, Token.name, keeps.payload, keeps.lexeme]

namespace Grammar

/-! ## 2. Derivations with other tokens -/

def TokenOf.map {f : Token → Token} (keeps : Token.Keeps f) {kind : Token.Kind}
    (t : TokenOf kind) : TokenOf kind :=
  ⟨f t.val, (keeps.kind t.val).trans t.property⟩

def Derivation.map {f : Token → Token} (keeps : Token.Keeps f) :
    {n : Nonterminal} → Derivation n → Derivation n
  | _, .noDeclaration => .noDeclaration
  | _, .oneMore first others => .oneMore (first.map keeps) (others.map keeps)
  | _, .declare keyword name semicolon =>
    .declare (keyword.map keeps) (name.map keeps) (semicolon.map keeps)
  | _, .declareAs keyword name equals value semicolon =>
    .declareAs (keyword.map keeps) (name.map keeps) (equals.map keeps) (value.map keeps)
      (semicolon.map keeps)
  | _, .statement s => .statement (s.map keeps)
  | _, .print keyword e semicolon =>
    .print (keyword.map keeps) (e.map keeps) (semicolon.map keeps)
  | _, .ifThen keyword opening condition closing thenBlock =>
    .ifThen (keyword.map keeps) (opening.map keeps) (condition.map keeps) (closing.map keeps)
      (thenBlock.map keeps)
  | _, .ifElse keyword opening condition closing thenBlock elseWord elseBlock =>
    .ifElse (keyword.map keeps) (opening.map keeps) (condition.map keeps) (closing.map keeps)
      (thenBlock.map keeps) (elseWord.map keeps) (elseBlock.map keeps)
  | _, .loop keyword opening condition closing body =>
    .loop (keyword.map keeps) (opening.map keeps) (condition.map keeps) (closing.map keeps)
      (body.map keeps)
  | _, .nested b => .nested (b.map keeps)
  | _, .effect e semicolon => .effect (e.map keeps) (semicolon.map keeps)
  | _, .block opening body closing =>
    .block (opening.map keeps) (body.map keeps) (closing.map keeps)
  | _, .assign name equals value => .assign (name.map keeps) (equals.map keeps) (value.map keeps)
  | _, .disjunction e => .disjunction (e.map keeps)
  | _, .chain first operations => .chain (first.map keeps) (operations.map keeps)
  | _, .signed op sign operand => .signed op (sign.map keeps) (operand.map keeps)
  | _, .primary e => .primary (e.map keeps)
  | _, .noOperation => .noOperation
  | _, .operation op mem sign right others =>
    .operation op mem (sign.map keeps) (right.map keeps) (others.map keeps)
  | _, .numberLiteral t => .numberLiteral (t.map keeps)
  | _, .textLiteral t => .textLiteral (t.map keeps)
  | _, .trueLiteral t => .trueLiteral (t.map keeps)
  | _, .falseLiteral t => .falseLiteral (t.map keeps)
  | _, .nilLiteral t => .nilLiteral (t.map keeps)
  | _, .reference t => .reference (t.map keeps)
  | _, .parentheses opening inner closing =>
    .parentheses (opening.map keeps) (inner.map keeps) (closing.map keeps)

def Nonterminal.mapTokens (f : Token → Token) : (n : Nonterminal) → n.Meaning → n.Meaning
  | .declarations, ss => Stmt.mapAll f ss
  | .declaration, s => s.mapTokens f
  | .statement, s => s.mapTokens f
  | .block, b => Stmt.mapBlock f b
  | .expression, e => e.mapTokens f
  | .operand _, e => e.mapTokens f
  | .operations _, rounds => rounds.map fun (op, sign, right) => (op, f sign, right.mapTokens f)
  | .primary, e => e.mapTokens f

variable {f : Token → Token}

/-- An operator joins exchanged operands as it joins the operands. -/
theorem mapTokens_join (op : Operator) (left : Expr) (sign : Token) (right : Expr) :
    (op.join left sign right).mapTokens f =
      op.join (left.mapTokens f) (f sign) (right.mapTokens f) := by
  cases op <;> rfl

theorem mapTokens_foldOperations {level : Nat} (first : Expr)
    (operations : List (Operator × Token × Expr)) :
    (foldOperations first operations).mapTokens f =
      foldOperations (first.mapTokens f)
        ((Nonterminal.operations level).mapTokens f operations) := by
  induction operations generalizing first with
  | nil => rfl
  | cons operation others ih =>
    show (foldOperations (operation.1.join first operation.2.1 operation.2.2)
      others).mapTokens f = _
    rw [ih, mapTokens_join]
    rfl

variable (keeps : Token.Keeps f)

theorem TokenOf.val_map {kind : Token.Kind} (t : TokenOf kind) : (t.map keeps).val = f t.val := rfl

/-- The word of the exchanged derivation, token by token. -/
theorem tokens_map {n : Nonterminal} (d : Derivation n) :
    (d.map keeps).tokens = d.tokens.map f := by
  induction d <;>
    simp only [Derivation.map, Derivation.tokens, TokenOf.val_map, List.map_nil, List.map_cons,
      List.map_append, *]

/-- A tree is made of the tokens it is derived from, so exchanging these exchanges them in the
tree. -/
theorem tree_map {n : Nonterminal} (d : Derivation n) :
    (d.map keeps).tree = n.mapTokens f d.tree := by
  induction d with
  | chain first operations ihFirst ihOperations =>
    rw [Derivation.map, Derivation.tree, ihFirst, ihOperations]
    exact (mapTokens_foldOperations _ _).symm
  | _ =>
    simp only [Derivation.map, Derivation.tree, Nonterminal.mapTokens, Expr.mapTokens,
      Stmt.mapTokens, Stmt.mapBlock, Stmt.mapAll, TokenOf.val_map, keeps.name, keeps.payload,
      List.map_nil, List.map_cons, Option.map_none, Option.map_some, *]

end Grammar

end Scriptlet
