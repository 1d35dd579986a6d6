/-
Scriptlet.Proofs.Grammar.Derivation — what the grammar derives, said without
any reading.

    program     := declaration*
    declaration := "var" name ( "=" expression )? ";" | statement
    statement   := "print" expression ";"
                 | "if" "(" expression ")" block ( "else" block )?
                 | "while" "(" expression ")" block
                 | block
                 | expression ";"
    block       := "{" declaration* "}"
    expression  := name "=" expression | or
    or          := and ( "or" and )*
    and         := equality ( "and" equality )*
    equality    := comparison ( ( "!=" | "==" ) comparison )*
    comparison  := term ( ( ">" | ">=" | "<" | "<=" ) term )*
    term        := factor ( ( "-" | "+" ) factor )*
    factor      := unary ( ( "/" | "*" ) unary )*
    unary       := ( "!" | "-" ) unary | primary
    primary     := number | text | "true" | "false" | "nil" | name
                 | "(" expression ")"

`Derivation` has one constructor for each production, and a derivation holds
the tokens that it derives: a value of the type is a derivation, and there is
no other notion of one. `tokens` is the word that it derives, `tree` is what
the word means.

The names of the seven rules from `unary` up to `or` are `operand 0` to
`operand 6`: `operand level` is what the operators of `level` take on either
side, so `operand (level + 1)` is a chain of such operands. A repetition is a
nonterminal of its own, `declarations` or `operations level`, which derives
nothing or one more round.
-/
import Scriptlet.Grammar.Statement

namespace Scriptlet

/-! ## 1. The signs of the operators -/

/-- The operators of a level, from those that bind most tightly to `or`. -/
def Operator.ofLevel : Nat → List Operator
  | 0 => [.binary (.arithmetic .divide), .binary (.arithmetic .multiply)]
  | 1 => [.binary (.arithmetic .subtract), .binary .add]
  | 2 => [.binary (.compare .greater), .binary (.compare .greaterEqual),
      .binary (.compare .less), .binary (.compare .lessEqual)]
  | 3 => [.binary .unequal, .binary .equal]
  | 4 => [.logical .both]
  | 5 => [.logical .either]
  | _ => []

def Operator.kind : Operator → Token.Kind
  | .binary (.arithmetic .divide) => .mark .slash
  | .binary (.arithmetic .multiply) => .mark .star
  | .binary (.arithmetic .subtract) => .mark .minus
  | .binary .add => .mark .plus
  | .binary (.compare .greater) => .mark .greater
  | .binary (.compare .greaterEqual) => .mark .greaterEqual
  | .binary (.compare .less) => .mark .less
  | .binary (.compare .lessEqual) => .mark .lessEqual
  | .binary .unequal => .mark .bangEqual
  | .binary .equal => .mark .equalEqual
  | .logical .both => .keyword .andWord
  | .logical .either => .keyword .orWord

def UnaryOp.kind : UnaryOp → Token.Kind
  | .invert => .mark .bang
  | .negate => .mark .minus

/-- Each kind of token is one operator at most, and each operator has its kind. -/
theorem Operator.ofKind?_eq_some_iff {kind : Token.Kind} {op : Operator} :
    Operator.ofKind? kind = some op ↔ op.kind = kind := by
  constructor
  · intro h
    unfold Operator.ofKind? at h
    split at h <;> simp_all [Operator.kind]
    all_goals subst h; rfl
  · rintro rfl
    cases op with
    | binary op =>
      cases op with
      | arithmetic op => cases op <;> rfl
      | compare relation => cases relation <;> rfl
      | _ => rfl
    | logical op => cases op <;> rfl

/-- The list of a level holds the operators of that level, and these only. -/
theorem Operator.mem_ofLevel_iff {level : Nat} {op : Operator} :
    op ∈ Operator.ofLevel level ↔ op.level = level := by
  constructor
  · intro mem
    unfold Operator.ofLevel at mem
    split at mem <;> simp only [List.mem_cons, List.not_mem_nil, or_false] at mem
    · rcases mem with rfl | rfl <;> rfl
    · rcases mem with rfl | rfl <;> rfl
    · rcases mem with rfl | rfl | rfl | rfl <;> rfl
    · rcases mem with rfl | rfl <;> rfl
    · subst mem; rfl
    · subst mem; rfl
  · rintro rfl
    cases op with
    | binary op =>
      cases op with
      | arithmetic op => cases op <;> decide
      | compare relation => cases relation <;> decide
      | _ => decide
    | logical op => cases op <;> decide

/-- An operator is looked up by its level and its kind. -/
theorem Operator.atLevel?_eq_some_iff {level : Nat} {kind : Token.Kind} {op : Operator} :
    Operator.atLevel? level kind = some op ↔ op ∈ Operator.ofLevel level ∧ op.kind = kind := by
  rw [Operator.atLevel?, Option.filter_eq_some_iff, Operator.ofKind?_eq_some_iff,
    Operator.mem_ofLevel_iff, decide_eq_true_iff, and_comm]

/-- No operator of the level is written with this kind. -/
theorem Operator.atLevel?_eq_none_iff {level : Nat} {kind : Token.Kind} :
    Operator.atLevel? level kind = none ↔
      ∀ op ∈ Operator.ofLevel level, op.kind ≠ kind := by
  rw [Option.eq_none_iff_forall_ne_some]
  constructor
  · intro h op mem same
    exact h op (Operator.atLevel?_eq_some_iff.2 ⟨mem, same⟩)
  · intro h op found
    obtain ⟨mem, same⟩ := Operator.atLevel?_eq_some_iff.1 found
    exact h op mem same

theorem UnaryOp.ofKind?_eq_some_iff {kind : Token.Kind} {op : UnaryOp} :
    UnaryOp.ofKind? kind = some op ↔ op.kind = kind := by
  constructor
  · intro h
    unfold UnaryOp.ofKind? at h
    split at h <;> simp_all [UnaryOp.kind]
    all_goals subst h; rfl
  · rintro rfl
    cases op <;> rfl

namespace Grammar

/-! ## 2. Derivations -/

abbrev TokenOf (kind : Token.Kind) := { t : Token // t.kind = kind }

/-- What the grammar has rules for. -/
inductive Nonterminal
  /-- `declaration*`, which is all of a program, and the inside of a block. -/
  | declarations
  | declaration
  | statement
  | block
  | expression
  /-- An operand of the operators of a level: `unary`, …, `and`, and at last `or`. -/
  | operand (level : Nat)
  /-- Operators of a level, each with the operand right of it, as often as may be. -/
  | operations (level : Nat)
  | primary

/-- Derivations from a nonterminal, production by production. -/
inductive Derivation : Nonterminal → Type
  | noDeclaration : Derivation .declarations
  | oneMore (first : Derivation .declaration) (others : Derivation .declarations) :
      Derivation .declarations
  | declare (keyword : TokenOf (.keyword .varWord)) (name : TokenOf .identifier)
      (semicolon : TokenOf (.mark .semicolon)) : Derivation .declaration
  | declareAs (keyword : TokenOf (.keyword .varWord)) (name : TokenOf .identifier)
      (equals : TokenOf (.mark .equal)) (value : Derivation .expression)
      (semicolon : TokenOf (.mark .semicolon)) : Derivation .declaration
  | statement (s : Derivation .statement) : Derivation .declaration
  | print (keyword : TokenOf (.keyword .printWord)) (e : Derivation .expression)
      (semicolon : TokenOf (.mark .semicolon)) : Derivation .statement
  | ifThen (keyword : TokenOf (.keyword .ifWord)) (opening : TokenOf (.mark .leftParen))
      (condition : Derivation .expression) (closing : TokenOf (.mark .rightParen))
      (thenBlock : Derivation .block) : Derivation .statement
  | ifElse (keyword : TokenOf (.keyword .ifWord)) (opening : TokenOf (.mark .leftParen))
      (condition : Derivation .expression) (closing : TokenOf (.mark .rightParen))
      (thenBlock : Derivation .block) (elseWord : TokenOf (.keyword .elseWord))
      (elseBlock : Derivation .block) : Derivation .statement
  | loop (keyword : TokenOf (.keyword .whileWord)) (opening : TokenOf (.mark .leftParen))
      (condition : Derivation .expression) (closing : TokenOf (.mark .rightParen))
      (body : Derivation .block) : Derivation .statement
  | nested (b : Derivation .block) : Derivation .statement
  | effect (e : Derivation .expression) (semicolon : TokenOf (.mark .semicolon)) :
      Derivation .statement
  | block (opening : TokenOf (.mark .leftBrace)) (body : Derivation .declarations)
      (closing : TokenOf (.mark .rightBrace)) : Derivation .block
  | assign (name : TokenOf .identifier) (equals : TokenOf (.mark .equal))
      (value : Derivation .expression) : Derivation .expression
  | disjunction (e : Derivation (.operand 6)) : Derivation .expression
  | chain {level : Nat} (first : Derivation (.operand level))
      (operations : Derivation (.operations level)) : Derivation (.operand (level + 1))
  | signed (op : UnaryOp) (sign : TokenOf op.kind) (operand : Derivation (.operand 0)) :
      Derivation (.operand 0)
  | primary (e : Derivation .primary) : Derivation (.operand 0)
  | noOperation {level : Nat} : Derivation (.operations level)
  | operation {level : Nat} (op : Operator) (mem : op ∈ Operator.ofLevel level)
      (sign : TokenOf op.kind) (right : Derivation (.operand level))
      (others : Derivation (.operations level)) : Derivation (.operations level)
  | numberLiteral (t : TokenOf .number) : Derivation .primary
  | textLiteral (t : TokenOf .text) : Derivation .primary
  | trueLiteral (t : TokenOf (.keyword .trueWord)) : Derivation .primary
  | falseLiteral (t : TokenOf (.keyword .falseWord)) : Derivation .primary
  | nilLiteral (t : TokenOf (.keyword .nilWord)) : Derivation .primary
  | reference (t : TokenOf .identifier) : Derivation .primary
  | parentheses (opening : TokenOf (.mark .leftParen)) (inner : Derivation .expression)
      (closing : TokenOf (.mark .rightParen)) : Derivation .primary

/-! ## 3. What a derivation derives, and what it means -/

/-- What the words of a nonterminal mean. -/
abbrev Nonterminal.Meaning : Nonterminal → Type
  | .declarations => List Stmt
  | .declaration => Stmt
  | .statement => Stmt
  | .block => Block Stmt
  | .expression => Expr
  | .operand _ => Expr
  | .operations _ => List (Operator × Token × Expr)
  | .primary => Expr

/-- An operand with the operations that follow it, folded to the left. -/
def foldOperations (first : Expr) (operations : List (Operator × Token × Expr)) : Expr :=
  operations.foldl (fun left (op, sign, right) => op.join left sign right) first

namespace Derivation

def tokens : {n : Nonterminal} → Derivation n → List Token
  | _, .noDeclaration => []
  | _, .oneMore first others => first.tokens ++ others.tokens
  | _, .declare keyword name semicolon => [keyword.val, name.val, semicolon.val]
  | _, .declareAs keyword name equals value semicolon =>
    keyword.val :: name.val :: equals.val :: (value.tokens ++ [semicolon.val])
  | _, .statement s => s.tokens
  | _, .print keyword e semicolon => keyword.val :: (e.tokens ++ [semicolon.val])
  | _, .ifThen keyword opening condition closing thenBlock =>
    keyword.val :: opening.val :: (condition.tokens ++ closing.val :: thenBlock.tokens)
  | _, .ifElse keyword opening condition closing thenBlock elseWord elseBlock =>
    keyword.val :: opening.val ::
      (condition.tokens ++ closing.val ::
        (thenBlock.tokens ++ elseWord.val :: elseBlock.tokens))
  | _, .loop keyword opening condition closing body =>
    keyword.val :: opening.val :: (condition.tokens ++ closing.val :: body.tokens)
  | _, .nested b => b.tokens
  | _, .effect e semicolon => e.tokens ++ [semicolon.val]
  | _, .block opening body closing => opening.val :: (body.tokens ++ [closing.val])
  | _, .assign name equals value => name.val :: equals.val :: value.tokens
  | _, .disjunction e => e.tokens
  | _, .chain first operations => first.tokens ++ operations.tokens
  | _, .signed _ sign operand => sign.val :: operand.tokens
  | _, .primary e => e.tokens
  | _, .noOperation => []
  | _, .operation _ _ sign right others => sign.val :: (right.tokens ++ others.tokens)
  | _, .numberLiteral t => [t.val]
  | _, .textLiteral t => [t.val]
  | _, .trueLiteral t => [t.val]
  | _, .falseLiteral t => [t.val]
  | _, .nilLiteral t => [t.val]
  | _, .reference t => [t.val]
  | _, .parentheses opening inner closing => opening.val :: (inner.tokens ++ [closing.val])

/-- The tree of a derivation: repetitions are folded to the left, an assignment
nests to the right. -/
def tree : {n : Nonterminal} → Derivation n → n.Meaning
  | _, .noDeclaration => []
  | _, .oneMore first others => first.tree :: others.tree
  | _, .declare keyword name semicolon =>
    .declare keyword.val name.val.name name.val none semicolon.val
  | _, .declareAs keyword name _ value semicolon =>
    .declare keyword.val name.val.name name.val (some value.tree) semicolon.val
  | _, .statement s => s.tree
  | _, .print keyword e semicolon => .print keyword.val e.tree semicolon.val
  | _, .ifThen keyword _ condition _ thenBlock =>
    .ifThen keyword.val condition.tree thenBlock.tree
  | _, .ifElse keyword _ condition _ thenBlock _ elseBlock =>
    .ifElse keyword.val condition.tree thenBlock.tree elseBlock.tree
  | _, .loop keyword _ condition _ body => .loop keyword.val condition.tree body.tree
  | _, .nested b => .block b.tree
  | _, .effect e semicolon => .expr e.tree semicolon.val
  | _, .block opening body closing =>
    { opening := opening.val, body := body.tree, closing := closing.val }
  | _, .assign name _ value => .assign name.val.name name.val value.tree
  | _, .disjunction e => e.tree
  | _, .chain first operations => foldOperations first.tree operations.tree
  | _, .signed op sign operand => .unary op sign.val operand.tree
  | _, .primary e => e.tree
  | _, .noOperation => []
  | _, .operation op _ sign right others => (op, sign.val, right.tree) :: others.tree
  | _, .numberLiteral t => .literal t.val.payload t.val
  | _, .textLiteral t => .literal t.val.payload t.val
  | _, .trueLiteral t => .literal (.boolean true) t.val
  | _, .falseLiteral t => .literal (.boolean false) t.val
  | _, .nilLiteral t => .literal .nil t.val
  | _, .reference t => .reference t.val.name t.val
  | _, .parentheses opening inner closing => .grouping opening.val inner.tree closing.val

end Derivation

end Grammar

end Scriptlet
