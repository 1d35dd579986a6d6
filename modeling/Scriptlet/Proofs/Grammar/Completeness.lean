/-
Scriptlet.Proofs.Grammar.Completeness — every word that the grammar derives is
read, and read as its derivation says.

A word is read out of a longer list of tokens, so the statement is about a word
and what follows it. What follows must not go on with the word: after an
operand of `+` a `*` would, after an `if` without `else` that word would.
`Nonterminal.extends` names the kinds of token that would, for each
nonterminal, and `Stops` says that what follows starts with none of them.

`reads_tokens` goes by induction on the derivation. Its side conditions are
about first tokens only: the token that follows a part of a production stops
that part, which is where `tokens_eq_cons` comes in. A statement is read as soon as
its parts are, and but for an `if` without `else` whatever follows (`reads_ifElse`,
`reads_effect` and the like). For an expression and a repetition what follows
matters, so their productions keep the condition on it (`isRead_chain` and the like).
-/
import Scriptlet.Proofs.Grammar.Derivation
import Scriptlet.Proofs.Grammar.Rules

namespace Scriptlet.Grammar

/-! ## 1. How words start, and what goes on with them -/

/-- The kinds of the tokens that an expression without an operator before it
starts with. -/
def startsPrimary : Token.Kind → Bool
  | .number => true
  | .text => true
  | .keyword .trueWord => true
  | .keyword .falseWord => true
  | .keyword .nilWord => true
  | .identifier => true
  | .mark .leftParen => true
  | _ => false

def startsExpression (kind : Token.Kind) : Bool :=
  startsPrimary kind || kind = .mark .bang || kind = .mark .minus

def startsStatement (kind : Token.Kind) : Bool :=
  startsExpression kind || kind = .keyword .printWord || kind = .keyword .ifWord ||
    kind = .keyword .whileWord || kind = .mark .leftBrace

/-- The first token of a word, unless the word may be empty, has one of these kinds. -/
def Nonterminal.Starts : Nonterminal → Token.Kind → Prop
  | .declarations, kind => startsStatement kind ∨ kind = .keyword .varWord
  | .declaration, kind => startsStatement kind ∨ kind = .keyword .varWord
  | .statement, kind => startsStatement kind
  | .block, kind => kind = .mark .leftBrace
  | .expression, kind => startsExpression kind
  | .operand _, kind => startsExpression kind
  | .operations level, kind => ∃ op ∈ Operator.ofLevel level, op.kind = kind
  | .primary, kind => startsPrimary kind

/-- A token of one of these kinds after a word may go on with it. -/
def Nonterminal.Extends : Nonterminal → Token.Kind → Prop
  | .declarations, kind => kind ≠ .mark .rightBrace
  | .declaration, kind => kind = .keyword .elseWord
  | .statement, kind => kind = .keyword .elseWord
  | .block, _ => False
  | .expression, kind => kind = .mark .equal ∨ ∃ op : Operator, op.kind = kind
  | .operand level, kind => ∃ op : Operator, op.level < level ∧ op.kind = kind
  | .operations level, kind => ∃ op : Operator, op.level < level + 1 ∧ op.kind = kind
  | .primary, _ => False

/-- What follows a word does not go on with it. -/
def Nonterminal.Stops (n : Nonterminal) (rest : List Token) : Prop :=
  ∀ t ∈ rest.head?, ¬n.Extends t.kind

def Nonterminal.Nullable : Nonterminal → Prop
  | .declarations => True
  | .operations _ => True
  | _ => False

/-- A sign may stand at the beginning of an expression. -/
theorem startsExpression_kind (op : UnaryOp) : startsExpression op.kind = true := by
  cases op <;> rfl

/-- From the first token of a primary to that of an expression, and from there to that of a
statement. -/
theorem startsExpression_of_primary {kind : Token.Kind} (h : startsPrimary kind = true) :
    startsExpression kind = true := by
  rw [startsExpression, h]
  rfl

theorem startsStatement_of_expression {kind : Token.Kind} (h : startsExpression kind = true) :
    startsStatement kind = true := by
  rw [startsStatement, h]
  rfl

/-- How a word starts, production by production; only repetitions derive the empty word. -/
theorem tokens_eq_cons_or_nil {n : Nonterminal} (d : Derivation n) :
    (∃ t u, d.tokens = t :: u ∧ n.Starts t.kind) ∨ n.Nullable ∧ d.tokens = [] := by
  induction d with
  | noDeclaration => exact .inr ⟨trivial, rfl⟩
  | oneMore first others ih =>
    obtain ⟨t, u, word, starts⟩ | ⟨null, -⟩ := ih
    · exact .inl ⟨t, u ++ others.tokens, by rw [Derivation.tokens, word]; rfl, starts⟩
    · exact null.elim
  | declare keyword => exact .inl ⟨_, _, rfl, .inr keyword.property⟩
  | declareAs keyword => exact .inl ⟨_, _, rfl, .inr keyword.property⟩
  | statement s ih =>
    obtain ⟨t, u, word, starts⟩ | ⟨null, -⟩ := ih
    · exact .inl ⟨t, u, word, .inl starts⟩
    · exact null.elim
  | print keyword => exact .inl ⟨_, _, rfl, by rw [keyword.property]; rfl⟩
  | ifThen keyword => exact .inl ⟨_, _, rfl, by rw [keyword.property]; rfl⟩
  | ifElse keyword => exact .inl ⟨_, _, rfl, by rw [keyword.property]; rfl⟩
  | loop keyword => exact .inl ⟨_, _, rfl, by rw [keyword.property]; rfl⟩
  | nested b ih =>
    obtain ⟨t, u, word, starts⟩ | ⟨null, -⟩ := ih
    · exact .inl ⟨t, u, word, by rw [starts]; rfl⟩
    · exact null.elim
  | effect e semicolon ih =>
    obtain ⟨t, u, word, starts⟩ | ⟨null, -⟩ := ih
    · exact .inl ⟨t, u ++ [semicolon.val], by rw [Derivation.tokens, word]; rfl,
        startsStatement_of_expression starts⟩
    · exact null.elim
  | block opening => exact .inl ⟨_, _, rfl, opening.property⟩
  | assign name => exact .inl ⟨_, _, rfl, by rw [name.property]; rfl⟩
  | disjunction e ih => exact ih
  | chain first operations ih =>
    obtain ⟨t, u, word, starts⟩ | ⟨null, -⟩ := ih
    · exact .inl ⟨t, u ++ operations.tokens, by rw [Derivation.tokens, word]; rfl, starts⟩
    · exact null.elim
  | signed op sign =>
    exact .inl ⟨_, _, rfl, by rw [sign.property]; exact startsExpression_kind op⟩
  | primary e ih =>
    obtain ⟨t, u, word, starts⟩ | ⟨null, -⟩ := ih
    · exact .inl ⟨t, u, word, startsExpression_of_primary starts⟩
    · exact null.elim
  | noOperation => exact .inr ⟨trivial, rfl⟩
  | operation op mem sign => exact .inl ⟨_, _, rfl, op, mem, sign.property.symm⟩
  | numberLiteral t => exact .inl ⟨_, _, rfl, by rw [t.property]; rfl⟩
  | textLiteral t => exact .inl ⟨_, _, rfl, by rw [t.property]; rfl⟩
  | trueLiteral t => exact .inl ⟨_, _, rfl, by rw [t.property]; rfl⟩
  | falseLiteral t => exact .inl ⟨_, _, rfl, by rw [t.property]; rfl⟩
  | nilLiteral t => exact .inl ⟨_, _, rfl, by rw [t.property]; rfl⟩
  | reference t => exact .inl ⟨_, _, rfl, by rw [t.property]; rfl⟩
  | parentheses opening => exact .inl ⟨_, _, rfl, by rw [opening.property]; rfl⟩

/-- A word of a nonterminal that derives no empty word has a first token. -/
theorem tokens_eq_cons {n : Nonterminal} (d : Derivation n) (h : ¬n.Nullable) :
    ∃ t u, d.tokens = t :: u ∧ n.Starts t.kind := by
  obtain word | ⟨null, -⟩ := tokens_eq_cons_or_nil d
  · exact word
  · exact absurd null h

/-! ## 2. What stops a part of a production -/

/-- At the end of the tokens everything stops. -/
theorem stops_nil (n : Nonterminal) : n.Stops [] := by
  intro t mem
  simp at mem

theorem stops_cons {n : Nonterminal} {t : Token} {rest : List Token} :
    n.Stops (t :: rest) ↔ ¬n.Extends t.kind := by
  simp [Nonterminal.Stops]

/-- A sign that is no operator and no equals sign stops an expression. -/
theorem stops_expression {t : Token} (rest : List Token)
    (h : Operator.ofKind? t.kind = none) (h' : t.kind ≠ .mark .equal) :
    Nonterminal.expression.Stops (t :: rest) := by
  rw [stops_cons]
  rintro (equal | ⟨op, same⟩)
  · exact h' equal
  · rw [Operator.ofKind?_eq_some_iff.2 same] at h
    cases h

/-- The semicolon of a statement stops its expression. -/
theorem stops_expression_semicolon (t : TokenOf (.mark .semicolon)) (rest : List Token) :
    Nonterminal.expression.Stops (t.val :: rest) :=
  stops_expression rest (by rw [t.property]; rfl) (by rw [t.property]; decide)

theorem stops_expression_rightParen (t : TokenOf (.mark .rightParen)) (rest : List Token) :
    Nonterminal.expression.Stops (t.val :: rest) :=
  stops_expression rest (by rw [t.property]; rfl) (by rw [t.property]; decide)

/-- What stops an expression stops an operand of any level. -/
theorem Nonterminal.Stops.operand {rest : List Token} (stops : Nonterminal.expression.Stops rest)
    (level : Nat) : (Nonterminal.operand level).Stops rest := by
  rintro t head ⟨op, -, same⟩
  exact stops t head (.inr ⟨op, same⟩)

/-- An equals sign stops an operand of any level: it is no operator. -/
theorem stops_operand_equal (level : Nat) (t : TokenOf (.mark .equal)) (rest : List Token) :
    (Nonterminal.operand level).Stops (t.val :: rest) := by
  rw [stops_cons]
  rintro ⟨op, -, same⟩
  have found := Operator.ofKind?_eq_some_iff.2 same
  rw [t.property] at found
  cases found

/-- Two operators of different levels are written differently, so an operand
stops at the operators of its own level. -/
theorem stops_operand_operations {level : Nat} (operations : Derivation (.operations level))
    {rest : List Token} (stops : (Nonterminal.operations level).Stops rest) :
    (Nonterminal.operand level).Stops (operations.tokens ++ rest) := by
  obtain ⟨t, u, word, op, mem, sign⟩ | ⟨-, word⟩ := tokens_eq_cons_or_nil operations
  · rw [word, List.cons_append, stops_cons]
    rintro ⟨other, lower, same⟩
    have one : some other = some op := by
      rw [← Operator.ofKind?_eq_some_iff.2 same, ← Operator.ofKind?_eq_some_iff.2 sign]
    rw [Option.some.inj one, Operator.mem_ofLevel_iff.1 mem] at lower
    exact Nat.lt_irrefl level lower
  · rw [word, List.nil_append]
    rintro t head ⟨op, lower, same⟩
    exact stops t head ⟨op, Nat.lt_succ_of_lt lower, same⟩

/-- No declaration starts with `else`. -/
theorem stops_declaration_declarations (others : Derivation .declarations) {rest : List Token}
    (stops : Nonterminal.declarations.Stops rest) :
    Nonterminal.declaration.Stops (others.tokens ++ rest) := by
  obtain ⟨t, u, word, starts⟩ | ⟨-, word⟩ := tokens_eq_cons_or_nil others
  · rw [word, List.cons_append, stops_cons]
    intro isElse
    rw [isElse] at starts
    obtain starts | starts := starts <;> cases starts
  · rw [word, List.nil_append]
    intro t head isElse
    refine stops t head fun brace => ?_
    rw [isElse] at brace
    cases brace

/-! ## 3. What is read -/

/-- The rule for a nonterminal reads `ts` up to `rest`, as something that means
`m`. Declarations are read in two places: to the end of the script, and to the
brace that closes a block. -/
def Reads (finish : Token) : (n : Nonterminal) → List Token → n.Meaning → List Token → Prop
  | .declarations, ts, m, rest =>
    match rest with
    | [] => program finish ts = .ok m
    | closing :: after => (declarations finish ts).plain = .ok ((m, closing), after)
  | .declaration, ts, m, rest => (declaration finish ts).plain = .ok (m, rest)
  | .statement, ts, m, rest => (declaration finish ts).plain = .ok (m, rest)
  | .block, ts, m, rest => (block finish ts).plain = .ok (m, rest)
  | .expression, ts, m, rest => (expression finish ts).plain = .ok (m, rest)
  | .operand level, ts, m, rest => (ladder finish level ts).plain = .ok (m, rest)
  | .operations level, ts, m, rest =>
    ∀ left, Extended.plain (chain finish level left ts) = .ok (foldOperations left m, rest)
  | .primary, ts, m, rest => (unary finish ts).plain = .ok (m, rest)

variable {finish : Token}

@[simp] theorem Answer.andThen_ok {α β : Type} (value : α) (rest : List Token)
    (next : α → List Token → Except ParseError β) :
    Answer.andThen (.ok (value, rest)) next = next value rest := rfl

/-- A token of the kind that is wanted is taken. -/
theorem plain_expect_val {kind : Token.Kind} (wanted : Wanted) (t : TokenOf kind)
    (rest : List Token) :
    (expect finish kind wanted (t.val :: rest)).plain = .ok (t.val, rest) := by
  rw [plain_expect_cons, if_pos t.property]

/-- A declaration that starts like an expression is an expression statement. -/
theorem plain_declaration_expression {t : Token} (after : List Token)
    (starts : startsExpression t.kind = true) :
    (declaration finish (t :: after)).plain =
      (expressionStatement finish (t :: after)).plain := by
  rw [plain_declaration_cons]
  split <;> first | rfl | simp_all [startsExpression, startsPrimary]

/-- A token that starts an expression without an operator before it is no operator. -/
theorem plain_unary_primary {t : Token} (after : List Token)
    (starts : startsPrimary t.kind = true) :
    (unary finish (t :: after)).plain = (primary finish t after).plain := by
  rw [plain_unary_cons]
  split
  · next op found =>
    rw [← UnaryOp.ofKind?_eq_some_iff.1 found] at starts
    cases op <;> cases starts
  · rfl

/-- A condition is read in its parentheses when the expression between them is. -/
theorem plain_condition_tokens (keyword : Token) (opening : TokenOf (.mark .leftParen))
    {test : Expr} {ts : List Token} {closing : TokenOf (.mark .rightParen)} {rest : List Token}
    (read : (expression finish ts).plain = .ok (test, closing.val :: rest)) :
    (condition finish keyword (opening.val :: ts)).plain = .ok (test, rest) := by
  rw [plain_condition, plain_expect_val, Answer.andThen_ok, read, Answer.andThen_ok,
    plain_expect_val, Answer.andThen_ok]

theorem plain_declaration_var (keyword : TokenOf (.keyword .varWord)) (after : List Token) :
    (declaration finish (keyword.val :: after)).plain =
      (afterVar finish keyword.val after).plain := by
  rw [plain_declaration_cons, keyword.property]

theorem plain_block_tokens {opening : TokenOf (.mark .leftBrace)} {ts rest : List Token}
    {body : List Stmt} {closing : Token}
    (read : (declarations finish ts).plain = .ok ((body, closing), rest)) :
    (block finish (opening.val :: ts)).plain =
      .ok ({ opening := opening.val, body, closing }, rest) := by
  rw [plain_block, plain_expect_val, Answer.andThen_ok, read, Answer.andThen_ok]

/-- An `else` branch is read after a block exactly when that word follows. -/
theorem plain_elseBlock_absent {rest : List Token} (stops : Nonterminal.statement.Stops rest) :
    Extended.plain (elseBlock finish rest) = .ok (none, rest) := by
  cases rest with
  | nil => exact plain_elseBlock_nil
  | cons t after =>
    have other : t.kind ≠ .keyword .elseWord := stops_cons.1 stops
    rw [plain_elseBlock_cons, if_neg other]

/-- A repetition ends where no operator of its level follows. -/
theorem plain_chain_stop {level : Nat} {rest : List Token}
    (stops : (Nonterminal.operations level).Stops rest) (left : Expr) :
    Extended.plain (chain finish level left rest) = .ok (left, rest) := by
  cases rest with
  | nil => exact plain_chain_nil level left
  | cons t after =>
    have none : Operator.atLevel? level t.kind = none := by
      rw [Operator.atLevel?_eq_none_iff]
      intro op mem same
      have lower : op.level < level + 1 :=
        Nat.lt_succ_of_le (Nat.le_of_eq (Operator.mem_ofLevel_iff.1 mem))
      exact stops_cons.1 stops ⟨op, lower, same⟩
    rw [plain_chain_cons, none]

/-- What stops an operand of a level stops the operators below that level. -/
theorem Nonterminal.Stops.operations {level : Nat} {rest : List Token}
    (stops : (Nonterminal.operand (level + 1)).Stops rest) :
    (Nonterminal.operations level).Stops rest := stops

/-- What writes out a value starts an expression. -/
theorem startsPrimary_of_ofToken? {t : Token} {value : Value}
    (found : Value.ofToken? t = some value) : startsPrimary t.kind = true := by
  unfold Value.ofToken? at found
  split at found
  · next kind => rw [kind]; rfl
  · next kind => rw [kind]; rfl
  · next kind => rw [kind]; rfl
  · next kind => rw [kind]; rfl
  · next kind => rw [kind]; rfl
  · cases found

/-- A literal is one token, whatever follows it. -/
theorem plain_unary_literal {t : Token} {value : Value} (found : Value.ofToken? t = some value)
    (rest : List Token) : (unary finish (t :: rest)).plain = .ok (.literal value t, rest) := by
  rw [plain_unary_primary rest (startsPrimary_of_ofToken? found), plain_primary, found]

theorem plain_unary_reference (name : TokenOf .identifier) (rest : List Token) :
    (unary finish (name.val :: rest)).plain = .ok (.reference name.val.name name.val, rest) := by
  rw [plain_unary_primary rest (by rw [name.property]; rfl), plain_primary, Value.ofToken?,
    name.property]

/-- A lone name is an operand of every level. -/
theorem plain_ladder_reference (name : TokenOf .identifier) {level : Nat} {rest : List Token}
    (stops : (Nonterminal.operand level).Stops rest) :
    (ladder finish level (name.val :: rest)).plain =
      .ok (.reference name.val.name name.val, rest) := by
  induction level with
  | zero => rw [plain_ladder_zero, plain_unary_reference]
  | succ level ih =>
    have lower : (Nonterminal.operand level).Stops rest :=
      stops_operand_operations .noOperation stops
    rw [plain_ladder_succ, ih lower, Answer.andThen_ok, plain_chain_stop stops.operations]

/-- The word of the derivation is read as it says, up to whatever does not go on with it. -/
def Derivation.IsRead (finish : Token) {n : Nonterminal} (d : Derivation n) : Prop :=
  ∀ rest, n.Stops rest → Reads finish n (d.tokens ++ rest) d.tree rest

/-! ## 4. Statements

A statement is read if its parts are. Of what follows it only an `if` without `else` takes
notice. -/

/-- A name without an equals sign after it has no first value. -/
theorem reads_declare (keyword : TokenOf (.keyword .varWord)) (name : TokenOf .identifier)
    (semicolon : TokenOf (.mark .semicolon)) (rest : List Token) :
    (declaration finish ((Derivation.declare keyword name semicolon).tokens ++ rest)).plain =
      .ok (.declare keyword.val name.val.name name.val none semicolon.val, rest) := by
  have noEqual : semicolon.val.kind ≠ .mark .equal := by rw [semicolon.property]; decide
  show (declaration finish (keyword.val :: name.val :: semicolon.val :: rest)).plain = _
  rw [plain_declaration_var, plain_afterVar, plain_expect_val, Answer.andThen_ok,
    plain_firstValue_cons, if_neg noEqual, Answer.andThen_ok, plain_expect_val,
    Answer.andThen_ok]

theorem reads_declareAs (keyword : TokenOf (.keyword .varWord)) (name : TokenOf .identifier)
    (equals : TokenOf (.mark .equal)) {value : Derivation .expression}
    (isRead : value.IsRead finish) (semicolon : TokenOf (.mark .semicolon)) (rest : List Token) :
    (declaration finish
        ((Derivation.declareAs keyword name equals value semicolon).tokens ++ rest)).plain =
      .ok (.declare keyword.val name.val.name name.val (some value.tree) semicolon.val, rest) := by
  have read : (expression finish (value.tokens ++ semicolon.val :: rest)).plain =
      .ok (value.tree, semicolon.val :: rest) :=
    isRead _ (stops_expression_semicolon semicolon rest)
  show (declaration finish (keyword.val :: name.val :: equals.val ::
    (value.tokens ++ [semicolon.val] ++ rest))).plain = _
  rw [List.append_assoc, plain_declaration_var, plain_afterVar, plain_expect_val,
    Answer.andThen_ok, plain_firstValue_cons, if_pos equals.property, List.singleton_append,
    read, Answer.andThen_ok, Answer.andThen_ok, plain_expect_val, Answer.andThen_ok]

theorem reads_print (keyword : TokenOf (.keyword .printWord)) {e : Derivation .expression}
    (isRead : e.IsRead finish) (semicolon : TokenOf (.mark .semicolon)) (rest : List Token) :
    (declaration finish ((Derivation.print keyword e semicolon).tokens ++ rest)).plain =
      .ok (.print keyword.val e.tree semicolon.val, rest) := by
  have read : (expression finish (e.tokens ++ semicolon.val :: rest)).plain =
      .ok (e.tree, semicolon.val :: rest) := isRead _ (stops_expression_semicolon semicolon rest)
  show (declaration finish (keyword.val :: (e.tokens ++ [semicolon.val] ++ rest))).plain = _
  rw [List.append_assoc, plain_declaration_cons, keyword.property]
  show (afterPrint finish keyword.val (e.tokens ++ semicolon.val :: rest)).plain = _
  rw [plain_afterPrint, read, Answer.andThen_ok, plain_expect_val, Answer.andThen_ok]

/-- An `if` up to its block is read, and what comes after `else` as that is. -/
theorem reads_conditional (keyword : TokenOf (.keyword .ifWord))
    (opening : TokenOf (.mark .leftParen)) {condition : Derivation .expression}
    (testIsRead : condition.IsRead finish) (closing : TokenOf (.mark .rightParen))
    {thenBlock : Derivation .block} (thenIsRead : thenBlock.IsRead finish) {after rest : List Token}
    {otherwise : Option (Block Stmt)}
    (read : Extended.plain (elseBlock finish after) = .ok (otherwise, rest)) :
    (declaration finish (keyword.val :: opening.val ::
        (condition.tokens ++ closing.val :: (thenBlock.tokens ++ after)))).plain =
      .ok (conditional keyword.val condition.tree thenBlock.tree otherwise, rest) := by
  have readTest := plain_condition_tokens keyword.val opening
    (testIsRead _ (stops_expression_rightParen closing (thenBlock.tokens ++ after)))
  have readThen : (block finish (thenBlock.tokens ++ after)).plain =
      .ok (thenBlock.tree, after) := thenIsRead after (fun _ _ => id)
  rw [plain_declaration_cons, keyword.property]
  show ((Grammar.condition finish keyword.val (opening.val ::
    (condition.tokens ++ closing.val :: (thenBlock.tokens ++ after)))).plain.andThen _) = _
  rw [readTest, Answer.andThen_ok, readThen, Answer.andThen_ok, read, Answer.andThen_ok]

/-- Without an `else` after it the block is the last of the statement. -/
theorem reads_ifThen (keyword : TokenOf (.keyword .ifWord)) (opening : TokenOf (.mark .leftParen))
    {condition : Derivation .expression} (testIsRead : condition.IsRead finish)
    (closing : TokenOf (.mark .rightParen)) {thenBlock : Derivation .block}
    (thenIsRead : thenBlock.IsRead finish) {rest : List Token}
    (stops : Nonterminal.statement.Stops rest) :
    (declaration finish
        ((Derivation.ifThen keyword opening condition closing thenBlock).tokens ++ rest)).plain =
      .ok (.ifThen keyword.val condition.tree thenBlock.tree, rest) := by
  show (declaration finish (keyword.val :: opening.val ::
    (condition.tokens ++ closing.val :: thenBlock.tokens ++ rest))).plain = _
  rw [List.append_assoc]
  exact reads_conditional keyword opening testIsRead closing thenIsRead
    (plain_elseBlock_absent stops)

theorem reads_ifElse (keyword : TokenOf (.keyword .ifWord)) (opening : TokenOf (.mark .leftParen))
    {condition : Derivation .expression} (testIsRead : condition.IsRead finish)
    (closing : TokenOf (.mark .rightParen)) {thenBlock : Derivation .block}
    (thenIsRead : thenBlock.IsRead finish) (elseWord : TokenOf (.keyword .elseWord))
    {elseBlock : Derivation .block} (elseIsRead : elseBlock.IsRead finish) (rest : List Token) :
    (declaration finish ((Derivation.ifElse keyword opening condition closing thenBlock elseWord
        elseBlock).tokens ++ rest)).plain =
      .ok (.ifElse keyword.val condition.tree thenBlock.tree elseBlock.tree, rest) := by
  have readElse : (block finish (elseBlock.tokens ++ rest)).plain =
      .ok (elseBlock.tree, rest) := elseIsRead rest (fun _ _ => id)
  have read : Extended.plain (Grammar.elseBlock finish
      (elseWord.val :: (elseBlock.tokens ++ rest))) = .ok (some elseBlock.tree, rest) := by
    rw [plain_elseBlock_cons, if_pos elseWord.property, readElse, Answer.andThen_ok]
  show (declaration finish (keyword.val :: opening.val ::
    (condition.tokens ++ closing.val :: (thenBlock.tokens ++ elseWord.val :: elseBlock.tokens)
      ++ rest))).plain = _
  rw [List.append_assoc, List.cons_append, List.append_assoc]
  exact reads_conditional keyword opening testIsRead closing thenIsRead read

theorem reads_loop (keyword : TokenOf (.keyword .whileWord)) (opening : TokenOf (.mark .leftParen))
    {condition : Derivation .expression} (testIsRead : condition.IsRead finish)
    (closing : TokenOf (.mark .rightParen)) {body : Derivation .block}
    (bodyIsRead : body.IsRead finish) (rest : List Token) :
    (declaration finish
        ((Derivation.loop keyword opening condition closing body).tokens ++ rest)).plain =
      .ok (.loop keyword.val condition.tree body.tree, rest) := by
  have readTest := plain_condition_tokens keyword.val opening
    (testIsRead _ (stops_expression_rightParen closing (body.tokens ++ rest)))
  have readBody : (block finish (body.tokens ++ rest)).plain =
      .ok (body.tree, rest) := bodyIsRead rest (fun _ _ => id)
  show (declaration finish (keyword.val :: opening.val ::
    (condition.tokens ++ closing.val :: body.tokens ++ rest))).plain = _
  rw [List.append_assoc, plain_declaration_cons, keyword.property]
  show ((Grammar.condition finish keyword.val (opening.val ::
    (condition.tokens ++ closing.val :: (body.tokens ++ rest)))).plain.andThen _) = _
  rw [readTest, Answer.andThen_ok, readBody, Answer.andThen_ok]

theorem reads_nested {b : Derivation .block} (isRead : b.IsRead finish) (rest : List Token) :
    (declaration finish ((Derivation.nested b).tokens ++ rest)).plain =
      .ok (.block b.tree, rest) := by
  have read : (block finish (b.tokens ++ rest)).plain = .ok (b.tree, rest) :=
    isRead rest (fun _ _ => id)
  obtain ⟨t, u, word, starts⟩ := tokens_eq_cons b not_false
  have brace : t.kind = .mark .leftBrace := starts
  show (declaration finish (b.tokens ++ rest)).plain = _
  rw [word, List.cons_append] at read ⊢
  rw [plain_declaration_cons, brace]
  show ((block finish (t :: (u ++ rest))).plain.andThen _) = _
  rw [read, Answer.andThen_ok]

/-- An expression does not start like any other statement, so it is read as one. -/
theorem reads_effect {e : Derivation .expression} (isRead : e.IsRead finish)
    (semicolon : TokenOf (.mark .semicolon)) (rest : List Token) :
    (declaration finish ((Derivation.effect e semicolon).tokens ++ rest)).plain =
      .ok (.expr e.tree semicolon.val, rest) := by
  have read : (expression finish (e.tokens ++ semicolon.val :: rest)).plain =
      .ok (e.tree, semicolon.val :: rest) := isRead _ (stops_expression_semicolon semicolon rest)
  obtain ⟨t, u, word, starts⟩ := tokens_eq_cons e not_false
  show (declaration finish (e.tokens ++ [semicolon.val] ++ rest)).plain = _
  rw [List.append_assoc, List.singleton_append]
  rw [word, List.cons_append] at read ⊢
  rw [plain_declaration_expression _ starts, plain_expressionStatement, read,
    Answer.andThen_ok, plain_expect_val, Answer.andThen_ok]

/-! ## 5. Repetitions, and expressions -/

/-- Declarations end at the end of the script, and at a closing brace. -/
theorem isRead_noDeclaration : Derivation.noDeclaration.IsRead finish := by
  intro rest stops
  cases rest with
  | nil => exact program_nil
  | cons closing after =>
    have brace : closing.kind = .mark .rightBrace := Decidable.of_not_not (stops_cons.1 stops)
    show (declarations finish (closing :: after)).plain = _
    rw [plain_declarations_cons, if_pos brace]
    rfl

/-- No declaration starts with a closing brace, so none is taken for the end of its block. -/
theorem isRead_oneMore {first : Derivation .declaration} (firstIsRead : first.IsRead finish)
    {others : Derivation .declarations} (othersAreRead : others.IsRead finish) :
    (Derivation.oneMore first others).IsRead finish := by
  intro rest stops
  have readFirst : (declaration finish (first.tokens ++ (others.tokens ++ rest))).plain =
      .ok (first.tree, others.tokens ++ rest) :=
    firstIsRead _ (stops_declaration_declarations others stops)
  have readOthers := othersAreRead rest stops
  obtain ⟨t, u, word, starts⟩ := tokens_eq_cons first not_false
  have brace : t.kind ≠ .mark .rightBrace := by
    intro brace
    rw [brace] at starts
    obtain starts | starts := starts <;> cases starts
  rw [word, List.cons_append] at readFirst
  rw [Derivation.tokens, word, List.append_assoc, List.cons_append]
  cases rest with
  | nil =>
    show program finish _ = _
    rw [program_cons, readFirst, Answer.andThen_ok]
    rw [show program finish (others.tokens ++ []) = .ok others.tree from readOthers]
    rfl
  | cons closing after =>
    show (declarations finish _).plain = _
    rw [plain_declarations_cons, if_neg brace, readFirst, Answer.andThen_ok]
    rw [show (declarations finish (others.tokens ++ closing :: after)).plain =
      .ok ((others.tree, closing), after) from readOthers]
    rfl

/-- The closing brace ends the declarations, and belongs to the block. -/
theorem isRead_block (opening : TokenOf (.mark .leftBrace)) {body : Derivation .declarations}
    (bodyIsRead : body.IsRead finish) (closing : TokenOf (.mark .rightBrace)) :
    (Derivation.block opening body closing).IsRead finish := by
  intro rest _
  have read : (declarations finish (body.tokens ++ closing.val :: rest)).plain =
      .ok ((body.tree, closing.val), rest) :=
    bodyIsRead (closing.val :: rest) (stops_cons.2 (not_not_intro closing.property))
  show (Grammar.block finish (opening.val :: (body.tokens ++ [closing.val] ++ rest))).plain = _
  rw [List.append_assoc, List.singleton_append]
  exact plain_block_tokens read

/-- The target of an assignment is read as an operand at first, up to the equals sign. -/
theorem isRead_assign (name : TokenOf .identifier) (equals : TokenOf (.mark .equal))
    {value : Derivation .expression} (valueIsRead : value.IsRead finish) :
    (Derivation.assign name equals value).IsRead finish := by
  intro rest stops
  have read : (expression finish (value.tokens ++ rest)).plain = .ok (value.tree, rest) :=
    valueIsRead rest stops
  show (expression finish (name.val :: equals.val :: (value.tokens ++ rest))).plain = _
  rw [plain_expression, plain_ladder_reference name (stops_operand_equal _ equals _),
    Answer.andThen_ok]
  simp only [if_pos equals.property]
  rw [read, Answer.andThen_ok]
  rfl

/-- No equals sign follows, so what was read is not taken for a target. -/
theorem isRead_disjunction {e : Derivation (.operand 6)} (isRead : e.IsRead finish) :
    (Derivation.disjunction e).IsRead finish := by
  intro rest stops
  have read : (ladder finish Operator.levels (e.tokens ++ rest)).plain = .ok (e.tree, rest) :=
    isRead rest (stops.operand 6)
  show (expression finish (e.tokens ++ rest)).plain = _
  rw [plain_expression, read, Answer.andThen_ok]
  cases rest with
  | nil => rfl
  | cons t after =>
    have noEqual : t.kind ≠ .mark .equal := fun equal => stops_cons.1 stops (.inl equal)
    simp only [if_neg noEqual]
    rfl

/-- The first operand ends at the first operator of the level, and what ends the chain ends its
last operand. -/
theorem isRead_chain {level : Nat} {first : Derivation (.operand level)}
    (firstIsRead : first.IsRead finish) {operations : Derivation (.operations level)}
    (operationsAreRead : operations.IsRead finish) :
    (Derivation.chain first operations).IsRead finish := by
  intro rest stops
  have readFirst : (ladder finish level (first.tokens ++ (operations.tokens ++ rest))).plain =
      .ok (first.tree, operations.tokens ++ rest) :=
    firstIsRead _ (stops_operand_operations operations stops)
  have readOperations : Extended.plain (Grammar.chain finish level first.tree
      (operations.tokens ++ rest)) = .ok (foldOperations first.tree operations.tree, rest) :=
    operationsAreRead rest stops first.tree
  show (ladder finish (level + 1) (first.tokens ++ operations.tokens ++ rest)).plain = _
  rw [List.append_assoc, plain_ladder_succ, readFirst, Answer.andThen_ok, readOperations]
  rfl

/-- One more operation has joined its operand to those before when the others are read. -/
theorem isRead_operation {level : Nat} {op : Operator} (mem : op ∈ Operator.ofLevel level)
    (sign : TokenOf op.kind) {right : Derivation (.operand level)}
    (rightIsRead : right.IsRead finish) {others : Derivation (.operations level)}
    (othersAreRead : others.IsRead finish) :
    (Derivation.operation op mem sign right others).IsRead finish := by
  intro rest stops left
  have readRight : (ladder finish level (right.tokens ++ (others.tokens ++ rest))).plain =
      .ok (right.tree, others.tokens ++ rest) :=
    rightIsRead _ (stops_operand_operations others stops)
  have readOthers : Extended.plain (Grammar.chain finish level
      (op.join left sign.val right.tree) (others.tokens ++ rest)) =
        .ok (foldOperations (op.join left sign.val right.tree) others.tree, rest) :=
    othersAreRead rest stops _
  have found : Operator.atLevel? level sign.val.kind = some op :=
    Operator.atLevel?_eq_some_iff.2 ⟨mem, sign.property.symm⟩
  show Extended.plain (Grammar.chain finish level left
    (sign.val :: (right.tokens ++ others.tokens ++ rest))) = _
  rw [List.append_assoc, plain_chain_cons, found]
  simp only
  rw [readRight, Answer.andThen_ok, readOthers]
  rfl

theorem isRead_signed {op : UnaryOp} (sign : TokenOf op.kind) {operand : Derivation (.operand 0)}
    (isRead : operand.IsRead finish) : (Derivation.signed op sign operand).IsRead finish := by
  intro rest stops
  have read : (ladder finish 0 (operand.tokens ++ rest)).plain = .ok (operand.tree, rest) :=
    isRead rest stops
  rw [plain_ladder_zero] at read
  show (ladder finish 0 (sign.val :: (operand.tokens ++ rest))).plain = _
  rw [plain_ladder_zero, plain_unary_cons, UnaryOp.ofKind?_eq_some_iff.2 sign.property.symm]
  simp only
  rw [read, Answer.andThen_ok]
  rfl

theorem isRead_primary {e : Derivation .primary} (isRead : e.IsRead finish) :
    (Derivation.primary e).IsRead finish := by
  intro rest _
  have read : (unary finish (e.tokens ++ rest)).plain = .ok (e.tree, rest) :=
    isRead rest (fun _ _ => id)
  show (ladder finish 0 (e.tokens ++ rest)).plain = _
  rw [plain_ladder_zero, read]
  rfl

/-- Between parentheses anything may stand that is an expression. -/
theorem isRead_parentheses (opening : TokenOf (.mark .leftParen))
    {inner : Derivation .expression} (isRead : inner.IsRead finish)
    (closing : TokenOf (.mark .rightParen)) :
    (Derivation.parentheses opening inner closing).IsRead finish := by
  intro rest _
  have read : (expression finish (inner.tokens ++ closing.val :: rest)).plain =
      .ok (inner.tree, closing.val :: rest) := isRead _ (stops_expression_rightParen closing rest)
  show (unary finish (opening.val :: (inner.tokens ++ [closing.val] ++ rest))).plain = _
  rw [List.append_assoc, List.singleton_append,
    plain_unary_primary _ (by rw [opening.property]; rfl), plain_primary, Value.ofToken?,
    opening.property]
  simp only
  rw [read, Answer.andThen_ok, plain_expect_val, Answer.andThen_ok]
  rfl

/-! ## 6. Every word is read -/

/-- Every word that a nonterminal derives is read by its rule as its derivation
says, when nothing that follows goes on with it. -/
theorem reads_tokens {n : Nonterminal} (d : Derivation n) : d.IsRead finish := by
  induction d with
  | noDeclaration => exact isRead_noDeclaration
  | oneMore first others ihFirst ihOthers => exact isRead_oneMore ihFirst ihOthers
  | declare keyword name semicolon => exact fun rest _ => reads_declare keyword name semicolon rest
  | declareAs keyword name equals value semicolon ih =>
    exact fun rest _ => reads_declareAs keyword name equals ih semicolon rest
  | statement s ih => exact ih
  | print keyword e semicolon ih => exact fun rest _ => reads_print keyword ih semicolon rest
  | ifThen keyword opening condition closing thenBlock ihCondition ihThen =>
    exact fun rest stops => reads_ifThen keyword opening ihCondition closing ihThen stops
  | ifElse keyword opening condition closing thenBlock elseWord elseBlock ihCondition ihThen
      ihElse =>
    exact fun rest _ =>
      reads_ifElse keyword opening ihCondition closing ihThen elseWord ihElse rest
  | loop keyword opening condition closing body ihCondition ihBody =>
    exact fun rest _ => reads_loop keyword opening ihCondition closing ihBody rest
  | nested b ih => exact fun rest _ => reads_nested ih rest
  | effect e semicolon ih => exact fun rest _ => reads_effect ih semicolon rest
  | block opening body closing ih => exact isRead_block opening ih closing
  | assign name equals value ih => exact isRead_assign name equals ih
  | disjunction e ih => exact isRead_disjunction ih
  | chain first operations ihFirst ihOperations => exact isRead_chain ihFirst ihOperations
  | signed op sign operand ih => exact isRead_signed sign ih
  | primary e ih => exact isRead_primary ih
  | noOperation => exact fun rest stops left => plain_chain_stop stops left
  | operation op mem sign right others ihRight ihOthers =>
    exact isRead_operation mem sign ihRight ihOthers
  | numberLiteral t | textLiteral t | trueLiteral t | falseLiteral t | nilLiteral t =>
    exact fun rest _ => plain_unary_literal (by rw [Value.ofToken?, t.property]) rest
  | reference t => exact fun rest _ => plain_unary_reference t rest
  | parentheses opening inner closing ih => exact isRead_parentheses opening ih closing

end Scriptlet.Grammar
