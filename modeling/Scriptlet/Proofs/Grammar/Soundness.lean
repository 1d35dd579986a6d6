/-
Scriptlet.Proofs.Grammar.Soundness — whatever the grammar reads, it derives.

Each rule that answers has read the word of a derivation from its nonterminal,
and its answer is the tree of that derivation. The proof follows the rules: it
is one mutual recursion with their own measure, the tokens left and the rank of
the rule.

An assignment is the one rule that does not read what its production says. It
reads an operand first and takes it for the target when an equals sign follows,
so a lone name has to be recognised in the tree of an operand
(`reference_of_tree`).
-/
import Scriptlet.Proofs.Grammar.Derivation
import Scriptlet.Proofs.Grammar.Rules

namespace Scriptlet.Grammar

/-- From `n` a word is derived that means `m`, and `ts` is that word with `rest`
after it. -/
def Derives (n : Nonterminal) (ts : List Token) (m : n.Meaning) (rest : List Token) : Prop :=
  ∃ d : Derivation n, d.tokens ++ rest = ts ∧ d.tree = m

/-! ## 1. Answers taken apart -/

theorem Answer.andThen_eq_ok {α β : Type} {a : Answer α}
    {next : α → List Token → Except ParseError β} {b : β} (h : a.andThen next = .ok b) :
    ∃ value rest, a = .ok (value, rest) ∧ next value rest = .ok b := by
  cases a with
  | error e => cases h
  | ok answer => exact ⟨answer.1, answer.2, rfl, h⟩

/-- A token that was expected and found is of the kind, and stood in front. -/
theorem expect_eq_ok {finish : Token} {kind : Token.Kind} {wanted : Wanted} {ts : List Token}
    {t : Token} {rest : List Token} (read : (expect finish kind wanted ts).plain = .ok (t, rest)) :
    ∃ found : TokenOf kind, found.val = t ∧ ts = found.val :: rest := by
  cases ts with
  | nil => cases read
  | cons t' rest' =>
    rw [plain_expect_cons] at read
    split at read
    · next same =>
      injection read with read
      obtain ⟨rfl, rfl⟩ := Prod.mk.inj read
      exact ⟨⟨t', same⟩, rfl, rfl⟩
    · cases read

/-! ## 2. A lone name as an operand -/

/-- An operator makes no lone name of its operands. -/
theorem join_ne_reference (op : Operator) (left : Expr) (sign : Token) (right : Expr)
    (name : String) (token : Token) : op.join left sign right ≠ .reference name token := by
  cases op <;> exact Expr.noConfusion

/-- Operations make no name. -/
theorem foldOperations_eq_reference {operations : List (Operator × Token × Expr)} {first : Expr}
    {name : String} {token : Token}
    (h : foldOperations first operations = .reference name token) : operations = [] := by
  induction operations generalizing first with
  | nil => rfl
  | cons o others ih =>
    have none : others = [] := ih h
    rw [none] at h
    exact absurd h (join_ne_reference o.1 first o.2.1 o.2.2 name token)

/-- An operand that means a lone name is the token of that name, and no operator and no parentheses
stand beside it. -/
theorem reference_of_tree {level : Nat} (e : Derivation (.operand level)) {name : String}
    {token : Token} (h : e.tree = .reference name token) :
    ∃ t : TokenOf .identifier, e.tokens = [t.val] ∧ t.val.name = name ∧ t.val = token := by
  induction level with
  | zero =>
    cases e with
    | signed op sign operand => cases h
    | primary e =>
      cases e with
      | reference t =>
        injection h with same token
        exact ⟨t, rfl, same, token⟩
      | _ => cases h
  | succ level ih =>
    cases e with
    | chain first operations =>
      have none : operations.tree = [] := foldOperations_eq_reference h
      cases operations with
      | noOperation =>
        obtain ⟨t, word, same⟩ := ih first h
        refine ⟨t, ?_, same⟩
        show first.tokens ++ [] = _
        rw [word]
        rfl
      | operation => cases none

/-! ## 3. Expressions -/

theorem literal_derives {t : Token} {value : Value} (found : Value.ofToken? t = some value)
    (after : List Token) : Derives .primary (t :: after) (.literal value t) after := by
  unfold Value.ofToken? at found
  split at found
  · next kind => cases found; exact ⟨.numberLiteral ⟨t, kind⟩, rfl, rfl⟩
  · next kind => cases found; exact ⟨.textLiteral ⟨t, kind⟩, rfl, rfl⟩
  · next kind => cases found; exact ⟨.trueLiteral ⟨t, kind⟩, rfl, rfl⟩
  · next kind => cases found; exact ⟨.falseLiteral ⟨t, kind⟩, rfl, rfl⟩
  · next kind => cases found; exact ⟨.nilLiteral ⟨t, kind⟩, rfl, rfl⟩
  · cases found

variable {finish : Token}

mutual

/-- What is read as an expression is derived: with an equals sign behind it, what was read as an
operand is a lone name, and so the target of an assignment. -/
theorem expression_derives {ts rest : List Token} {e : Expr}
    (read : (expression finish ts).plain = .ok (e, rest)) : Derives .expression ts e rest := by
  rw [plain_expression] at read
  obtain ⟨left, mid, readLeft, read⟩ := Answer.andThen_eq_ok read
  have shorter := plain_shorter readLeft
  obtain ⟨d, word, tree⟩ := ladder_derives readLeft
  cases mid with
  | nil =>
    cases read
    exact ⟨.disjunction d, word, tree⟩
  | cons equals after =>
    have longer : after.length < ts.length := Nat.lt_of_succ_lt shorter
    simp only at read
    split at read
    · next equal =>
      obtain ⟨right, rest', readRight, read⟩ := Answer.andThen_eq_ok read
      obtain ⟨value, wordRight, treeRight⟩ := expression_derives readRight
      cases left with
      | reference name token =>
        cases read
        obtain ⟨t, lone, rfl, rfl⟩ := reference_of_tree d tree
        refine ⟨.assign t ⟨equals, equal⟩ value, ?_, by rw [Derivation.tree, treeRight]⟩
        rw [← word, lone, ← wordRight]
        rfl
      | _ => cases read
    · cases read
      exact ⟨.disjunction d, word, tree⟩
termination_by (ts.length, Operator.levels + 2)
decreasing_by all_goals (rw [Prod.lex_def]; omega)

theorem ladder_derives {level : Nat} {ts rest : List Token} {e : Expr}
    (read : (ladder finish level ts).plain = .ok (e, rest)) :
    Derives (.operand level) ts e rest := by
  cases level with
  | zero =>
    rw [plain_ladder_zero] at read
    exact unary_derives read
  | succ level =>
    rw [plain_ladder_succ] at read
    obtain ⟨first, mid, readFirst, read⟩ := Answer.andThen_eq_ok read
    have shorter := plain_shorter readFirst
    obtain ⟨d, word, rfl⟩ := ladder_derives readFirst
    obtain ⟨operations, wordOperations, tree⟩ := chain_derives read
    refine ⟨.chain d operations, ?_, tree⟩
    rw [← word, ← wordOperations, Derivation.tokens, List.append_assoc]
termination_by (ts.length, level + 1)
decreasing_by all_goals (rw [Prod.lex_def]; omega)

/-- A repetition derives the operations that were read, up to the operator at which it stopped. -/
theorem chain_derives {level : Nat} {left : Expr} {ts rest : List Token} {e : Expr}
    (read : Extended.plain (chain finish level left ts) = .ok (e, rest)) :
    ∃ d : Derivation (.operations level),
      d.tokens ++ rest = ts ∧ foldOperations left d.tree = e := by
  cases whole : ts with
  | nil =>
    rw [whole, plain_chain_nil] at read
    cases read
    exact ⟨.noOperation, rfl, rfl⟩
  | cons sign after =>
    have longer : ts.length = after.length + 1 := congrArg List.length whole
    rw [whole, plain_chain_cons] at read
    split at read
    · cases read
      exact ⟨.noOperation, rfl, rfl⟩
    · next op found =>
      obtain ⟨mem, kind⟩ := Operator.atLevel?_eq_some_iff.1 found
      obtain ⟨right, mid, readRight, read⟩ := Answer.andThen_eq_ok read
      have shorter := plain_shorter readRight
      obtain ⟨d, word, rfl⟩ := ladder_derives readRight
      obtain ⟨others, wordOthers, tree⟩ := chain_derives read
      refine ⟨.operation op mem ⟨sign, kind.symm⟩ d others, ?_, tree⟩
      rw [← word, ← wordOthers, Derivation.tokens, List.cons_append, List.append_assoc]
termination_by (ts.length, 0)
decreasing_by all_goals (rw [Prod.lex_def]; omega)

/-- The signs before an operand derive one after the other. -/
theorem unary_derives {ts rest : List Token} {e : Expr}
    (read : (unary finish ts).plain = .ok (e, rest)) : Derives (.operand 0) ts e rest := by
  cases whole : ts with
  | nil =>
    rw [whole, plain_unary_nil] at read
    cases read
  | cons t after =>
    have longer : ts.length = after.length + 1 := congrArg List.length whole
    rw [whole, plain_unary_cons] at read
    split at read
    · next op found =>
      obtain ⟨operand, mid, readOperand, read⟩ := Answer.andThen_eq_ok read
      cases read
      obtain ⟨d, word, tree⟩ := unary_derives readOperand
      have kind := UnaryOp.ofKind?_eq_some_iff.1 found
      refine ⟨.signed op ⟨t, kind.symm⟩ d, ?_, by rw [Derivation.tree, tree]⟩
      rw [← word]
      rfl
    · obtain ⟨d, word, tree⟩ := primary_derives read
      exact ⟨.primary d, word, tree⟩
termination_by (ts.length, 0)
decreasing_by all_goals (rw [Prod.lex_def]; omega)

theorem primary_derives {t : Token} {after rest : List Token} {e : Expr}
    (read : (primary finish t after).plain = .ok (e, rest)) :
    Derives .primary (t :: after) e rest := by
  rw [plain_primary] at read
  split at read
  · next value found =>
    cases read
    exact literal_derives found after
  · split at read
    · next kind =>
      cases read
      exact ⟨.reference ⟨t, kind⟩, rfl, rfl⟩
    · next kind =>
      obtain ⟨inner, mid, readInner, read⟩ := Answer.andThen_eq_ok read
      obtain ⟨closing, last, readClosing, read⟩ := Answer.andThen_eq_ok read
      cases read
      obtain ⟨d, word, rfl⟩ := expression_derives readInner
      obtain ⟨closing, rfl, rfl⟩ := expect_eq_ok readClosing
      refine ⟨.parentheses ⟨t, kind⟩ d closing, ?_, rfl⟩
      rw [← word, Derivation.tokens, List.cons_append, List.append_assoc]
      rfl
    · cases read
termination_by (after.length, Operator.levels + 3)
decreasing_by all_goals (rw [Prod.lex_def]; omega)

end

/-! ## 4. Statements -/

/-- The first value of a declared variable, with its equals sign, or nothing. -/
theorem firstValue_derives {ts rest : List Token} {value : Option Expr}
    (read : Extended.plain (firstValue finish ts) = .ok (value, rest)) :
    value = none ∧ rest = ts ∨
      ∃ (equals : TokenOf (.mark .equal)) (e : Derivation .expression),
        equals.val :: (e.tokens ++ rest) = ts ∧ value = some e.tree := by
  cases ts with
  | nil =>
    cases read
    exact .inl ⟨rfl, rfl⟩
  | cons t after =>
    rw [plain_firstValue_cons] at read
    split at read
    · next equal =>
      obtain ⟨e, mid, readValue, read⟩ := Answer.andThen_eq_ok read
      cases read
      obtain ⟨d, word, rfl⟩ := expression_derives readValue
      exact .inr ⟨⟨t, equal⟩, d, by rw [word], rfl⟩
    · cases read
      exact .inl ⟨rfl, rfl⟩

/-- With a first value or without one a declaration has its own production. -/
theorem afterVar_derives (keyword : TokenOf (.keyword .varWord)) {ts rest : List Token}
    {s : Stmt} (read : (afterVar finish keyword.val ts).plain = .ok (s, rest)) :
    Derives .declaration (keyword.val :: ts) s rest := by
  rw [plain_afterVar] at read
  obtain ⟨name, afterName, readName, read⟩ := Answer.andThen_eq_ok read
  obtain ⟨value, afterValue, readValue, read⟩ := Answer.andThen_eq_ok read
  obtain ⟨semicolon, last, readSemicolon, read⟩ := Answer.andThen_eq_ok read
  cases read
  obtain ⟨name, rfl, rfl⟩ := expect_eq_ok readName
  obtain ⟨semicolon, rfl, rfl⟩ := expect_eq_ok readSemicolon
  obtain ⟨rfl, rfl⟩ | ⟨equals, d, rfl, rfl⟩ := firstValue_derives readValue
  · exact ⟨.declare keyword name semicolon, rfl, rfl⟩
  · refine ⟨.declareAs keyword name equals d semicolon, ?_, rfl⟩
    simp [Derivation.tokens]

theorem afterPrint_derives (keyword : TokenOf (.keyword .printWord)) {ts rest : List Token}
    {s : Stmt} (read : (afterPrint finish keyword.val ts).plain = .ok (s, rest)) :
    Derives .statement (keyword.val :: ts) s rest := by
  rw [plain_afterPrint] at read
  obtain ⟨e, afterValue, readValue, read⟩ := Answer.andThen_eq_ok read
  obtain ⟨semicolon, last, readSemicolon, read⟩ := Answer.andThen_eq_ok read
  cases read
  obtain ⟨d, rfl, rfl⟩ := expression_derives readValue
  obtain ⟨semicolon, rfl, rfl⟩ := expect_eq_ok readSemicolon
  refine ⟨.print keyword d semicolon, ?_, rfl⟩
  simp [Derivation.tokens]

theorem expressionStatement_derives {ts rest : List Token} {s : Stmt}
    (read : (expressionStatement finish ts).plain = .ok (s, rest)) :
    Derives .statement ts s rest := by
  rw [plain_expressionStatement] at read
  obtain ⟨e, afterValue, readValue, read⟩ := Answer.andThen_eq_ok read
  obtain ⟨semicolon, last, readSemicolon, read⟩ := Answer.andThen_eq_ok read
  cases read
  obtain ⟨d, rfl, rfl⟩ := expression_derives readValue
  obtain ⟨semicolon, rfl, rfl⟩ := expect_eq_ok readSemicolon
  refine ⟨.effect d semicolon, ?_, rfl⟩
  simp [Derivation.tokens]

/-- A condition is an expression in parentheses. The tree keeps the expression only. -/
theorem condition_derives {keyword : Token} {ts rest : List Token} {test : Expr}
    (read : (condition finish keyword ts).plain = .ok (test, rest)) :
    ∃ (opening : TokenOf (.mark .leftParen)) (d : Derivation .expression)
      (closing : TokenOf (.mark .rightParen)),
      opening.val :: (d.tokens ++ closing.val :: rest) = ts ∧ d.tree = test := by
  rw [plain_condition] at read
  obtain ⟨opening, afterOpening, readOpening, read⟩ := Answer.andThen_eq_ok read
  obtain ⟨e, afterTest, readTest, read⟩ := Answer.andThen_eq_ok read
  obtain ⟨closing, last, readClosing, read⟩ := Answer.andThen_eq_ok read
  cases read
  obtain ⟨opening, rfl, rfl⟩ := expect_eq_ok readOpening
  obtain ⟨d, word, tree⟩ := expression_derives readTest
  obtain ⟨closing, rfl, rfl⟩ := expect_eq_ok readClosing
  exact ⟨opening, d, closing, by rw [word], tree⟩

mutual

/-- The first token has decided which production it is. -/
theorem declaration_derives {ts rest : List Token} {s : Stmt}
    (read : (declaration finish ts).plain = .ok (s, rest)) : Derives .declaration ts s rest := by
  cases whole : ts with
  | nil =>
    rw [whole, plain_declaration_nil] at read
    obtain ⟨d, word, tree⟩ := expressionStatement_derives read
    exact ⟨.statement d, word, tree⟩
  | cons t after =>
    have longer : ts.length = after.length + 1 := congrArg List.length whole
    rw [whole, plain_declaration_cons] at read
    split at read
    · next kind => exact afterVar_derives ⟨t, kind⟩ read
    · next kind =>
      obtain ⟨d, word, tree⟩ := afterPrint_derives ⟨t, kind⟩ read
      exact ⟨.statement d, word, tree⟩
    · next kind =>
      obtain ⟨test, afterTest, readTest, read⟩ := Answer.andThen_eq_ok read
      obtain ⟨thenBlock, afterThen, readThen, read⟩ := Answer.andThen_eq_ok read
      obtain ⟨otherwise, last, readElse, read⟩ := Answer.andThen_eq_ok read
      cases read
      have shorter := plain_shorter readTest
      have shorterThen := plain_shorter readThen
      obtain ⟨opening, condition, closing, wordTest, rfl⟩ := condition_derives readTest
      obtain ⟨thenD, wordThen, rfl⟩ := block_derives readThen
      obtain ⟨rfl, same⟩ | ⟨elseWord, elseD, wordElse, rfl⟩ := elseBlock_derives readElse
      · refine ⟨.statement (.ifThen ⟨t, kind⟩ opening condition closing thenD), ?_, rfl⟩
        simp [Derivation.tokens, same, wordThen, wordTest]
      · refine ⟨.statement (.ifElse ⟨t, kind⟩ opening condition closing thenD elseWord elseD),
          ?_, rfl⟩
        simp [Derivation.tokens, wordElse, wordThen, wordTest]
    · next kind =>
      obtain ⟨test, afterTest, readTest, read⟩ := Answer.andThen_eq_ok read
      obtain ⟨body, last, readBody, read⟩ := Answer.andThen_eq_ok read
      cases read
      have shorter := plain_shorter readTest
      obtain ⟨opening, condition, closing, wordTest, rfl⟩ := condition_derives readTest
      obtain ⟨bodyD, wordBody, rfl⟩ := block_derives readBody
      refine ⟨.statement (.loop ⟨t, kind⟩ opening condition closing bodyD), ?_, rfl⟩
      simp [Derivation.tokens, wordBody, wordTest]
    · obtain ⟨b, last, readBlock, read⟩ := Answer.andThen_eq_ok read
      rw [← whole] at readBlock ⊢
      obtain ⟨d, word, rfl⟩ := block_derives readBlock
      cases read
      exact ⟨.statement (.nested d), word, rfl⟩
    · obtain ⟨d, word, tree⟩ := expressionStatement_derives read
      exact ⟨.statement d, word, tree⟩
termination_by (ts.length, 1)
decreasing_by all_goals (rw [Prod.lex_def]; omega)

theorem block_derives {ts rest : List Token} {b : Block Stmt}
    (read : (block finish ts).plain = .ok (b, rest)) : Derives .block ts b rest := by
  rw [plain_block] at read
  obtain ⟨opening, afterOpening, readOpening, read⟩ := Answer.andThen_eq_ok read
  obtain ⟨inside, last, readInside, read⟩ := Answer.andThen_eq_ok read
  cases read
  have shorter := plain_shorter readOpening
  obtain ⟨body, closing, word, tree, closed⟩ := declarations_derives readInside
  obtain ⟨opening, rfl, same⟩ := expect_eq_ok readOpening
  refine ⟨.block opening body closing, ?_, by rw [Derivation.tree, tree, closed]⟩
  simp [Derivation.tokens, same, word]
termination_by (ts.length, 0)
decreasing_by all_goals (rw [Prod.lex_def]; omega)

/-- Declarations that were read in a block are derived, and the brace that ended them is no part of
them. -/
theorem declarations_derives {ts rest : List Token} {inside : List Stmt × Token}
    (read : (declarations finish ts).plain = .ok (inside, rest)) :
    ∃ (d : Derivation .declarations) (closing : TokenOf (.mark .rightBrace)),
      d.tokens ++ closing.val :: rest = ts ∧ d.tree = inside.1 ∧ closing.val = inside.2 := by
  cases whole : ts with
  | nil =>
    rw [whole, plain_declarations_nil] at read
    cases read
  | cons t after =>
    rw [whole, plain_declarations_cons] at read
    split at read
    · next brace =>
      cases read
      exact ⟨.noDeclaration, ⟨t, brace⟩, rfl, rfl, rfl⟩
    · obtain ⟨first, mid, readFirst, read⟩ := Answer.andThen_eq_ok read
      obtain ⟨others, last, readOthers, read⟩ := Answer.andThen_eq_ok read
      rw [← whole] at readFirst ⊢
      have shorter := plain_shorter readFirst
      obtain ⟨d, word, rfl⟩ := declaration_derives readFirst
      obtain ⟨more, closing, wordMore, tree, closed⟩ := declarations_derives readOthers
      cases read
      refine ⟨.oneMore d more, closing, ?_, by rw [Derivation.tree, tree], closed⟩
      rw [← word, ← wordMore, Derivation.tokens, List.append_assoc]
termination_by (ts.length, 2)
decreasing_by all_goals (rw [Prod.lex_def]; omega)

/-- What was read after a block is an `else` with another block, or nothing. -/
theorem elseBlock_derives {ts rest : List Token} {otherwise : Option (Block Stmt)}
    (read : Extended.plain (elseBlock finish ts) = .ok (otherwise, rest)) :
    otherwise = none ∧ rest = ts ∨
      ∃ (elseWord : TokenOf (.keyword .elseWord)) (d : Derivation .block),
        elseWord.val :: (d.tokens ++ rest) = ts ∧ otherwise = some d.tree := by
  cases whole : ts with
  | nil =>
    rw [whole, plain_elseBlock_nil] at read
    cases read
    exact .inl ⟨rfl, rfl⟩
  | cons t after =>
    have longer : ts.length = after.length + 1 := congrArg List.length whole
    rw [whole, plain_elseBlock_cons] at read
    split at read
    · next kind =>
      obtain ⟨b, last, readBlock, read⟩ := Answer.andThen_eq_ok read
      cases read
      obtain ⟨d, word, rfl⟩ := block_derives readBlock
      exact .inr ⟨⟨t, kind⟩, d, by rw [word], rfl⟩
    · cases read
      exact .inl ⟨rfl, rfl⟩
termination_by (ts.length, 0)
decreasing_by all_goals (rw [Prod.lex_def]; omega)

end

/-- A program that is read to its end is derived. -/
theorem program_derives {ts : List Token} {p : Program} (read : program finish ts = .ok p) :
    ∃ d : Derivation .declarations, d.tokens = ts ∧ d.tree = p := by
  cases ts with
  | nil =>
    rw [program_nil] at read
    cases read
    exact ⟨.noDeclaration, rfl, rfl⟩
  | cons t after =>
    rw [program_cons] at read
    obtain ⟨first, rest, readFirst, read⟩ := Answer.andThen_eq_ok read
    have shorter := plain_shorter readFirst
    obtain ⟨d, word, rfl⟩ := declaration_derives readFirst
    split at read
    · next others readOthers =>
      cases read
      obtain ⟨more, rfl, rfl⟩ := program_derives readOthers
      exact ⟨.oneMore d more, word, rfl⟩
    · cases read
termination_by ts.length

end Scriptlet.Grammar
