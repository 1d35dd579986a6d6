/-
Scriptlet.Proofs.Grammar.Unambiguity — no word has two derivations.

Every rule of the grammar is a function, and it reads each word that its
nonterminal derives, so a word and what follows it are cut in one way only
(`cut_tokens`), and the tree of the word is settled with the cut. Two
derivations of one word are then compared production by production, with one
lemma for each (`only_ifElse` and the like): the parts derive the same words,
and two different productions have different trees or different first tokens.
-/
import Scriptlet.Proofs.Grammar.Completeness

namespace Scriptlet.Grammar

/-! ## 1. How a word is cut -/

/-- Two kinds of one token are the same kind. -/
theorem TokenOf.kind_eq {kind kind' : Token.Kind} {t : TokenOf kind} {t' : TokenOf kind'}
    (same : t.val = t'.val) : kind = kind' := by
  rw [← t.property, same, t'.property]

theorem Reads.functional {n : Nonterminal} (single : ¬n.Nullable) {ts rest rest' : List Token}
    {m m' : n.Meaning} (read : Reads finish n ts m rest) (read' : Reads finish n ts m' rest') :
    m = m' ∧ rest = rest' := by
  cases n with
  | declarations => exact absurd trivial single
  | operations level => exact absurd trivial single
  | _ =>
    have same := read.symm.trans read'
    injection same with same
    exact Prod.mk.inj same

/-- A word and what follows it are cut in one way only, and the tree of the
word depends on nothing else. -/
theorem cut_tokens {n : Nonterminal} (d d' : Derivation n) (single : ¬n.Nullable)
    {rest rest' : List Token} (stops : n.Stops rest) (stops' : n.Stops rest')
    (same : d.tokens ++ rest = d'.tokens ++ rest') :
    d.tokens = d'.tokens ∧ d.tree = d'.tree ∧ rest = rest' := by
  let finish : Token := { kind := .finish, lexeme := "", line := 0, start := 0 }
  have read : Reads finish n (d.tokens ++ rest) d.tree rest := reads_tokens d rest stops
  have read' : Reads finish n (d.tokens ++ rest) d'.tree rest' := by
    rw [same]
    exact reads_tokens d' rest' stops'
  obtain ⟨tree, rfl⟩ := read.functional single read'
  exact ⟨List.append_cancel_right same, tree, rfl⟩

/-- The tree of a derivation depends on its word only. -/
theorem tree_eq_of_tokens_eq {n : Nonterminal} (d d' : Derivation n) (single : ¬n.Nullable)
    (same : d.tokens = d'.tokens) : d.tree = d'.tree :=
  (cut_tokens d d' single (stops_nil n) (stops_nil n) (by rw [same])).2.1

theorem tokens_ne_nil {n : Nonterminal} (d : Derivation n) (single : ¬n.Nullable) :
    d.tokens ≠ [] := by
  obtain ⟨t, u, word, -⟩ := tokens_eq_cons d single
  rw [word]
  exact List.cons_ne_nil t u

/-- One token in front, and the rest. -/
theorem cut_first {kind : Token.Kind} {t t' : TokenOf kind} {rest rest' : List Token}
    (same : t.val :: rest = t'.val :: rest') : t = t' ∧ rest = rest' := by
  obtain ⟨first, others⟩ := List.cons.inj same
  exact ⟨Subtype.ext first, others⟩

/-- One token at the end, and what is before it. -/
theorem cut_last {kind : Token.Kind} {t t' : TokenOf kind} {before before' : List Token}
    (same : before ++ [t.val] = before' ++ [t'.val]) : before = before' ∧ t = t' := by
  obtain ⟨others, last⟩ := List.append_inj' same rfl
  exact ⟨others, (cut_first last).1⟩

/-- A condition in its parentheses, and the rest. -/
theorem cut_condition {e e' : Derivation .expression}
    {opening opening' : TokenOf (.mark .leftParen)} {closing closing' : TokenOf (.mark .rightParen)}
    {rest rest' : List Token}
    (same : opening.val :: (e.tokens ++ closing.val :: rest) =
      opening'.val :: (e'.tokens ++ closing'.val :: rest')) :
    opening = opening' ∧ e.tokens = e'.tokens ∧ closing = closing' ∧ rest = rest' := by
  obtain ⟨first, same⟩ := cut_first same
  obtain ⟨word, -, same⟩ := cut_tokens e e' not_false
    (stops_expression_rightParen closing rest) (stops_expression_rightParen closing' rest') same
  obtain ⟨last, same⟩ := cut_first same
  exact ⟨first, word, last, same⟩

/-! ## 2. What tells the productions apart -/

/-- A name with an equals sign after it is no operand: an operand would end
before that sign. -/
theorem tokens_ne_assignment {level : Nat} (e : Derivation (.operand level))
    (name : TokenOf .identifier) (equals : TokenOf (.mark .equal)) (rest : List Token) :
    e.tokens ≠ name.val :: equals.val :: rest := by
  intro word
  let finish : Token := { kind := .finish, lexeme := "", line := 0, start := 0 }
  have read : (ladder finish level (e.tokens ++ [])).plain = .ok (e.tree, []) :=
    reads_tokens e [] (stops_nil _)
  rw [List.append_nil, word,
    plain_ladder_reference name (stops_operand_equal level equals rest)] at read
  injection read with read
  cases (Prod.mk.inj read).2

/-- With nothing after the operations, they stop the operand before them. -/
theorem stops_operand_tokens {level : Nat} (operations : Derivation (.operations level)) :
    (Nonterminal.operand level).Stops operations.tokens := by
  simpa using stops_operand_operations operations (stops_nil _)

/-- The next declaration stops the one before it. -/
theorem stops_declaration_tokens (others : Derivation .declarations) :
    Nonterminal.declaration.Stops others.tokens := by
  simpa using stops_declaration_declarations others (stops_nil _)

/-- No statement starts with `var`. -/
theorem tokens_ne_var (s : Derivation .statement) (keyword : TokenOf (.keyword .varWord))
    (rest : List Token) : s.tokens ≠ keyword.val :: rest := by
  intro word
  obtain ⟨t, u, word', starts⟩ := tokens_eq_cons s not_false
  have head : t = keyword.val := (List.cons.inj (word'.symm.trans word)).1
  have starts : startsStatement t.kind = true := starts
  rw [head, keyword.property] at starts
  cases starts

/-- No operand without a sign starts with the sign of an operator. -/
theorem tokens_ne_signed (e : Derivation .primary) {op : UnaryOp} (sign : TokenOf op.kind)
    (rest : List Token) : e.tokens ≠ sign.val :: rest := by
  intro word
  obtain ⟨t, u, word', starts⟩ := tokens_eq_cons e not_false
  have head : t = sign.val := (List.cons.inj (word'.symm.trans word)).1
  have starts : startsPrimary t.kind = true := starts
  rw [head, sign.property] at starts
  cases op <;> cases starts

/-- Two operators between operands are not written alike. -/
theorem Operator.eq_of_kind_eq {op op' : Operator} (same : op.kind = op'.kind) : op = op' := by
  have found := Operator.ofKind?_eq_some_iff.2 same
  rw [Operator.ofKind?_eq_some_iff.2 rfl] at found
  exact (Option.some.inj found).symm

/-- And so for two operators before an operand. -/
theorem UnaryOp.eq_of_kind_eq {op op' : UnaryOp} (same : op.kind = op'.kind) : op = op' := by
  cases op <;> cases op' <;> first | rfl | cases same

/-! ## 3. Production by production -/

/-- No other derivation derives the word. -/
def Derivation.Only {n : Nonterminal} (d : Derivation n) : Prop :=
  ∀ d' : Derivation n, d.tokens = d'.tokens → d = d'

theorem only_noDeclaration : Derivation.noDeclaration.Only
  | .noDeclaration, _ => rfl
  | .oneMore first _, same =>
    absurd (List.append_eq_nil_iff.1 same.symm).1 (tokens_ne_nil first not_false)

/-- The first declaration ends where no word of it can go on, so there is one place to cut. -/
theorem only_oneMore {first : Derivation .declaration} (onlyFirst : first.Only)
    {others : Derivation .declarations} (onlyOthers : others.Only) :
    (Derivation.oneMore first others).Only := by
  intro d' same
  cases d' with
  | noDeclaration =>
    exact absurd (List.append_eq_nil_iff.1 same).1 (tokens_ne_nil first not_false)
  | oneMore first' others' =>
    obtain ⟨one, -, more⟩ := cut_tokens first first' not_false
      (stops_declaration_tokens others) (stops_declaration_tokens others') same
    rw [onlyFirst first' one, onlyOthers others' more]

theorem only_declare (keyword : TokenOf (.keyword .varWord)) (name : TokenOf .identifier)
    (semicolon : TokenOf (.mark .semicolon)) :
    (Derivation.declare keyword name semicolon).Only := by
  intro d' same
  cases d' with
  | declare keyword' name' semicolon' =>
    obtain ⟨one, same⟩ := cut_first same
    obtain ⟨two, same⟩ := cut_first same
    obtain ⟨three, -⟩ := cut_first same
    rw [one, two, three]
  | declareAs keyword' name' equals' value' semicolon' =>
    obtain ⟨-, same⟩ := cut_first same
    obtain ⟨-, same⟩ := cut_first same
    cases TokenOf.kind_eq (List.cons.inj same).1
  | statement s' => exact absurd same.symm (tokens_ne_var s' keyword _)

/-- After the name comes an equals sign here, where a declaration without a value has its
semicolon. -/
theorem only_declareAs (keyword : TokenOf (.keyword .varWord)) (name : TokenOf .identifier)
    (equals : TokenOf (.mark .equal)) {value : Derivation .expression} (onlyValue : value.Only)
    (semicolon : TokenOf (.mark .semicolon)) :
    (Derivation.declareAs keyword name equals value semicolon).Only := by
  intro d' same
  cases d' with
  | declare keyword' name' semicolon' =>
    obtain ⟨-, same⟩ := cut_first same
    obtain ⟨-, same⟩ := cut_first same
    cases TokenOf.kind_eq (List.cons.inj same).1
  | declareAs keyword' name' equals' value' semicolon' =>
    obtain ⟨one, same⟩ := cut_first same
    obtain ⟨two, same⟩ := cut_first same
    obtain ⟨three, same⟩ := cut_first same
    obtain ⟨word, last⟩ := cut_last same
    rw [one, two, three, last, onlyValue value' word]
  | statement s' => exact absurd same.symm (tokens_ne_var s' keyword _)

/-- A statement never starts like a declaration. -/
theorem only_statement {s : Derivation .statement} (only : s.Only) :
    (Derivation.statement s).Only := by
  intro d' same
  cases d' with
  | declare keyword' => exact absurd same (tokens_ne_var s keyword' _)
  | declareAs keyword' => exact absurd same (tokens_ne_var s keyword' _)
  | statement s' => rw [only s' same]

theorem only_print (keyword : TokenOf (.keyword .printWord)) {e : Derivation .expression}
    (only : e.Only) (semicolon : TokenOf (.mark .semicolon)) :
    (Derivation.print keyword e semicolon).Only := by
  intro d' same
  have tree := tree_eq_of_tokens_eq _ d' not_false same
  cases d' with
  | print keyword' e' semicolon' =>
    obtain ⟨one, same⟩ := cut_first same
    obtain ⟨word, last⟩ := cut_last same
    rw [one, last, only e' word]
  | _ => cases tree

theorem only_ifThen (keyword : TokenOf (.keyword .ifWord)) (opening : TokenOf (.mark .leftParen))
    {condition : Derivation .expression} (onlyTest : condition.Only)
    (closing : TokenOf (.mark .rightParen)) {thenBlock : Derivation .block}
    (onlyThen : thenBlock.Only) :
    (Derivation.ifThen keyword opening condition closing thenBlock).Only := by
  intro d' same
  have tree := tree_eq_of_tokens_eq _ d' not_false same
  cases d' with
  | ifThen keyword' opening' condition' closing' thenBlock' =>
    obtain ⟨one, same⟩ := cut_first same
    obtain ⟨two, word, three, same⟩ := cut_condition same
    rw [one, two, three, onlyTest condition' word, onlyThen thenBlock' same]
  | _ => cases tree

/-- An `if` without `else` means another tree, so only the productions of one kind are left to
compare. -/
theorem only_ifElse (keyword : TokenOf (.keyword .ifWord)) (opening : TokenOf (.mark .leftParen))
    {condition : Derivation .expression} (onlyTest : condition.Only)
    (closing : TokenOf (.mark .rightParen)) {thenBlock : Derivation .block}
    (onlyThen : thenBlock.Only) (elseWord : TokenOf (.keyword .elseWord))
    {elseBlock : Derivation .block} (onlyElse : elseBlock.Only) :
    (Derivation.ifElse keyword opening condition closing thenBlock elseWord elseBlock).Only := by
  intro d' same
  have tree := tree_eq_of_tokens_eq _ d' not_false same
  cases d' with
  | ifElse keyword' opening' condition' closing' thenBlock' elseWord' elseBlock' =>
    obtain ⟨one, same⟩ := cut_first same
    obtain ⟨two, word, three, same⟩ := cut_condition same
    obtain ⟨thenWord, -, same⟩ := cut_tokens thenBlock thenBlock' not_false
      (fun _ _ => id) (fun _ _ => id) same
    obtain ⟨four, same⟩ := cut_first same
    rw [one, two, three, four, onlyTest condition' word, onlyThen thenBlock' thenWord,
      onlyElse elseBlock' same]
  | _ => cases tree

theorem only_loop (keyword : TokenOf (.keyword .whileWord)) (opening : TokenOf (.mark .leftParen))
    {condition : Derivation .expression} (onlyTest : condition.Only)
    (closing : TokenOf (.mark .rightParen)) {body : Derivation .block} (onlyBody : body.Only) :
    (Derivation.loop keyword opening condition closing body).Only := by
  intro d' same
  have tree := tree_eq_of_tokens_eq _ d' not_false same
  cases d' with
  | loop keyword' opening' condition' closing' body' =>
    obtain ⟨one, same⟩ := cut_first same
    obtain ⟨two, word, three, same⟩ := cut_condition same
    rw [one, two, three, onlyTest condition' word, onlyBody body' same]
  | _ => cases tree

theorem only_nested {b : Derivation .block} (only : b.Only) : (Derivation.nested b).Only := by
  intro d' same
  have tree := tree_eq_of_tokens_eq _ d' not_false same
  cases d' with
  | nested b' => rw [only b' same]
  | _ => cases tree

theorem only_effect {e : Derivation .expression} (only : e.Only)
    (semicolon : TokenOf (.mark .semicolon)) : (Derivation.effect e semicolon).Only := by
  intro d' same
  have tree := tree_eq_of_tokens_eq _ d' not_false same
  cases d' with
  | effect e' semicolon' =>
    obtain ⟨word, last⟩ := cut_last same
    rw [last, only e' word]
  | _ => cases tree

theorem only_block (opening : TokenOf (.mark .leftBrace)) {body : Derivation .declarations}
    (only : body.Only) (closing : TokenOf (.mark .rightBrace)) :
    (Derivation.block opening body closing).Only := by
  intro d' same
  cases d' with
  | block opening' body' closing' =>
    obtain ⟨one, same⟩ := cut_first same
    obtain ⟨word, last⟩ := cut_last same
    rw [one, last, only body' word]

/-- No operand has an equals sign behind its first name. -/
theorem only_assign (name : TokenOf .identifier) (equals : TokenOf (.mark .equal))
    {value : Derivation .expression} (only : value.Only) :
    (Derivation.assign name equals value).Only := by
  intro d' same
  cases d' with
  | assign name' equals' value' =>
    obtain ⟨one, same⟩ := cut_first same
    obtain ⟨two, word⟩ := cut_first same
    rw [one, two, only value' word]
  | disjunction e' => exact absurd same.symm (tokens_ne_assignment e' name equals _)

theorem only_disjunction {e : Derivation (.operand 6)} (only : e.Only) :
    (Derivation.disjunction e).Only := by
  intro d' same
  cases d' with
  | assign name' equals' value' => exact absurd same (tokens_ne_assignment e name' equals' _)
  | disjunction e' => rw [only e' same]

/-- Chains of one level are cut after the first operand, which is followed by an operator of the
level. -/
theorem only_chain {level : Nat} {first : Derivation (.operand level)} (onlyFirst : first.Only)
    {operations : Derivation (.operations level)} (onlyOperations : operations.Only) :
    (Derivation.chain first operations).Only := by
  intro d' same
  cases d' with
  | chain first' operations' =>
    obtain ⟨one, -, more⟩ := cut_tokens first first' not_false
      (stops_operand_tokens operations) (stops_operand_tokens operations') same
    rw [onlyFirst first' one, onlyOperations operations' more]

/-- Operators that are written alike are the same. -/
theorem only_operation {level : Nat} {op : Operator} (mem : op ∈ Operator.ofLevel level)
    (sign : TokenOf op.kind) {right : Derivation (.operand level)} (onlyRight : right.Only)
    {others : Derivation (.operations level)} (onlyOthers : others.Only) :
    (Derivation.operation op mem sign right others).Only := by
  intro d' same
  cases d' with
  | noOperation => cases same
  | operation op' mem' sign' right' others' =>
    obtain rfl := Operator.eq_of_kind_eq (TokenOf.kind_eq (List.cons.inj same).1)
    obtain ⟨one, same⟩ := cut_first same
    obtain ⟨word, -, more⟩ := cut_tokens right right' not_false
      (stops_operand_tokens others) (stops_operand_tokens others') same
    rw [one, onlyRight right' word, onlyOthers others' more]

theorem only_signed {op : UnaryOp} (sign : TokenOf op.kind) {operand : Derivation (.operand 0)}
    (only : operand.Only) : (Derivation.signed op sign operand).Only := by
  intro d' same
  cases d' with
  | signed op' sign' operand' =>
    obtain rfl := UnaryOp.eq_of_kind_eq (TokenOf.kind_eq (List.cons.inj same).1)
    obtain ⟨one, word⟩ := cut_first same
    rw [one, only operand' word]
  | primary e' => exact absurd same.symm (tokens_ne_signed e' sign _)

theorem only_primary {e : Derivation .primary} (only : e.Only) : (Derivation.primary e).Only := by
  intro d' same
  cases d' with
  | signed op' sign' operand' => exact absurd same (tokens_ne_signed e sign' _)
  | primary e' => rw [only e' same]

theorem only_parentheses (opening : TokenOf (.mark .leftParen)) {inner : Derivation .expression}
    (only : inner.Only) (closing : TokenOf (.mark .rightParen)) :
    (Derivation.parentheses opening inner closing).Only := by
  intro d' same
  cases d' with
  | parentheses opening' inner' closing' =>
    obtain ⟨one, same⟩ := cut_first same
    obtain ⟨word, last⟩ := cut_last same
    rw [one, last, only inner' word]
  | _ => cases TokenOf.kind_eq (List.cons.inj same).1

/-! ## 4. Every derivation -/

/-- A word has one derivation from a nonterminal at most. -/
theorem derivation_unique {n : Nonterminal} (d d' : Derivation n) (same : d.tokens = d'.tokens) :
    d = d' := by
  suffices only : d.Only from only d' same
  clear d' same
  induction d with
  | noDeclaration => exact only_noDeclaration
  | oneMore first others ihFirst ihOthers => exact only_oneMore ihFirst ihOthers
  | declare keyword name semicolon => exact only_declare keyword name semicolon
  | declareAs keyword name equals value semicolon ih =>
    exact only_declareAs keyword name equals ih semicolon
  | statement s ih => exact only_statement ih
  | print keyword e semicolon ih => exact only_print keyword ih semicolon
  | ifThen keyword opening condition closing thenBlock ihCondition ihThen =>
    exact only_ifThen keyword opening ihCondition closing ihThen
  | ifElse keyword opening condition closing thenBlock elseWord elseBlock ihCondition ihThen
      ihElse =>
    exact only_ifElse keyword opening ihCondition closing ihThen elseWord ihElse
  | loop keyword opening condition closing body ihCondition ihBody =>
    exact only_loop keyword opening ihCondition closing ihBody
  | nested b ih => exact only_nested ih
  | effect e semicolon ih => exact only_effect ih semicolon
  | block opening body closing ih => exact only_block opening ih closing
  | assign name equals value ih => exact only_assign name equals ih
  | disjunction e ih => exact only_disjunction ih
  | chain first operations ihFirst ihOperations => exact only_chain ihFirst ihOperations
  | signed op sign operand ih => exact only_signed sign ih
  | primary e ih => exact only_primary ih
  | noOperation =>
    intro d' same
    cases d' with
    | noOperation => rfl
    | operation => cases same
  | operation op mem sign right others ihRight ihOthers =>
    exact only_operation mem sign ihRight ihOthers
  | numberLiteral t | textLiteral t | trueLiteral t | falseLiteral t | nilLiteral t
  | reference t =>
    -- One token is all of the word, and the other productions start with another kind.
    intro d' same
    cases d' <;> first
      | exact congrArg _ (cut_first same).1
      | cases TokenOf.kind_eq (List.cons.inj same).1
  | parentheses opening inner closing ih => exact only_parentheses opening ih closing

end Scriptlet.Grammar
