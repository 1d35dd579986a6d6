/-
Scriptlet.Proofs.Safety.Faithful — trees that mean what their tokens say.

A tree keeps, beside each token, the meaning that was read off it: an operator
beside its sign, a name or a value beside the token that carries it. In a tree
that the grammar made of the tokens of a scan the two agree at every node: the
grammar puts no sign but an operator's where an operator belongs, and a scan
gives each token what one of its kind carries.
-/
import Scriptlet.Proofs.Grammar.Derivation
import Scriptlet.Proofs.Safety.Nodes
import Scriptlet.Proofs.Lexical.Counting

namespace Scriptlet

/-! ## 1. The tokens of a scan -/

/-- The token carries what a token of its kind carries that is written so. -/
def Token.Scanned (t : Token) : Prop :=
  ∃ lexeme, t.lexeme = String.ofList lexeme ∧ t.payload = t.kind.payload lexeme

/-- The token is a name, and carries this one. -/
def Token.Names (t : Token) (name : String) : Prop :=
  t.kind = .identifier ∧ t.payload = .text name

def Token.Kind.valueKind? : Token.Kind → Option Value.Kind
  | .number => some .number
  | .text => some .text
  | .keyword .trueWord => some .boolean
  | .keyword .falseWord => some .boolean
  | .keyword .nilWord => some .nil
  | _ => none

theorem Scan.scanned_of_mem {source : String} {t : Token}
    (mem : t ∈ (Scan.ofText source).body) : t.Scanned := by
  obtain ⟨placed, -, found⟩ := Scan.mem_body.mp mem
  rw [Placed.token?] at found
  split at found
  · cases found
    exact ⟨_, rfl, rfl⟩
  · cases found

theorem Token.Scanned.names {t : Token} (scanned : t.Scanned) (identifier : t.kind = .identifier) :
    t.Names t.name := by
  obtain ⟨lexeme, -, payload⟩ := scanned
  rw [identifier] at payload
  refine ⟨identifier, ?_⟩
  rw [name, payload]
  rfl

/-- A literal has the kind of value that its token announces. -/
theorem Token.Scanned.valueKind? {t : Token} (scanned : t.Scanned) {value : Value}
    (written : Value.ofToken? t = some value) : t.kind.valueKind? = some value.kind := by
  obtain ⟨lexeme, -, payload⟩ := scanned
  rw [Value.ofToken?] at written
  split at written
  · next kind =>
    cases written
    rw [kind] at payload
    rw [kind, payload]
    rfl
  · next kind =>
    cases written
    rw [kind] at payload
    rw [kind, payload]
    rfl
  · next kind => cases written; rw [kind]; rfl
  · next kind => cases written; rw [kind]; rfl
  · next kind => cases written; rw [kind]; rfl
  · cases written

/-! ## 2. Nodes -/

/-- What the node means is what its tokens say. -/
def Phrase.Faithful : Phrase → Prop
  | .expr (.literal value token) =>
    Value.ofToken? token = some value ∧ token.kind.valueKind? = some value.kind
  | .expr (.reference name token) => token.Names name
  | .expr (.unary op sign _) => UnaryOp.ofKind? sign.kind = some op
  | .expr (.binary op _ sign _) => Operator.ofKind? sign.kind = some (.binary op)
  | .expr (.logical op _ sign _) => Operator.ofKind? sign.kind = some (.logical op)
  | .expr (.assign name target _) => target.Names name
  | .stmt (.declare _ name target _ _) => target.Names name
  | _ => True

def Faithful (nodes : List Phrase) : Prop := ∀ node ∈ nodes, node.Faithful

theorem faithful_cons {node : Phrase} {nodes : List Phrase} :
    Faithful (node :: nodes) ↔ node.Faithful ∧ Faithful nodes :=
  List.forall_mem_cons

theorem faithful_append {nodes others : List Phrase} :
    Faithful (nodes ++ others) ↔ Faithful nodes ∧ Faithful others :=
  List.forall_mem_append

/-! ## 3. Trees of derivations -/

namespace Grammar

/-- What a word of the nonterminal means is what its tokens say. -/
def Nonterminal.Faithful : (n : Nonterminal) → n.Meaning → Prop
  | .declarations, ss => Scriptlet.Faithful (Stmt.phrasesAll ss)
  | .declaration, s => Scriptlet.Faithful s.phrases
  | .statement, s => Scriptlet.Faithful s.phrases
  | .block, b => Scriptlet.Faithful (Stmt.phrases (.block b))
  | .expression, e => Scriptlet.Faithful e.phrases
  | .operand _, e => Scriptlet.Faithful e.phrases
  | .operations _, rounds =>
    ∀ operation ∈ rounds, Operator.ofKind? operation.2.1.kind = some operation.1 ∧
      Scriptlet.Faithful operation.2.2.phrases
  | .primary, e => Scriptlet.Faithful e.phrases

/-- An operator agrees with its sign, and its operands with theirs. -/
theorem faithful_join {op : Operator} {left right : Expr} {sign : Token}
    (faithfulLeft : Faithful left.phrases) (agrees : Operator.ofKind? sign.kind = some op)
    (faithfulRight : Faithful right.phrases) :
    Faithful (op.join left sign right).phrases := by
  cases op with
  | binary op =>
    rw [Operator.join, Expr.phrases_binary, faithful_cons, faithful_append]
    exact ⟨agrees, faithfulLeft, faithfulRight⟩
  | logical op =>
    rw [Operator.join, Expr.phrases_logical, faithful_cons, faithful_append]
    exact ⟨agrees, faithfulLeft, faithfulRight⟩

/-- Operation by operation, from the first operand on. -/
theorem faithful_foldOperations {level : Nat} {first : Expr}
    {operations : List (Operator × Token × Expr)} (faithfulFirst : Faithful first.phrases)
    (faithful : (Nonterminal.operations level).Faithful operations) :
    Faithful (foldOperations first operations).phrases := by
  induction operations generalizing first with
  | nil => exact faithfulFirst
  | cons operation others ih =>
    obtain ⟨⟨agrees, right⟩, faithful⟩ := List.forall_mem_cons.mp faithful
    exact ih (faithful_join faithfulFirst agrees right) faithful

/-- A literal agrees with the one token it is made of. -/
theorem faithful_literal {t : Token} (scanned : ∀ t' ∈ [t], t'.Scanned) {value : Value}
    (written : Value.ofToken? t = some value) : Faithful (Expr.literal value t).phrases := by
  have known : t.Scanned := scanned t List.mem_cons_self
  exact faithful_cons.mpr ⟨⟨written, known.valueKind? written⟩, List.forall_mem_nil _⟩

/-- A tree means what its tokens say if these carry what they say: production by production. -/
theorem faithful_tree {n : Nonterminal} (d : Derivation n) (scanned : ∀ t ∈ d.tokens, t.Scanned) :
    n.Faithful d.tree := by
  induction d with
  | noDeclaration => exact List.forall_mem_nil _
  | oneMore first others ihFirst ihOthers =>
    obtain ⟨inFirst, inOthers⟩ := List.forall_mem_append.mp scanned
    rw [Derivation.tree, Nonterminal.Faithful, Stmt.phrasesAll_cons, faithful_append]
    exact ⟨ihFirst inFirst, ihOthers inOthers⟩
  | declare keyword name semicolon =>
    have known : name.val.Scanned := scanned _ (List.mem_cons_of_mem _ List.mem_cons_self)
    exact faithful_cons.mpr ⟨known.names name.property, List.forall_mem_nil _⟩
  | declareAs keyword name equals value semicolon ih =>
    simp only [Derivation.tokens, List.forall_mem_cons, List.forall_mem_append] at scanned
    obtain ⟨-, known, -, inside, -⟩ := scanned
    rw [Derivation.tree, Nonterminal.Faithful, Stmt.phrases_declare, faithful_cons]
    exact ⟨known.names name.property, ih inside⟩
  | statement s ih => exact ih scanned
  | print keyword e semicolon ih =>
    simp only [Derivation.tokens, List.forall_mem_cons, List.forall_mem_append] at scanned
    rw [Derivation.tree, Nonterminal.Faithful, Stmt.phrases_print, faithful_cons]
    exact ⟨trivial, ih scanned.2.1⟩
  | ifThen keyword opening condition closing thenBlock ihCondition ihThen =>
    simp only [Derivation.tokens, List.forall_mem_cons, List.forall_mem_append] at scanned
    obtain ⟨-, -, inCondition, -, inThen⟩ := scanned
    rw [Derivation.tree, Nonterminal.Faithful, Stmt.phrases_ifThen, faithful_cons, faithful_append]
    exact ⟨trivial, ihCondition inCondition, ihThen inThen⟩
  | ifElse keyword opening condition closing thenBlock elseWord elseBlock ihCondition ihThen
      ihElse =>
    simp only [Derivation.tokens, List.forall_mem_cons, List.forall_mem_append] at scanned
    obtain ⟨-, -, inCondition, -, inThen, -, inElse⟩ := scanned
    rw [Derivation.tree, Nonterminal.Faithful, Stmt.phrases_ifElse, faithful_cons, faithful_append,
      faithful_append]
    exact ⟨trivial, ⟨ihCondition inCondition, ihThen inThen⟩, ihElse inElse⟩
  | loop keyword opening condition closing body ihCondition ihBody =>
    simp only [Derivation.tokens, List.forall_mem_cons, List.forall_mem_append] at scanned
    obtain ⟨-, -, inCondition, -, inBody⟩ := scanned
    rw [Derivation.tree, Nonterminal.Faithful, Stmt.phrases_loop, faithful_cons, faithful_append]
    exact ⟨trivial, ihCondition inCondition, ihBody inBody⟩
  | nested b ih => exact ih scanned
  | effect e semicolon ih =>
    obtain ⟨inside, -⟩ := List.forall_mem_append.mp scanned
    rw [Derivation.tree, Nonterminal.Faithful, Stmt.phrases_expr, faithful_cons]
    exact ⟨trivial, ih inside⟩
  | block opening body closing ih =>
    simp only [Derivation.tokens, List.forall_mem_cons, List.forall_mem_append] at scanned
    rw [Derivation.tree, Nonterminal.Faithful, Stmt.phrases_block, faithful_cons]
    exact ⟨trivial, ih scanned.2.1⟩
  | assign name equals value ih =>
    simp only [Derivation.tokens, List.forall_mem_cons] at scanned
    obtain ⟨known, -, inside⟩ := scanned
    rw [Derivation.tree, Nonterminal.Faithful, Expr.phrases_assign, faithful_cons]
    exact ⟨known.names name.property, ih inside⟩
  | disjunction e ih => exact ih scanned
  | chain first operations ihFirst ihOperations =>
    obtain ⟨inFirst, inOperations⟩ := List.forall_mem_append.mp scanned
    exact faithful_foldOperations (ihFirst inFirst) (ihOperations inOperations)
  | signed op sign operand ih =>
    obtain ⟨-, inside⟩ := List.forall_mem_cons.mp scanned
    rw [Derivation.tree, Nonterminal.Faithful, Expr.phrases_unary, faithful_cons]
    exact ⟨UnaryOp.ofKind?_eq_some_iff.mpr sign.property.symm, ih inside⟩
  | primary e ih => exact ih scanned
  | noOperation => exact List.forall_mem_nil _
  | operation op mem sign right others ihRight ihOthers =>
    simp only [Derivation.tokens, List.forall_mem_cons, List.forall_mem_append] at scanned
    obtain ⟨-, inRight, inOthers⟩ := scanned
    refine List.forall_mem_cons.mpr ⟨⟨?_, ihRight inRight⟩, ihOthers inOthers⟩
    exact Operator.ofKind?_eq_some_iff.mpr sign.property.symm
  | numberLiteral t => exact faithful_literal scanned (by rw [Value.ofToken?, t.property])
  | textLiteral t => exact faithful_literal scanned (by rw [Value.ofToken?, t.property])
  | trueLiteral t => exact faithful_literal scanned (by rw [Value.ofToken?, t.property])
  | falseLiteral t => exact faithful_literal scanned (by rw [Value.ofToken?, t.property])
  | nilLiteral t => exact faithful_literal scanned (by rw [Value.ofToken?, t.property])
  | reference t =>
    have known : t.val.Scanned := scanned _ List.mem_cons_self
    exact faithful_cons.mpr ⟨known.names t.property, List.forall_mem_nil _⟩
  | parentheses opening inner closing ih =>
    simp only [Derivation.tokens, List.forall_mem_cons, List.forall_mem_append] at scanned
    rw [Derivation.tree, Nonterminal.Faithful, Expr.phrases_grouping, faithful_cons]
    exact ⟨trivial, ih scanned.2.1⟩

end Grammar

end Scriptlet
