/-
Scriptlet.Proofs.Grammar.Inversion — the nodes of a derived tree, one by one.

A node is made of tokens and of other nodes, and `Phrase.Made` says which, with one
case for each kind of node: it is the grammar read from the tree, with the levels
of the operators left out. They may be left out since an operand of any level is an
expression as it stands (`read_operand`): the levels above it add no tokens, and
nothing to the tree.

The chains of operations are the only place where the tree does not have the shape
of the derivation. There the last operation is the node, and all before it is its
left operand, so the operations are taken apart from the end (`operations_snoc`).
-/
import Scriptlet.Proofs.Grammar.Derivation

namespace Scriptlet

open Grammar

/-! ## 1. Nodes and their tokens -/

/-- The node is what the tokens are read as, on their own. -/
def Phrase.ReadFrom : Phrase → List Token → Prop
  | .expr e, ts => ∃ d : Derivation .expression, d.tokens = ts ∧ d.tree = e
  | .stmt s, ts => ∃ d : Derivation .declaration, d.tokens = ts ∧ d.tree = s

def Stmt.ReadFrom (ss : List Stmt) (ts : List Token) : Prop :=
  ∃ d : Derivation .declarations, d.tokens = ts ∧ d.tree = ss

/-- What a node is made of: its own tokens, and the tokens of the nodes below it,
from which these are read. -/
inductive Phrase.Made : Phrase → List Token → Prop
  | literal (value : Value) (token : Token) : Made (.expr (.literal value token)) [token]
  | reference (name : String) (token : Token) : Made (.expr (.reference name token)) [token]
  | grouping (opening : Token) {inner : Expr} {ts : List Token} (closing : Token)
      (read : ReadFrom (.expr inner) ts) :
      Made (.expr (.grouping opening inner closing)) (opening :: (ts ++ [closing]))
  | unary (op : UnaryOp) (sign : Token) {operand : Expr} {ts : List Token}
      (read : ReadFrom (.expr operand) ts) : Made (.expr (.unary op sign operand)) (sign :: ts)
  | binary (op : BinaryOp) {left : Expr} {ts : List Token} (sign : Token) {right : Expr}
      {ts' : List Token} (read : ReadFrom (.expr left) ts) (read' : ReadFrom (.expr right) ts') :
      Made (.expr (.binary op left sign right)) (ts ++ sign :: ts')
  | logical (op : LogicalOp) {left : Expr} {ts : List Token} (sign : Token) {right : Expr}
      {ts' : List Token} (read : ReadFrom (.expr left) ts) (read' : ReadFrom (.expr right) ts') :
      Made (.expr (.logical op left sign right)) (ts ++ sign :: ts')
  | assign (name : String) (target equals : Token) {value : Expr} {ts : List Token}
      (read : ReadFrom (.expr value) ts) :
      Made (.expr (.assign name target value)) (target :: equals :: ts)
  | effect {e : Expr} {ts : List Token} (semicolon : Token) (read : ReadFrom (.expr e) ts) :
      Made (.stmt (.expr e semicolon)) (ts ++ [semicolon])
  | print (keyword : Token) {e : Expr} {ts : List Token} (semicolon : Token)
      (read : ReadFrom (.expr e) ts) :
      Made (.stmt (.print keyword e semicolon)) (keyword :: (ts ++ [semicolon]))
  | declare (keyword : Token) (name : String) (target semicolon : Token) :
      Made (.stmt (.declare keyword name target none semicolon)) [keyword, target, semicolon]
  | declareAs (keyword : Token) (name : String) (target equals : Token) {value : Expr}
      {ts : List Token} (semicolon : Token) (read : ReadFrom (.expr value) ts) :
      Made (.stmt (.declare keyword name target (some value) semicolon))
        (keyword :: target :: equals :: (ts ++ [semicolon]))
  | block (opening : Token) {body : List Stmt} {ts : List Token} (closing : Token)
      (read : Stmt.ReadFrom body ts) :
      Made (.stmt (.block { opening, body, closing })) (opening :: (ts ++ [closing]))
  | ifThen (keyword opening : Token) {condition : Expr} {ts : List Token} (closing : Token)
      {thenBlock : Block Stmt} {ts' : List Token} (read : ReadFrom (.expr condition) ts)
      (read' : ReadFrom (.stmt (.block thenBlock)) ts') :
      Made (.stmt (.ifThen keyword condition thenBlock))
        (keyword :: opening :: (ts ++ closing :: ts'))
  | ifElse (keyword opening : Token) {condition : Expr} {ts : List Token} (closing : Token)
      {thenBlock : Block Stmt} {ts' : List Token} (elseWord : Token) {elseBlock : Block Stmt}
      {ts'' : List Token} (read : ReadFrom (.expr condition) ts)
      (read' : ReadFrom (.stmt (.block thenBlock)) ts')
      (read'' : ReadFrom (.stmt (.block elseBlock)) ts'') :
      Made (.stmt (.ifElse keyword condition thenBlock elseBlock))
        (keyword :: opening :: (ts ++ closing :: (ts' ++ elseWord :: ts'')))
  | loop (keyword opening : Token) {condition : Expr} {ts : List Token} (closing : Token)
      {body : Block Stmt} {ts' : List Token} (read : ReadFrom (.expr condition) ts)
      (read' : ReadFrom (.stmt (.block body)) ts') :
      Made (.stmt (.loop keyword condition body)) (keyword :: opening :: (ts ++ closing :: ts'))

/-! ## 2. Operands -/

namespace Grammar

/-- An operand of any level is an expression as it stands. -/
theorem read_operand {level : Nat} (le : level ≤ Operator.levels)
    (d : Derivation (.operand level)) : Phrase.ReadFrom (.expr d.tree) d.tokens := by
  by_cases top : level = Operator.levels
  · subst top
    exact ⟨.disjunction d, rfl, rfl⟩
  · have raised := read_operand (by omega) (d.chain .noOperation)
    rwa [Derivation.tokens, Derivation.tokens, List.append_nil] at raised
termination_by Operator.levels - level

theorem Operator.level_lt (op : Operator) : op.level < Operator.levels := by
  cases op with
  | binary op =>
    cases op with
    | arithmetic op => cases op <;> decide
    | compare relation => cases relation <;> decide
    | _ => decide
  | logical op => cases op <;> decide

/-- An operator is listed at its own level only. -/
theorem level_lt_of_mem {level : Nat} {op : Operator} (mem : op ∈ Operator.ofLevel level) :
    level < Operator.levels := by
  rw [← Operator.mem_ofLevel_iff.mp mem]
  exact Operator.level_lt op

/-- Operations are none, or some and one more. -/
theorem operations_snoc {level : Nat} : (d : Derivation (.operations level)) →
    d.tokens = [] ∧ d.tree = [] ∨
      ∃ (before : Derivation (.operations level)) (op : Operator) (sign : Token)
        (right : Derivation (.operand level)), op ∈ Operator.ofLevel level ∧
          d.tokens = before.tokens ++ sign :: right.tokens ∧
          d.tree = before.tree ++ [(op, sign, right.tree)]
  | .noOperation => .inl ⟨rfl, rfl⟩
  | .operation op mem sign right others => by
    refine .inr ?_
    obtain ⟨tokens, tree⟩ | ⟨before, op', sign', right', mem', tokens, tree⟩ :=
      operations_snoc others
    · refine ⟨.noOperation, op, sign.val, right, mem, ?_, ?_⟩
      · simp only [Derivation.tokens, tokens, List.append_nil, List.nil_append]
      · simp only [Derivation.tree, tree, List.nil_append]
    · refine ⟨.operation op mem sign right before, op', sign', right', mem', ?_, ?_⟩
      · simp only [Derivation.tokens, tokens, List.cons_append, List.append_assoc]
      · rw [Derivation.tree, tree]
        rfl

/-! ## 3. The nodes of derived trees -/

/-- The words of the nonterminal make a node that is made of them. -/
def Nonterminal.Made : (n : Nonterminal) → n.Meaning → List Token → Prop
  | .declarations, _, _ => True
  | .declaration, s, ts => Phrase.Made (.stmt s) ts
  | .statement, s, ts => Phrase.Made (.stmt s) ts
  | .block, b, ts => Phrase.Made (.stmt (.block b)) ts
  | .expression, e, ts => Phrase.Made (.expr e) ts
  | .operand _, e, ts => Phrase.Made (.expr e) ts
  | .operations _, _, _ => True
  | .primary, e, ts => Phrase.Made (.expr e) ts

/-- An operator is a token of the node that it makes; the operands are the nodes below. -/
theorem made_join (op : Operator) {left right : Expr} {ts ts' : List Token} (sign : Token)
    (read : Phrase.ReadFrom (.expr left) ts) (read' : Phrase.ReadFrom (.expr right) ts') :
    Phrase.Made (.expr (op.join left sign right)) (ts ++ sign :: ts') := by
  cases op with
  | binary op => exact .binary op sign read read'
  | logical op => exact .logical op sign read read'

/-- A chain is made of a shorter chain, its last operator and the operand right of it. -/
theorem made_chain {level : Nat} (first : Derivation (.operand level))
    (operations : Derivation (.operations level))
    (made : Phrase.Made (.expr first.tree) first.tokens) :
    Phrase.Made (.expr (first.chain operations).tree) (first.chain operations).tokens := by
  rw [Derivation.tokens, Derivation.tree]
  obtain ⟨tokens, tree⟩ | ⟨before, op, sign, right, mem, tokens, tree⟩ :=
    operations_snoc operations
  · rw [tokens, tree, List.append_nil]
    exact made
  · rw [tokens, tree, foldOperations, List.foldl_append, ← List.append_assoc]
    have lt := level_lt_of_mem mem
    exact made_join op sign (read_operand lt (first.chain before))
      (read_operand (Nat.le_of_lt lt) right)

/-- What a word means is made of the tokens of the word, whichever production it comes from. -/
theorem made_tree {n : Nonterminal} (d : Derivation n) : n.Made d.tree d.tokens := by
  induction d with
  | noDeclaration => trivial
  | oneMore first others => trivial
  | declare keyword name semicolon => exact .declare _ _ _ _
  | declareAs keyword name equals value semicolon => exact .declareAs _ _ _ _ _ ⟨value, rfl, rfl⟩
  | statement s ih => exact ih
  | print keyword e semicolon => exact .print _ _ ⟨e, rfl, rfl⟩
  | ifThen keyword opening condition closing thenBlock =>
    exact .ifThen _ _ _ ⟨condition, rfl, rfl⟩ ⟨.statement (.nested thenBlock), rfl, rfl⟩
  | ifElse keyword opening condition closing thenBlock elseWord elseBlock =>
    exact .ifElse _ _ _ _ ⟨condition, rfl, rfl⟩ ⟨.statement (.nested thenBlock), rfl, rfl⟩
      ⟨.statement (.nested elseBlock), rfl, rfl⟩
  | loop keyword opening condition closing body =>
    exact .loop _ _ _ ⟨condition, rfl, rfl⟩ ⟨.statement (.nested body), rfl, rfl⟩
  | nested b ih => exact ih
  | effect e semicolon => exact .effect _ ⟨e, rfl, rfl⟩
  | block opening body closing => exact .block _ _ ⟨body, rfl, rfl⟩
  | assign name equals value => exact .assign _ _ _ ⟨value, rfl, rfl⟩
  | disjunction e ih => exact ih
  | chain first operations ih => exact made_chain first operations ih
  | signed op sign operand => exact .unary _ _ (read_operand (Nat.zero_le _) operand)
  | primary e ih => exact ih
  | noOperation => trivial
  | operation op mem sign right others => trivial
  | numberLiteral t => exact .literal _ _
  | textLiteral t => exact .literal _ _
  | trueLiteral t => exact .literal _ _
  | falseLiteral t => exact .literal _ _
  | nilLiteral t => exact .literal _ _
  | reference t => exact .reference _ _
  | parentheses opening inner closing => exact .grouping _ _ ⟨inner, rfl, rfl⟩

end Grammar

/-- A node that is read from tokens is made of them. -/
theorem Phrase.ReadFrom.made {node : Phrase} {ts : List Token} (read : node.ReadFrom ts) :
    node.Made ts := by
  cases node with
  | expr e =>
    obtain ⟨d, rfl, rfl⟩ := read
    exact made_tree d
  | stmt s =>
    obtain ⟨d, rfl, rfl⟩ := read
    exact made_tree d

/-- Statements one after the other are read from the tokens of the first and those of
the others. -/
theorem Stmt.readFrom_cons {s : Stmt} {rest : List Stmt} {ts : List Token}
    (read : Stmt.ReadFrom (s :: rest) ts) :
    ∃ first others, ts = first ++ others ∧ Phrase.ReadFrom (.stmt s) first ∧
      Stmt.ReadFrom rest others := by
  obtain ⟨d, rfl, tree⟩ := read
  cases d with
  | noDeclaration => cases tree
  | oneMore first others =>
    cases tree
    exact ⟨first.tokens, others.tokens, rfl, ⟨first, rfl, rfl⟩, others, rfl, rfl⟩

end Scriptlet
