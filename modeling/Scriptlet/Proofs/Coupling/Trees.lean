/-
Scriptlet.Proofs.Coupling.Trees — trees with other expressions and other names.

`Stmt.replace` puts other expressions in the place of those of a statement, and other names
in the place of those that it declares. A replacement of expressions that a run is to be
compared under goes through the tree node by node (`Expr.NodeWise`): it may change the
names, and it may leave out parentheses, but nothing else of a node.
-/
import Scriptlet.Proofs.Safety.Nodes

namespace Scriptlet

/-! ## 1. Names at nodes -/

/-- The name that a statement declares itself, not in one of its blocks. -/
def Stmt.declared? : Stmt → Option String
  | .declare _ name _ _ _ => some name
  | _ => none

def Phrase.name? : Phrase → Option String
  | .expr (.reference name _) => some name
  | .expr (.assign name _ _) => some name
  | .expr _ => none
  | .stmt s => s.declared?

/-! ## 2. Other expressions -/

/-- The replacement of expressions goes through the tree node by node. It may leave out
parentheses; any other node it keeps, but for the names. -/
structure Expr.NodeWise (f : Expr → Expr) (g : String → String) : Prop where
  literal : ∀ value token, f (.literal value token) = .literal value token
  reference : ∀ name token, f (.reference name token) = .reference (g name) token
  grouping : ∀ opening inner closing env,
    (f (.grouping opening inner closing)).eval env = (f inner).eval env
  unary : ∀ op sign operand, f (.unary op sign operand) = .unary op sign (f operand)
  binary : ∀ op left sign right,
    f (.binary op left sign right) = .binary op (f left) sign (f right)
  logical : ∀ op left sign right,
    f (.logical op left sign right) = .logical op (f left) sign (f right)
  assign : ∀ name target value, f (.assign name target value) = .assign (g name) target (f value)

/-- To replace nothing is to go through the tree. -/
theorem Expr.nodeWise_id : NodeWise id id where
  literal _ _ := rfl
  reference _ _ := rfl
  grouping _ _ _ _ := rfl
  unary _ _ _ := rfl
  binary _ _ _ _ := rfl
  logical _ _ _ _ := rfl
  assign _ _ _ := rfl

/-! ## 3. Statements with other expressions -/

namespace Stmt

mutual

/-- The statement with each of its expressions and each declared name replaced. -/
def replace (f : Expr → Expr) (g : String → String) : Stmt → Stmt
  | .expr e semicolon => .expr (f e) semicolon
  | .print keyword e semicolon => .print keyword (f e) semicolon
  | .declare keyword name target value semicolon =>
    .declare keyword (g name) target (value.map f) semicolon
  | .block b => .block (replaceBlock f g b)
  | .ifThen keyword condition thenBlock =>
    .ifThen keyword (f condition) (replaceBlock f g thenBlock)
  | .ifElse keyword condition thenBlock elseBlock =>
    .ifElse keyword (f condition) (replaceBlock f g thenBlock) (replaceBlock f g elseBlock)
  | .loop keyword condition body => .loop keyword (f condition) (replaceBlock f g body)

def replaceBlock (f : Expr → Expr) (g : String → String) : Block Stmt → Block Stmt
  | ⟨opening, body, closing⟩ => ⟨opening, replaceAll f g body, closing⟩

def replaceAll (f : Expr → Expr) (g : String → String) : List Stmt → List Stmt
  | [] => []
  | s :: rest => s.replace f g :: replaceAll f g rest

end

theorem body_replaceBlock (f : Expr → Expr) (g : String → String) (b : Block Stmt) :
    (replaceBlock f g b).body = replaceAll f g b.body := by
  cases b
  rfl

/-- To replace each expression and each name by itself changes nothing. -/
theorem replace_identity :
    (∀ s : Stmt, s.replace id id = s) ∧ ∀ ss : List Stmt, replaceAll id id ss = ss := by
  have sameBlock : ∀ b : Block Stmt, replaceAll id id b.body = b.body →
      replaceBlock id id b = b := by
    rintro ⟨opening, body, closing⟩ same
    rw [replaceBlock, same]
  refine induction ?expr ?print ?declare ?block ?ifThen ?ifElse ?loop ?nil ?cons
  case expr => exact fun e semicolon => rfl
  case print => exact fun keyword e semicolon => rfl
  case declare =>
    intro keyword name target value semicolon
    rw [replace, Option.map_id, id_eq, id_eq]
  case block => exact fun b body => by rw [replace, sameBlock b body]
  case ifThen =>
    exact fun keyword condition b body => by rw [replace, sameBlock b body, id_eq]
  case ifElse =>
    intro keyword condition b b' body body'
    rw [replace, sameBlock b body, sameBlock b' body', id_eq]
  case loop => exact fun keyword condition b body => by rw [replace, sameBlock b body, id_eq]
  case nil => rfl
  case cons => exact fun s rest first others => by rw [replaceAll, first, others]

theorem replace_id (s : Stmt) : s.replace id id = s :=
  replace_identity.1 s

theorem replaceAll_id (ss : List Stmt) : replaceAll id id ss = ss :=
  replace_identity.2 ss

end Stmt

end Scriptlet
