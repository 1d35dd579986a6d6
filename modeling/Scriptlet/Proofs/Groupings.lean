/-
Scriptlet.Proofs.Groupings — parentheses only group.

A pair of parentheses has the value of what stands between it, and that is all it does: once
the tree is built it may be taken out. It may be a node to blame, as a condition or a left
operand of `and` and `or` that has no truth value; then what stands between it is to blame
in its place. So a script without its parentheses runs as the script does, in the same
environment all the time, and a fault blames what is left of the node.
-/
import Scriptlet.Proofs.Coupling.Runs

namespace Scriptlet

/-! ## 1. Trees without parentheses -/

/-- The expression with each pair of parentheses replaced by what stands between it. -/
def Expr.ungroup : Expr → Expr
  | .literal value token => .literal value token
  | .reference name token => .reference name token
  | .grouping _ inner _ => inner.ungroup
  | .unary op sign operand => .unary op sign operand.ungroup
  | .binary op left sign right => .binary op left.ungroup sign right.ungroup
  | .logical op left sign right => .logical op left.ungroup sign right.ungroup
  | .assign name target value => .assign name target value.ungroup

def Stmt.ungroup (s : Stmt) : Stmt := s.replace Expr.ungroup id

def Program.ungroup (p : Program) : Program := Stmt.replaceAll Expr.ungroup id p

def Phrase.ungroup : Phrase → Phrase
  | .expr e => .expr e.ungroup
  | .stmt s => .stmt s.ungroup

def Fault.ungroup (fault : Fault) : Fault :=
  { cause := fault.cause, site := fault.site.ungroup }

/-! ## 2. Runs without parentheses -/

/-- Only parentheses are left out, so each other node has its counterpart. -/
theorem Expr.nodeWise_ungroup : NodeWise ungroup id where
  literal _ _ := rfl
  reference _ _ := rfl
  grouping _ _ _ _ := rfl
  unary _ _ _ := rfl
  binary _ _ _ _ := rfl
  logical _ _ _ _ := rfl
  assign _ _ _ := rfl

/-- A run beside that without parentheses, in the same environment. -/
def ungrouping : Coupling where
  envs _ env env' := env' = env
  expr := Expr.ungroup
  fault := Fault.ungroup
  Bears _ := True
  Declares _ _ := True
  nodeWise := Expr.nodeWise_ungroup
  refused _ _ := rfl
  missing _ _ := rfl
  inside _ _ := trivial
  push same := congrArg Environment.push same
  pop := by
    rintro level _ env left left' rfl popped popped'
    exact Except.ok.inj (popped'.symm.trans popped)
  define := by
    rintro level _ env declared value - rfl
    rfl
  get? := by
    rintro level _ env node name - - rfl
    rfl
  assign := by
    rintro level _ env name target e value previous left left' - rfl assigned assigned'
    exact (Prod.mk.inj (Except.ok.inj (assigned'.symm.trans assigned))).2

/-- Without its parentheses an expression has the same value, and a script prints the same
text and ends in the same way, and both leave the same environment. If there is a fault, it
is one of the same cause, so with the same wording but for the line, and blames what is left
of the node that it blames with the parentheses. -/
theorem groupings_only_group :
    (∀ (e : Expr) (env : Environment),
      e.ungroup.eval env = ((e.eval env).1.mapError Fault.ungroup, (e.eval env).2)) ∧
    ∀ (p : Program) (rounds : Nat) (st : State),
      Stmt.execAll rounds p.ungroup st =
        ((Stmt.execAll rounds p st).1.mapFault Fault.ungroup, (Stmt.execAll rounds p st).2) := by
  constructor
  · intro e env
    have start : ungrouping.envs 0 env env := rfl
    obtain ⟨answer, left⟩ := ungrouping.eval_alike (fun _ _ => trivial) start
    exact Prod.ext answer left
  · intro p rounds st
    have start : State.Alike (ungrouping.envs 0) st st := ⟨rfl, rfl⟩
    have alike := (ungrouping.couples_statements rounds).2 p (fun _ _ => trivial) 0
      (fun _ _ _ _ => trivial) st st start
    exact alike.eq_mapped

end Scriptlet
