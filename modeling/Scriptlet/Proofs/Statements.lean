/-
Scriptlet.Proofs.Statements — induction over statements and their bodies.

A statement holds blocks and a block holds a list of statements, so a fact
about statements is proved together with one about lists of them.
`Stmt.induction` is that double induction, said once: what holds of the body of
a block may be used for the statement that the block stands in.

The equations of a run take a block as the cases of the induction give it, in
one piece, and say by `thenRun` what follows an evaluation or a statement that
did not end in a fault.
-/
import Scriptlet.Execution
import Scriptlet.Proofs.Expressions

namespace Scriptlet

namespace Stmt

/-! ## 1. Induction -/

/-- Statements and lists of them, by the recursion of the tree: whatever holds of the lists in its
blocks holds of a statement with blocks. -/
theorem induction {P : Stmt → Prop} {Q : List Stmt → Prop}
    (expr : ∀ e semicolon, P (.expr e semicolon))
    (print : ∀ keyword e semicolon, P (.print keyword e semicolon))
    (declare : ∀ keyword name target value semicolon,
      P (.declare keyword name target value semicolon))
    (block : ∀ b : Block Stmt, Q b.body → P (.block b))
    (ifThen : ∀ keyword condition (thenBlock : Block Stmt), Q thenBlock.body →
      P (.ifThen keyword condition thenBlock))
    (ifElse : ∀ keyword condition (thenBlock elseBlock : Block Stmt), Q thenBlock.body →
      Q elseBlock.body → P (.ifElse keyword condition thenBlock elseBlock))
    (loop : ∀ keyword condition (body : Block Stmt), Q body.body →
      P (.loop keyword condition body))
    (nil : Q []) (cons : ∀ s rest, P s → Q rest → Q (s :: rest)) :
    (∀ s, P s) ∧ ∀ ss, Q ss := by
  constructor
  · intro s
    exact @Stmt.rec P (fun b => Q b.body) Q expr print declare block ifThen ifElse loop
      (fun _ _ _ body => body) nil cons s
  · intro ss
    exact @Stmt.rec_2 P (fun b => Q b.body) Q expr print declare block ifThen ifElse loop
      (fun _ _ _ body => body) nil cons ss

/-! ## 2. A run as a sequence of steps -/

end Stmt

def Evaluated.thenRun {α : Type} (r : Evaluated α) (st : State)
    (next : α → State → Ending × State) : Ending × State :=
  match r with
  | (.error fault, env) => (.failed fault, { st with env })
  | (.ok a, env) => next a { st with env }

def Ending.thenRun (r : Ending × State) (next : State → Ending × State) : Ending × State :=
  match r with
  | (.done, st) => next st
  | (ending, st) => (ending, st)

def Expr.evalInitial : Option Expr → Environment → Evaluated Value
  | none, env => (.ok .nil, env)
  | some e, env => e.eval env

namespace Stmt

variable (rounds : Nat) (st : State)

theorem exec_expr (e : Expr) (semicolon : Token) :
    exec rounds (.expr e semicolon) st =
      Evaluated.thenRun (e.eval st.env) st fun _ st => (.done, st) := by
  rw [exec]
  rcases e.eval st.env with ⟨fault | a, env⟩ <;> rfl

/-- A print statement is the only one that writes. -/
theorem exec_print (keyword : Token) (e : Expr) (semicolon : Token) :
    exec rounds (.print keyword e semicolon) st =
      Evaluated.thenRun (e.eval st.env) st fun a st =>
        (.done, { st with out := st.out ++ Text.line a.display }) := by
  rw [exec]
  rcases e.eval st.env with ⟨fault | a, env⟩ <;> rfl

/-- The name is bound only after its first value is known. -/
theorem exec_declare (keyword : Token) (name : String) (target : Token) (value : Option Expr)
    (semicolon : Token) :
    exec rounds (.declare keyword name target value semicolon) st =
      Evaluated.thenRun (Expr.evalInitial value st.env) st fun a st =>
        (.done, { st with env := st.env.define name a }) := by
  cases value with
  | none => rfl
  | some e =>
    rw [exec, Expr.evalInitial]
    rcases e.eval st.env with ⟨fault | a, env⟩ <;> rfl

theorem exec_block (b : Block Stmt) :
    exec rounds (.block b) st = inScope b (execAll rounds b.body) st := rfl

theorem exec_ifThen (keyword : Token) (condition : Expr) (b : Block Stmt) :
    exec rounds (.ifThen keyword condition b) st =
      choose condition (inScope b (execAll rounds b.body)) (fun st => (.done, st)) st := rfl

theorem exec_ifElse (keyword : Token) (condition : Expr) (b b' : Block Stmt) :
    exec rounds (.ifElse keyword condition b b') st =
      choose condition (inScope b (execAll rounds b.body))
        (inScope b' (execAll rounds b'.body)) st := rfl

/-- Of the bounds on rounds this is the one place that uses one up. -/
theorem exec_loop (keyword : Token) (condition : Expr) (b : Block Stmt) :
    exec rounds (.loop keyword condition b) st =
      repeatWhile condition (inScope b (execAll rounds b.body)) rounds st := rfl

/-- The next statement runs only if this one ended by itself. -/
theorem execAll_cons (s : Stmt) (rest : List Stmt) :
    execAll rounds (s :: rest) st = Ending.thenRun (exec rounds s st) (execAll rounds rest) := rfl

variable (condition : Expr) (body : State → Ending × State)

theorem choose_eq (yes no : State → Ending × State) :
    choose condition yes no st =
      Evaluated.thenRun (condition.test st.env) st fun truth st =>
        if truth then yes st else no st := by
  rw [choose]
  rcases condition.test st.env with ⟨fault | truth, env⟩
  · rfl
  · cases truth <;> rfl

/-- One test of the condition, and the loop again after a round that ended by itself. -/
theorem repeatWhile_succ :
    repeatWhile condition body (rounds + 1) st =
      Evaluated.thenRun (condition.test st.env) st fun truth st =>
        if truth then Ending.thenRun (body st) (repeatWhile condition body rounds)
        else (.done, st) := by
  rw [repeatWhile]
  rcases condition.test st.env with ⟨fault | truth, env⟩
  · rfl
  · cases truth <;> rfl

end Stmt

end Scriptlet
