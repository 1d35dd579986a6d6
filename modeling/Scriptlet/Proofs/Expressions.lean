/-
Scriptlet.Proofs.Expressions — evaluation as a sequence of steps.

Each operator evaluates its operands one after the other and stops at the first
fault. `Evaluated.andThen` is that sequence, and the equations below give the
value of every expression in terms of it, so a fact about all expressions needs
one argument for a sequence and not one for each operator.
-/
import Scriptlet.Evaluation

namespace Scriptlet

abbrev Evaluated (α : Type) := Except Fault α × Environment

namespace Evaluated

variable {α β : Type}

/-- Go on with the answer, unless there was a fault. -/
def andThen (r : Evaluated α) (next : α → Environment → Evaluated β) : Evaluated β :=
  match r with
  | (.error fault, env) => (.error fault, env)
  | (.ok a, env) => next a env

@[simp] theorem andThen_ok (a : α) (env : Environment) (next : α → Environment → Evaluated β) :
    andThen (.ok a, env) next = next a env := rfl

/-- A fault goes through, and what would have come next is not evaluated. -/
@[simp] theorem andThen_error (fault : Fault) (env : Environment)
    (next : α → Environment → Evaluated β) :
    andThen (.error fault, env) next = (.error fault, env) := rfl

end Evaluated

namespace Expr

variable (env : Environment)

theorem eval_grouping (opening : Token) (inner : Expr) (closing : Token) :
    (grouping opening inner closing).eval env = inner.eval env := rfl

/-- The operator applies once the operand has its value, and a refusal blames the whole. -/
theorem eval_unary (op : UnaryOp) (sign : Token) (operand : Expr) :
    (unary op sign operand).eval env =
      Evaluated.andThen (operand.eval env) fun a env =>
        (blame (unary op sign operand) (op.apply a), env) := by
  rw [eval]
  rcases operand.eval env with ⟨fault | a, env⟩ <;> rfl

/-- Left before right: what the left operand assigns is there for the right one. -/
theorem eval_binary (op : BinaryOp) (left : Expr) (sign : Token) (right : Expr) :
    (binary op left sign right).eval env =
      Evaluated.andThen (left.eval env) fun a env =>
        Evaluated.andThen (right.eval env) fun b env =>
          (blame (binary op left sign right) (op.apply a b), env) := by
  rw [eval]
  rcases left.eval env with ⟨fault | a, env⟩
  · rfl
  · simp only [Evaluated.andThen_ok]
    rcases right.eval env with ⟨fault | b, env⟩ <;> rfl

/-- A condition that is no boolean is to blame itself. -/
theorem test_eq (condition : Expr) :
    condition.test env =
      Evaluated.andThen (condition.eval env) fun a env =>
        (blame condition a.truth, env) := by
  rw [test]
  rcases condition.eval env with ⟨fault | a, env⟩ <;> rfl

/-- The left operand must be a boolean; it is the answer if it settles the matter, and else the
right operand is, whatever its kind. -/
theorem eval_logical (op : LogicalOp) (left : Expr) (sign : Token) (right : Expr) :
    (logical op left sign right).eval env =
      Evaluated.andThen (left.eval env) fun a env =>
        Evaluated.andThen (blame left a.truth, env) fun truth env =>
          if truth = op.settledBy then (.ok a, env) else right.eval env := by
  rw [eval]
  rcases left.eval env with ⟨fault | a, env⟩
  · rfl
  · cases settled : blame left a.truth with
    | error fault => simp [settled]
    | ok truth => simp [settled]

/-- The value comes first, and the answer is the value that was replaced. -/
theorem eval_assign (name : String) (target : Token) (value : Expr) :
    (assign name target value).eval env =
      Evaluated.andThen (value.eval env) fun a env =>
        match env.assign name a with
        | .ok (previous, env) => (.ok previous, env)
        | .error cause => (.error { cause, site := .expr (assign name target value) }, env) := by
  rw [eval]
  rcases value.eval env with ⟨fault | a, env⟩ <;> rfl

end Expr

end Scriptlet
