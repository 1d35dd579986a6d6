/-
Scriptlet.Evaluation — the value of an expression.

Evaluation goes from left to right and answers a value or the first fault,
together with the environment as it is then: what was assigned before a fault
stays assigned. It follows the tree alone, so it always ends.

The limit that a host sets on how deep its calls may nest is left out of the model: a
tree is evaluated however deep it is.
-/
import Scriptlet.Environment
import Scriptlet.Tree

namespace Scriptlet

structure Fault where
  cause : Cause
  site : Phrase

def Fault.message (f : Fault) : String :=
  "[line " ++ toString f.site.line ++ "] " ++ f.cause.message

/-- An answer of an operator, with an expression to blame for a refusal. -/
def blame {α : Type} (site : Expr) : Except TypeError α → Except Fault α
  | .ok a => .ok a
  | .error refusal => .error { cause := .type refusal, site := .expr site }

namespace Expr

/-- The value of an expression, or the first fault, and the environment left. An
assignment answers the value that it replaces. -/
def eval : Expr → Environment → Except Fault Value × Environment
  | .literal value _, env => (.ok value, env)
  | .reference name token, env =>
    match env.get? name with
    | some value => (.ok value, env)
    | none => (.error { cause := .undefined name, site := .expr (.reference name token) }, env)
  | .grouping _ inner _, env => inner.eval env
  | .unary op sign operand, env =>
    match operand.eval env with
    | (.error fault, env) => (.error fault, env)
    | (.ok a, env) => (blame (.unary op sign operand) (op.apply a), env)
  | .binary op left sign right, env =>
    match left.eval env with
    | (.error fault, env) => (.error fault, env)
    | (.ok a, env) =>
      match right.eval env with
      | (.error fault, env) => (.error fault, env)
      | (.ok b, env) => (blame (.binary op left sign right) (op.apply a b), env)
  | .logical op left _ right, env =>
    match left.eval env with
    | (.error fault, env) => (.error fault, env)
    | (.ok a, env) =>
      match blame left a.truth with
      | .error fault => (.error fault, env)
      | .ok truth => if truth = op.settledBy then (.ok a, env) else right.eval env
  | .assign name target value, env =>
    match value.eval env with
    | (.error fault, env) => (.error fault, env)
    | (.ok a, env) =>
      match env.assign name a with
      | .ok (previous, env) => (.ok previous, env)
      | .error cause => (.error { cause, site := .expr (.assign name target value) }, env)

def test (condition : Expr) (env : Environment) : Except Fault Bool × Environment :=
  match condition.eval env with
  | (.error fault, env) => (.error fault, env)
  | (.ok a, env) => (blame condition a.truth, env)

end Expr

end Scriptlet
