/-
Scriptlet.Environment — the variables of a running script, and what can stop it.

An environment is a stack of scopes. A declaration lands in the innermost
scope; a lookup or an assignment works outward from there and acts on the
first binding it finds. The last scope outward is the global one: it is there
from the start and never leaves, which the type says by keeping one scope
apart from the list.
-/
import Std.Data.ExtTreeMap
import Scriptlet.Value.Operator

namespace Scriptlet

/-- The reason why a script cannot go on. -/
inductive Cause
  /-- An operator or a condition refuses the kind of a value. -/
  | type (refusal : TypeError)
  /-- No scope binds the name. -/
  | undefined (name : String)
  /-- The global scope is never left. -/
  | globalScope
  deriving DecidableEq, Repr

def Cause.message : Cause → String
  | .type refusal => refusal.message
  | .undefined name => "Undefined variable '" ++ name ++ "'."
  | .globalScope => "Cannot leave the global scope."

/-- One scope: each name bound once, in the order of the names. -/
abbrev Scope := Std.ExtTreeMap String Value

/-- A stack of scopes, the nearest first. -/
structure Environment where
  innermost : Scope
  enclosing : List Scope

namespace Environment

/-- Only the global scope, and nothing in it. -/
def empty : Environment := { innermost := ∅, enclosing := [] }

def scopes (env : Environment) : List Scope := env.innermost :: env.enclosing

def depth (env : Environment) : Nat := env.scopes.length

def push (env : Environment) : Environment :=
  { innermost := ∅, enclosing := env.scopes }

/-- Leave the innermost scope, and with it all that it binds. -/
def pop (env : Environment) : Except Cause Environment :=
  match env.enclosing with
  | [] => .error .globalScope
  | next :: outer => .ok { innermost := next, enclosing := outer }

/-- Bind a name in the innermost scope, in place of what it was bound to there. -/
def define (env : Environment) (name : String) (value : Value) : Environment :=
  { env with innermost := env.innermost.insert name value }

/-- The value of a name in the nearest scope that binds it. -/
def get? (env : Environment) (name : String) : Option Value :=
  env.scopes.findSome? fun scope => scope[name]?

def holds (env : Environment) (name : String) : Bool := (env.get? name).isSome

/-- Overwrite the nearest binding of a name in a stack of scopes. The answer
starts with the previous value. -/
def overwrite? (name : String) (value : Value) : List Scope → Option (Value × List Scope)
  | [] => none
  | scope :: outer =>
    match scope[name]? with
    | some previous => some (previous, scope.insert name value :: outer)
    | none =>
      match overwrite? name value outer with
      | some (previous, changed) => some (previous, scope :: changed)
      | none => none

/-- Overwrite the nearest binding of a name. The answer starts with the previous value. -/
def assign (env : Environment) (name : String) (value : Value) :
    Except Cause (Value × Environment) :=
  match env.innermost[name]? with
  | some previous =>
    .ok (previous, { env with innermost := env.innermost.insert name value })
  | none =>
    match overwrite? name value env.enclosing with
    | some (previous, changed) => .ok (previous, { env with enclosing := changed })
    | none => .error (.undefined name)

end Environment

end Scriptlet
