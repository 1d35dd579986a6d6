/-
Scriptlet.Execution — the effect of a statement.

A statement changes the environment and adds to the text printed so far. It
ends by itself, or by the first fault, or it does not end: a loop may run for
ever. `exec` therefore takes a bound on the rounds of each loop, and says so
when a loop has not ended within it; the bound has no other effect. Apart from
loops it follows the tree.

A block has a scope of its own, which is left whichever way the block ends.
-/
import Scriptlet.Evaluation
import Scriptlet.Text.Quoted

namespace Scriptlet

/-- What a run has to show: its variables, and what it has printed. -/
structure State where
  env : Environment
  out : String

inductive Ending
  /-- It is over. -/
  | done
  /-- A fault stopped it. -/
  | failed (fault : Fault)
  /-- Some loop is not over after as many rounds as it was given. -/
  | unfinished

namespace Stmt

/-- Run `body` in a fresh scope, and leave that scope however it ends. -/
def inScope (site : Block Stmt) (body : State → Ending × State) (st : State) : Ending × State :=
  match body { st with env := st.env.push } with
  | (ending, st) =>
    match st.env.pop with
    | .ok env => (ending, { st with env })
    | .error cause => (.failed { cause, site := .stmt (.block site) }, st)

def choose (condition : Expr) (yes no : State → Ending × State) (st : State) : Ending × State :=
  match condition.test st.env with
  | (.error fault, env) => (.failed fault, { st with env })
  | (.ok true, env) => yes { st with env }
  | (.ok false, env) => no { st with env }

/-- Run `body` as long as a condition holds, for at most `rounds` tests of it. -/
def repeatWhile (condition : Expr) (body : State → Ending × State) :
    (rounds : Nat) → State → Ending × State
  | 0, st => (.unfinished, st)
  | rounds + 1, st =>
    match condition.test st.env with
    | (.error fault, env) => (.failed fault, { st with env })
    | (.ok false, env) => (.done, { st with env })
    | (.ok true, env) =>
      match body { st with env } with
      | (.done, st) => repeatWhile condition body rounds st
      | (ending, st) => (ending, st)

mutual

/-- Run a statement, each loop for at most `rounds` tests of its condition. -/
def exec (rounds : Nat) : Stmt → State → Ending × State
  | .expr e _, st =>
    match e.eval st.env with
    | (.error fault, env) => (.failed fault, { st with env })
    | (.ok _, env) => (.done, { st with env })
  | .print _ e _, st =>
    match e.eval st.env with
    | (.error fault, env) => (.failed fault, { st with env })
    | (.ok a, env) => (.done, { env, out := st.out ++ Text.line a.display })
  | .declare _ name _ none _, st => (.done, { st with env := st.env.define name .nil })
  | .declare _ name _ (some e) _, st =>
    match e.eval st.env with
    | (.error fault, env) => (.failed fault, { st with env })
    | (.ok a, env) => (.done, { st with env := env.define name a })
  | .block ⟨opening, body, closing⟩, st =>
    inScope ⟨opening, body, closing⟩ (execAll rounds body) st
  | .ifThen _ condition ⟨opening, body, closing⟩, st =>
    choose condition (inScope ⟨opening, body, closing⟩ (execAll rounds body))
      (fun st => (.done, st)) st
  | .ifElse _ condition ⟨opening, body, closing⟩ ⟨opening', other, closing'⟩, st =>
    choose condition (inScope ⟨opening, body, closing⟩ (execAll rounds body))
      (inScope ⟨opening', other, closing'⟩ (execAll rounds other)) st
  | .loop _ condition ⟨opening, body, closing⟩, st =>
    repeatWhile condition (inScope ⟨opening, body, closing⟩ (execAll rounds body)) rounds st

/-- Run statements in order, up to the first that does not end by itself. -/
def execAll (rounds : Nat) : List Stmt → State → Ending × State
  | [], st => (.done, st)
  | s :: rest, st =>
    match exec rounds s st with
    | (.done, st) => execAll rounds rest st
    | (ending, st) => (ending, st)

end

end Stmt

end Scriptlet
