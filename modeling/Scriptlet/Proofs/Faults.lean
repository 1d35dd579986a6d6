/-
Scriptlet.Proofs.Faults — what can be said of every fault of a run.

A run that fails has its fault from one evaluation, and everything in between
hands it on as it is: a sequence, a condition, a loop, and a block too, whose
scope can always be left. `FailsOnlyBy F` says that a fault, if there is one, is
in `F`; it goes through each of them, so that a fact about the faults of a script
is a fact about the faults of its operators and variables.

What follows an evaluation is only asked for environments with the names that
the evaluation has left, for facts that depend on them.
-/
import Scriptlet.Proofs.Scope.Discipline

namespace Scriptlet

/-! ## 1. Evaluations -/

namespace Evaluated

variable {α β : Type} {F G : Fault → Prop} {r : Evaluated α}

/-- The fault of an evaluation, if there is one, is in `F`. -/
def FailsOnlyBy (F : Fault → Prop) (r : Evaluated α) : Prop :=
  ∀ fault, r.1 = .error fault → F fault

/-- Less may be said of the fault than is known. -/
theorem FailsOnlyBy.mono (only : r.FailsOnlyBy F) (weaker : ∀ fault, F fault → G fault) :
    r.FailsOnlyBy G :=
  fun fault failed => weaker fault (only fault failed)

theorem failsOnlyBy_ok (a : α) (env : Environment) : FailsOnlyBy F (.ok a, env) := nofun

theorem failsOnlyBy_error {fault : Fault} (env : Environment) (known : F fault) :
    @FailsOnlyBy α F (.error fault, env) := by
  intro other same
  cases same
  exact known

/-- A refused operator is blamed on the expression, and nothing else happens here. -/
theorem failsOnlyBy_blame {site : Expr} {answer : Except TypeError α} (env : Environment)
    (known : ∀ refusal, answer = .error refusal →
      F { cause := .type refusal, site := .expr site }) :
    FailsOnlyBy F (blame site answer, env) := by
  cases answer with
  | ok a => exact failsOnlyBy_ok a env
  | error refusal => exact failsOnlyBy_error env (known refusal rfl)

/-- The second evaluation starts with the names that were bound, since no expression binds or loses
one. -/
theorem FailsOnlyBy.andThen {next : α → Environment → Evaluated β} (first : r.FailsOnlyBy F)
    (second : ∀ a env, env.names = r.2.names → (next a env).FailsOnlyBy F) :
    (r.andThen next).FailsOnlyBy F := by
  match r with
  | (.error fault, env) => exact failsOnlyBy_error env (first fault rfl)
  | (.ok a, env) => exact second a env rfl

end Evaluated

/-! ## 2. Statements -/

namespace Ending

variable {F G : Fault → Prop} {r : Ending × State}

def FailsOnlyBy (F : Fault → Prop) (r : Ending × State) : Prop :=
  ∀ fault, r.1 = .failed fault → F fault

theorem FailsOnlyBy.mono (only : FailsOnlyBy F r) (weaker : ∀ fault, F fault → G fault) :
    FailsOnlyBy G r :=
  fun fault failed => weaker fault (only fault failed)

theorem failsOnlyBy_done (st : State) : FailsOnlyBy F (.done, st) := nofun

/-- The second run has to be looked at only where the first is over. -/
theorem FailsOnlyBy.thenRun {next : State → Ending × State} (first : FailsOnlyBy F r)
    (second : r.1 = .done → FailsOnlyBy F (next r.2)) :
    FailsOnlyBy F (Ending.thenRun r next) := by
  match r with
  | (.done, st) => exact second rfl
  | (.failed fault, st) => exact first
  | (.unfinished, st) => exact first

end Ending

/-- From evaluations to runs, with the names as they were. -/
theorem Evaluated.FailsOnlyBy.thenRun {α : Type} {F : Fault → Prop} {r : Evaluated α} {st : State}
    {next : α → State → Ending × State} (first : r.FailsOnlyBy F)
    (second : ∀ a (st : State), st.env.names = r.2.names → Ending.FailsOnlyBy F (next a st)) :
    Ending.FailsOnlyBy F (r.thenRun st next) := by
  match r with
  | (.error fault, env) =>
    intro other same
    cases same
    exact first fault rfl
  | (.ok a, env) => exact second a { st with env } rfl

namespace Stmt

open Ending (FailsOnlyBy)

variable {F : Fault → Prop}

/-- The body starts with a fresh scope, and leaving that scope cannot fail. -/
theorem failsOnlyBy_block (rounds : Nat) (b : Block Stmt) (st : State)
    (body : ∀ st' : State, st'.env.names = st.env.names.push →
      FailsOnlyBy F (execAll rounds b.body st')) :
    FailsOnlyBy F (inScope b (execAll rounds b.body) st) := by
  obtain ⟨ending, inner, left, ran, -, run⟩ := inScope_execAll rounds b st
  have inside := body { st with env := st.env.push } Environment.names_push
  rw [ran] at inside
  rw [run]
  exact inside

/-- Neither branch is left out, though only one is taken: both start with the names that were
bound. -/
theorem failsOnlyBy_choose {condition : Expr} {yes no : State → Ending × State} {st : State}
    (test : Evaluated.FailsOnlyBy F (condition.test st.env))
    (taken : ∀ st' : State, st'.env.names = st.env.names → FailsOnlyBy F (yes st'))
    (other : ∀ st' : State, st'.env.names = st.env.names → FailsOnlyBy F (no st')) :
    FailsOnlyBy F (choose condition yes no st) := by
  rw [choose_eq]
  refine test.thenRun fun truth st' same => ?_
  rw [condition.test_names] at same
  cases truth with
  | true => exact taken st' same
  | false => exact other st' same

/-- Every round starts with the names that were bound before the first, so what holds of one round
holds of all. -/
theorem failsOnlyBy_repeatWhile {condition : Expr} {body : State → Ending × State} {st : State}
    (keeps : KeepsNames body)
    (test : ∀ env : Environment, env.names = st.env.names →
      Evaluated.FailsOnlyBy F (condition.test env))
    (round : ∀ st' : State, st'.env.names = st.env.names → FailsOnlyBy F (body st'))
    (rounds : Nat) : FailsOnlyBy F (repeatWhile condition body rounds st) := by
  -- The names are those of the start before every test, whatever the rounds before it did.
  suffices every : ∀ st' : State, st'.env.names = st.env.names →
      FailsOnlyBy F (repeatWhile condition body rounds st') from every st rfl
  induction rounds with
  | zero => exact fun st' same => nofun
  | succ rounds ih =>
    intro st' same
    rw [repeatWhile_succ]
    refine (test st'.env same).thenRun fun truth st'' same' => ?_
    rw [condition.test_names, same] at same'
    cases truth with
    | true => exact (round st'' same').thenRun fun _ => ih _ ((keeps st'').trans same')
    | false => exact Ending.failsOnlyBy_done st''

end Stmt

end Scriptlet
