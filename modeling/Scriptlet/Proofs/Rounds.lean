/-
Scriptlet.Proofs.Rounds — the bound on the rounds of a loop has no effect on what ended.

A run within a bound is unfinished, or it is the run that there would be without one: under
a larger bound it ends in the same way and in the same state (`Stmt.execAll_of_ended`). So
all runs of a script that end are one run (`Stmt.ended_unique`), and what is proved of the
runs under every bound is proved of that one. Only a loop looks at the bound; from there
the comparison of two bounds goes up through the statements.
-/
import Scriptlet.Proofs.Scope.Discipline

namespace Scriptlet

/-! ## 1. A run that completes another -/

/-- If the second run ends, the first one is the same. -/
def Ending.Completes (ran' ran : Ending × State) : Prop :=
  ran.1 ≠ .unfinished → ran' = ran

namespace Ending.Completes

variable {ran ran' : Ending × State}

theorem refl (ran : Ending × State) : Completes ran ran :=
  fun _ => rfl

/-- A longer run goes on where a shorter one ended, so the two may be compared step by step. -/
theorem thenRun {next next' : State → Ending × State} (first : Completes ran' ran)
    (second : ∀ st, Completes (next' st) (next st)) :
    Completes (Ending.thenRun ran' next') (Ending.thenRun ran next) := by
  intro ended
  obtain ⟨ending, st⟩ := ran
  cases ending with
  | done =>
    rw [first nofun]
    exact second st ended
  | failed fault => exact congrArg (Ending.thenRun · next') (first nofun)
  | unfinished => exact absurd rfl ended

/-- Evaluations have no loops, so they are the same under every bound. -/
theorem afterEvaluation {α : Type} (r : Evaluated α) (st : State)
    {next next' : α → State → Ending × State}
    (second : ∀ a st, Completes (next' a st) (next a st)) :
    Completes (r.thenRun st next') (r.thenRun st next) := by
  obtain ⟨answer, env⟩ := r
  cases answer with
  | error fault => exact refl _
  | ok a => exact second a { st with env }

end Ending.Completes

namespace Stmt

open Ending (Completes)

variable {condition : Expr} {run run' no no' : State → Ending × State} {rounds more : Nat}

/-! ## 2. Blocks, conditions and loops -/

/-- Leaving the scope is the same in both runs, and so only the body matters. -/
theorem completes_inScope {b : Block Stmt}
    (body : ∀ st, Completes (execAll more b.body st) (execAll rounds b.body st)) (st : State) :
    Completes (inScope b (execAll more b.body) st) (inScope b (execAll rounds b.body) st) := by
  obtain ⟨ending, inner, left, ran, -, run⟩ := inScope_execAll rounds b st
  intro ended
  have same := body { st with env := st.env.push }
  rw [ran] at same
  rw [run] at ended
  rw [inScope, inScope, ran, same ended]

theorem completes_choose (taken : ∀ st, Completes (run' st) (run st))
    (other : ∀ st, Completes (no' st) (no st)) (st : State) :
    Completes (choose condition run' no' st) (choose condition run no st) := by
  rw [choose_eq, choose_eq]
  refine .afterEvaluation _ st fun truth st => ?_
  cases truth with
  | true => exact taken st
  | false => exact other st

/-- A loop under the larger bound, with bodies that complete those under the smaller one. -/
theorem completes_repeatWhile (body : ∀ st, Completes (run' st) (run st))
    (larger : rounds ≤ more) (st : State) :
    Completes (repeatWhile condition run' more st) (repeatWhile condition run rounds st) := by
  induction rounds generalizing more st with
  | zero => exact fun ended => absurd rfl ended
  | succ rounds ih =>
    obtain ⟨fewer, rfl⟩ := Nat.exists_eq_add_of_le' larger
    rw [← Nat.add_assoc, repeatWhile_succ, repeatWhile_succ]
    refine .afterEvaluation _ st fun truth st => ?_
    cases truth with
    | true => exact (body st).thenRun (ih (Nat.le_add_left rounds fewer))
    | false => exact .refl _

/-! ## 3. All statements -/

/-- Under a larger bound every statement completes what it does under a smaller one. -/
theorem completes_statements (larger : rounds ≤ more) :
    (∀ (s : Stmt) (st : State), Completes (exec more s st) (exec rounds s st)) ∧
    ∀ (ss : List Stmt) (st : State), Completes (execAll more ss st) (execAll rounds ss st) := by
  refine induction ?expr ?print ?declare ?block ?ifThen ?ifElse ?loop ?nil ?cons
  case expr =>
    intro e semicolon st
    rw [exec_expr, exec_expr]
    exact .refl _
  case print =>
    intro keyword e semicolon st
    rw [exec_print, exec_print]
    exact .refl _
  case declare =>
    intro keyword name target value semicolon st
    rw [exec_declare, exec_declare]
    exact .refl _
  case block => exact fun b body => completes_inScope body
  case ifThen =>
    exact fun keyword condition b body => completes_choose (completes_inScope body) fun _ => .refl _
  case ifElse =>
    exact fun keyword condition b b' body body' =>
      completes_choose (completes_inScope body) (completes_inScope body')
  case loop =>
    exact fun keyword condition b body => completes_repeatWhile (completes_inScope body) larger
  case nil => exact fun st => .refl _
  case cons =>
    intro s rest first others st
    rw [execAll_cons, execAll_cons]
    exact (first st).thenRun others

/-- A run that ended is the same under every larger bound. -/
theorem execAll_of_ended {ss : List Stmt} {st : State}
    (ended : (execAll rounds ss st).1 ≠ .unfinished) (larger : rounds ≤ more) :
    execAll more ss st = execAll rounds ss st :=
  (completes_statements larger).2 ss st ended

/-- Two runs that both ended are the same, whatever their bounds. -/
theorem ended_unique {ss : List Stmt} {st : State}
    (ended : (execAll rounds ss st).1 ≠ .unfinished)
    (ended' : (execAll more ss st).1 ≠ .unfinished) :
    execAll more ss st = execAll rounds ss st := by
  rcases Nat.le_total rounds more with larger | smaller
  · exact execAll_of_ended ended larger
  · exact (execAll_of_ended ended' smaller).symm

end Stmt

end Scriptlet
