/-
Scriptlet.Proofs.Scope.Discipline — what a statement leaves of the scopes.

A declaration that is over has added its name to the innermost scope. Apart from
that a statement leaves each scope with the names that it had, and as many
scopes as there were, however it ends: a block leaves its own scope, and never
fails to, since its body has left the scopes outside with their names and so has
left them there.
-/
import Mathlib.Data.Finset.Lattice.Lemmas
import Scriptlet.Proofs.Scope.Names
import Scriptlet.Proofs.Statements

namespace Scriptlet

/-- The names that the scopes bind when a statement is over. -/
def Names.after (names : Names) : Stmt → Names
  | .declare _ name _ _ _ => names.declare name
  | _ => names

/-- The names that the scopes bind however a statement ended. -/
def Names.left (names : Names) (s : Stmt) : Ending → Names
  | .done => names.after s
  | _ => names

/-- If nothing is declared, it makes no difference how the statement ended. -/
theorem Names.left_of_after {names : Names} {s : Stmt} (same : names.after s = names)
    (ending : Ending) : names.left s ending = names := by
  cases ending with
  | done => exact same
  | failed fault => rfl
  | unfinished => rfl

/-- A statement adds to the innermost scope, and to no other. -/
theorem Names.enclosing_left (names : Names) (s : Stmt) (ending : Ending) :
    (names.left s ending).enclosing = names.enclosing := by
  cases ending with
  | done => cases s <;> rfl
  | failed fault => rfl
  | unfinished => rfl

/-! ## 1. Sequences -/

/-- The run leaves every scope with the names that it has. -/
def KeepsNames (run : State → Ending × State) : Prop :=
  ∀ st : State, (run st).2.env.names = st.env.names

/-- An evaluation keeps the names, and so what follows it decides. -/
theorem Evaluated.thenRun_names {α : Type} {r : Evaluated α} {st : State} {names : Names}
    {next : α → State → Ending × State} (first : r.2.names = names)
    (second : ∀ a (st : State), st.env.names = names → (next a st).2.env.names = names) :
    (r.thenRun st next).2.env.names = names := by
  match r with
  | (.error fault, env) => exact first
  | (.ok a, env) => exact second a { st with env } first

theorem Ending.thenRun_names {r : Ending × State} {names : Names}
    {next : State → Ending × State} (first : r.2.env.names = names)
    (second : KeepsNames next) : (Ending.thenRun r next).2.env.names = names := by
  match r with
  | (.done, st) => exact (second st).trans first
  | (.failed fault, st) => exact first
  | (.unfinished, st) => exact first

namespace Stmt

/-! ## 2. Blocks, conditions and loops -/

/-- A block is left as its body ends, if the body leaves the scopes outside of it alone. -/
theorem inScope_eq (b : Block Stmt) {body : State → Ending × State} {st : State}
    (outside : (body { st with env := st.env.push }).2.env.names.enclosing =
      st.env.names.scopes) :
    ∃ left, (body { st with env := st.env.push }).2.env.pop = .ok left ∧
      left.names = st.env.names ∧
      inScope b body st =
        ((body { st with env := st.env.push }).1,
          { (body { st with env := st.env.push }).2 with env := left }) := by
  obtain ⟨left, popped, same⟩ := Environment.pop_of_names outside
  refine ⟨left, popped, same, ?_⟩
  simp only [inScope, popped]

/-- The body may add to its own scope, which is gone when it is left. -/
theorem keepsNames_inScope (b : Block Stmt) {body : State → Ending × State}
    (outside : ∀ st : State, (body st).2.env.names.enclosing = st.env.names.enclosing) :
    KeepsNames (inScope b body) := by
  intro st
  have inside := outside { st with env := st.env.push }
  rw [Environment.names_push] at inside
  obtain ⟨left, -, same, run⟩ := inScope_eq b inside
  rw [run]
  exact same

/-- One of the two branches is taken, or neither. -/
theorem keepsNames_choose (condition : Expr) {yes no : State → Ending × State}
    (keepsYes : KeepsNames yes) (keepsNo : KeepsNames no) :
    KeepsNames (choose condition yes no) := by
  intro st
  rw [choose_eq]
  refine Evaluated.thenRun_names (condition.test_names st.env) fun truth st same => ?_
  split
  · exact (keepsYes st).trans same
  · exact (keepsNo st).trans same

/-- Round by round; each starts and ends with the names that were there before the loop. -/
theorem keepsNames_repeatWhile (condition : Expr) {body : State → Ending × State}
    (keeps : KeepsNames body) (rounds : Nat) : KeepsNames (repeatWhile condition body rounds) := by
  induction rounds with
  | zero => exact fun st => rfl
  | succ rounds ih =>
    intro st
    rw [repeatWhile_succ]
    refine Evaluated.thenRun_names (condition.test_names st.env) fun truth st same => ?_
    split
    · exact Ending.thenRun_names ((keeps st).trans same) ih
    · exact same

/-! ## 3. All statements -/

theorem evalInitial_names (value : Option Expr) (env : Environment) :
    (Expr.evalInitial value env).2.names = env.names := by
  cases value with
  | none => rfl
  | some e => exact e.eval_names env

/-- What a statement leaves of the names, and what a body does. -/
theorem names_of_run (rounds : Nat) :
    (∀ s : Stmt, ∀ st : State,
      (s.exec rounds st).2.env.names = st.env.names.left s (s.exec rounds st).1) ∧
    ∀ ss : List Stmt, ∀ st : State,
      (execAll rounds ss st).2.env.names.enclosing = st.env.names.enclosing ∧
        ((execAll rounds ss st).1 = .done →
          (execAll rounds ss st).2.env.names = ss.foldl Names.after st.env.names) := by
  -- Only a declaration changes the names, so every other statement keeps them
  -- whichever way it ends.
  have keeps : ∀ s : Stmt, (∀ names : Names, names.after s = names) → KeepsNames (s.exec rounds) →
      ∀ st : State, (s.exec rounds st).2.env.names = st.env.names.left s (s.exec rounds st).1 := by
    intro s plain kept st
    rw [kept st, Names.left_of_after (plain _)]
  refine induction ?expr ?print ?declare ?block ?ifThen ?ifElse ?loop ?nil ?cons
  case expr =>
    intro e semicolon
    refine keeps _ (fun _ => rfl) fun st => ?_
    rw [exec_expr]
    exact Evaluated.thenRun_names (e.eval_names st.env) fun a st same => same
  case print =>
    intro keyword e semicolon
    refine keeps _ (fun _ => rfl) fun st => ?_
    rw [exec_print]
    exact Evaluated.thenRun_names (e.eval_names st.env) fun a st same => same
  case declare =>
    intro keyword name target value semicolon st
    rw [exec_declare]
    have same := evalInitial_names value st.env
    match evaluated : Expr.evalInitial value st.env with
    | (.error fault, env) =>
      rw [evaluated] at same
      exact same
    | (.ok a, env) =>
      rw [evaluated] at same
      show (env.define name a).names = st.env.names.declare name
      rw [Environment.names_define, same]
  case block =>
    intro b body
    exact keeps _ (fun _ => rfl) (keepsNames_inScope b fun st => (body st).1)
  case ifThen =>
    intro keyword condition thenBlock body
    refine keeps _ (fun _ => rfl) (keepsNames_choose condition ?_ fun st => rfl)
    exact keepsNames_inScope thenBlock fun st => (body st).1
  case ifElse =>
    intro keyword condition thenBlock elseBlock body other
    refine keeps _ (fun _ => rfl) (keepsNames_choose condition ?_ ?_)
    · exact keepsNames_inScope thenBlock fun st => (body st).1
    · exact keepsNames_inScope elseBlock fun st => (other st).1
  case loop =>
    intro keyword condition b body
    refine keeps _ (fun _ => rfl) (keepsNames_repeatWhile condition ?_ rounds)
    exact keepsNames_inScope b fun st => (body st).1
  case nil =>
    exact fun st => ⟨rfl, fun _ => rfl⟩
  case cons =>
    intro s rest first others st
    have outside : (s.exec rounds st).2.env.names.enclosing = st.env.names.enclosing := by
      rw [first st, Names.enclosing_left]
    have inside := first st
    rw [execAll_cons]
    match ran : s.exec rounds st with
    | (.done, st') =>
      rw [ran] at outside inside
      obtain ⟨enclosing, names⟩ := others st'
      refine ⟨enclosing.trans outside, fun done => ?_⟩
      show _ = rest.foldl Names.after (st.env.names.left s .done)
      rw [← inside]
      exact names done
    | (.failed fault, st') =>
      rw [ran] at outside
      exact ⟨outside, nofun⟩
    | (.unfinished, st') =>
      rw [ran] at outside
      exact ⟨outside, nofun⟩

/-- However a statement ends, its names are known beforehand. -/
theorem exec_names (rounds : Nat) (s : Stmt) (st : State) :
    (s.exec rounds st).2.env.names = st.env.names.left s (s.exec rounds st).1 :=
  (names_of_run rounds).1 s st

/-- A list of statements leaves the outer scopes their names, also when it does not come to its
end. -/
theorem execAll_names_enclosing (rounds : Nat) (ss : List Stmt) (st : State) :
    (execAll rounds ss st).2.env.names.enclosing = st.env.names.enclosing :=
  ((names_of_run rounds).2 ss st).1

theorem exec_names_of_done {rounds : Nat} {s : Stmt} {st : State}
    (done : (s.exec rounds st).1 = .done) :
    (s.exec rounds st).2.env.names = st.env.names.after s := by
  have names := s.exec_names rounds st
  rw [done] at names
  exact names

/-- A block keeps all names, so it may stand in a loop or a branch. -/
theorem keepsNames_block (rounds : Nat) (b : Block Stmt) :
    KeepsNames (inScope b (execAll rounds b.body)) :=
  keepsNames_inScope b (execAll_names_enclosing rounds b.body)

/-- A block always has its scope to leave, and ends as its body does. -/
theorem inScope_execAll (rounds : Nat) (b : Block Stmt) (st : State) :
    ∃ ending inner left,
      execAll rounds b.body { st with env := st.env.push } = (ending, inner) ∧
        inner.env.pop = .ok left ∧
        inScope b (execAll rounds b.body) st = (ending, { inner with env := left }) := by
  have outside := execAll_names_enclosing rounds b.body { st with env := st.env.push }
  rw [Environment.names_push] at outside
  obtain ⟨left, popped, -, run⟩ := inScope_eq b outside
  exact ⟨_, _, left, rfl, popped, run⟩

/-! ## 4. The discipline -/

/-- The name that a statement has added to the innermost scope, if it ended so. -/
def declared : Stmt → Ending → Finset String
  | .declare _ name _ _ _, .done => {name}
  | _, _ => ∅

/-- What a run of a statement leaves of the scopes that were there before it. -/
structure KeepsScopes (s : Stmt) (before : Environment) (ran : Ending × State) : Prop where
  depth : ran.2.env.depth = before.depth
  enclosing : ran.2.env.enclosing.map Scope.names = before.enclosing.map Scope.names
  innermost : ran.2.env.innermost.names = before.innermost.names ∪ s.declared ran.1
  nothingLost : before.innermost.names ⊆ ran.2.env.innermost.names

/-- The name that is added is the one that the statement declares itself. -/
theorem names_left_innermost (names : Names) (s : Stmt) (ending : Ending) :
    (names.left s ending).innermost = names.innermost ∪ s.declared ending := by
  cases ending with
  | done =>
    cases s with
    | declare keyword name target value semicolon =>
      show insert name names.innermost = names.innermost ∪ {name}
      rw [Finset.union_comm, Finset.insert_eq]
    | _ => exact (Finset.union_empty _).symm
  | failed fault => cases s <;> exact (Finset.union_empty _).symm
  | unfinished => cases s <;> exact (Finset.union_empty _).symm

/-- The discipline for one statement, from the names it leaves. -/
theorem keepsScopes_exec (rounds : Nat) (s : Stmt) (st : State) :
    s.KeepsScopes st.env (s.exec rounds st) := by
  have names := s.exec_names rounds st
  have enclosing := congrArg Names.enclosing names
  have innermost := congrArg Names.innermost names
  rw [Names.enclosing_left] at enclosing
  rw [names_left_innermost] at innermost
  refine ⟨?_, enclosing, innermost, ?_⟩
  · have same := congrArg List.length enclosing
    simp only [Environment.names, List.length_map] at same
    simp only [Environment.depth, Environment.scopes, List.length_cons, same]
  · exact (Finset.subset_union_left).trans innermost.ge

/-- Every statement, however it ends, leaves as many scopes as there were, each
with the names that it had, but for the name that a declaration adds to the
innermost scope when it is over. No expression changes the names of a scope. And
the scope of a block can always be left, so a block ends as its body does. -/
theorem scopes_kept (rounds : Nat) (st : State) :
    (∀ s : Stmt, s.KeepsScopes st.env (s.exec rounds st)) ∧
      (∀ e : Expr, (e.eval st.env).2.scopes.map Scope.names = st.env.scopes.map Scope.names) ∧
      ∀ b : Block Stmt, ∃ ending inner left,
        execAll rounds b.body { st with env := st.env.push } = (ending, inner) ∧
          inner.env.pop = .ok left ∧
          exec rounds (.block b) st = (ending, { inner with env := left }) := by
  refine ⟨?_, ?_, ?_⟩
  · exact fun s => s.keepsScopes_exec rounds st
  · exact fun e => Environment.names_eq_iff.mp (e.eval_names st.env)
  · exact fun b => inScope_execAll rounds b st

end Stmt

end Scriptlet
