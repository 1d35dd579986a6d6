/-
Scriptlet.Proofs.Scope.Static — where a variable is does not depend on the run.

The walk over a script knows the names in scope at each place, and a run comes
to that place with the same names whatever it did before: a statement that is
over has left the names that the walk says, one that is not over has nothing
after it, and a body of a loop starts every time with the scopes that the loop
started with. So the marks of the walk are where the search of each lookup and
each assignment stops, and the run of the marked script is the run of the script.
-/
import Scriptlet.Proofs.Faults
import Scriptlet.Proofs.Scope.Marked

namespace Scriptlet

open Marked (undefined)

/-! ## 1. A marked tree without its marks -/

namespace Names

/-- Without its marks a marked expression is the expression. -/
@[simp] theorem erase_markExpr (names : Names) (e : Expr) : (names.markExpr e).erase = e := by
  induction e with
  | literal value token => rfl
  | reference name token => rfl
  | grouping opening inner closing ih => simp only [markExpr, Marked.Expr.erase, ih]
  | unary op sign operand ih => simp only [markExpr, Marked.Expr.erase, ih]
  | binary op left sign right ihLeft ihRight =>
    simp only [markExpr, Marked.Expr.erase, ihLeft, ihRight]
  | logical op left sign right ihLeft ihRight =>
    simp only [markExpr, Marked.Expr.erase, ihLeft, ihRight]
  | assign name target value ih => simp only [markExpr, Marked.Expr.erase, ih]

theorem erase_marked :
    (∀ s : Stmt, ∀ names : Names, (names.mark s).erase = s) ∧
      ∀ ss : List Stmt, ∀ names : Names, Marked.Stmt.eraseAll (names.markAll ss) = ss := by
  refine Stmt.induction ?expr ?print ?declare ?block ?ifThen ?ifElse ?loop ?nil ?cons
  case expr => exact fun e semicolon names => by simp only [mark, Marked.Stmt.erase, erase_markExpr]
  case print =>
    exact fun keyword e semicolon names => by simp only [mark, Marked.Stmt.erase, erase_markExpr]
  case declare =>
    intro keyword name target value semicolon names
    cases value with
    | none => rfl
    | some e =>
      simp only [mark, Marked.Stmt.erase, Option.map_some, erase_markExpr]
  case block =>
    intro b body names
    simp only [mark, Marked.Stmt.erase, body]
  case ifThen =>
    intro keyword condition thenBlock body names
    simp only [mark, Marked.Stmt.erase, erase_markExpr, body]
  case ifElse =>
    intro keyword condition thenBlock elseBlock body other names
    simp only [mark, Marked.Stmt.erase, erase_markExpr, body, other]
  case loop =>
    intro keyword condition b body names
    simp only [mark, Marked.Stmt.erase, erase_markExpr, body]
  case nil => exact fun names => rfl
  case cons =>
    intro s rest first others names
    simp only [markAll, Marked.Stmt.eraseAll, first, others]

theorem eraseAll_markAll (names : Names) (ss : List Stmt) :
    Marked.Stmt.eraseAll (names.markAll ss) = ss :=
  erase_marked.2 ss names

end Names

/-! ## 2. Expressions -/

/-- A run that is not stuck goes on to one that is not. -/
theorem Marked.andThen_eq_some {α β : Type} {checked : Option (Evaluated α)} {r : Evaluated α}
    {checkedNext : α → Environment → Option (Evaluated β)} {next : α → Environment → Evaluated β}
    {names : Names} (first : checked = some r) (same : r.2.names = names)
    (second : ∀ a env, env.names = names → checkedNext a env = some (next a env)) :
    Marked.andThen checked checkedNext = some (r.andThen next) := by
  subst first
  match r with
  | (.error fault, env) => rfl
  | (.ok a, env) => exact second a env same

/-- A mark that is where the search stops reads what the search finds. -/
theorem Marked.read_eq_some {mark : Option Nat} {name : String} {env : Environment}
    (found : env.distance? name = mark) (site : Scriptlet.Expr) :
    Marked.read mark name site env =
      some (match env.get? name with
        | some value => (.ok value, env)
        | none => (.error (undefined name site), env)) := by
  unfold Marked.read
  rw [if_pos found]
  cases mark with
  | none => rw [(Environment.access_of_unbound .nil found).1]
  | some distance =>
    obtain ⟨value, bound, read, -⟩ := Environment.access_of_distance .nil found
    simp only [bound, read, Option.map_some]

/-- A mark that is where the search stops overwrites what the search overwrites. -/
theorem Marked.overwrite_eq_some {mark : Option Nat} {name : String} {env : Environment}
    (found : env.distance? name = mark) (a : Value) (site : Scriptlet.Expr) :
    Marked.overwrite mark name a site env =
      some (match env.assign name a with
        | .ok (previous, env) => (.ok previous, env)
        | .error cause => (.error { cause, site := .expr site }, env)) := by
  unfold Marked.overwrite
  rw [if_pos found]
  cases mark with
  | none =>
    rw [(Environment.access_of_unbound a found).2]
    rfl
  | some distance =>
    obtain ⟨previous, bound, -, changed⟩ := Environment.access_of_distance a found
    simp only [bound, changed, Option.map_some]

namespace Expr

/-- With the names that the walk knew, the marks are where the searches stop. -/
theorem eval_marked (e : Expr) {env : Environment} {names : Names} (same : env.names = names) :
    (names.markExpr e).eval env = some (e.eval env) := by
  induction e generalizing env with
  | literal value token => rfl
  | reference name token =>
    exact Marked.read_eq_some (Environment.distance?_of_names same) (reference name token)
  | grouping opening inner closing ih => exact ih same
  | unary op sign operand ih =>
    rw [eval_unary, Names.markExpr, Marked.Expr.eval, Names.erase_markExpr]
    exact Marked.andThen_eq_some (ih same) (operand.eval_names env) fun a env same => rfl
  | binary op left sign right ihLeft ihRight =>
    rw [eval_binary, Names.markExpr, Marked.Expr.eval]
    simp only [Names.erase_markExpr]
    refine Marked.andThen_eq_some (ihLeft same) (left.eval_names env) fun a env same' => ?_
    refine Marked.andThen_eq_some (ihRight (same'.trans same)) (right.eval_names env) ?_
    exact fun b env same => rfl
  | logical op left sign right ihLeft ihRight =>
    rw [eval_logical, Names.markExpr, Marked.Expr.eval]
    simp only [Names.erase_markExpr]
    refine Marked.andThen_eq_some (ihLeft same) (left.eval_names env) fun a env same' => ?_
    refine Marked.andThen_eq_some rfl same' fun truth env same' => ?_
    split
    · rfl
    · exact ihRight (same'.trans same)
  | assign name target value ih =>
    rw [eval_assign, Names.markExpr, Marked.Expr.eval]
    simp only [Names.erase_markExpr]
    refine Marked.andThen_eq_some (ih same) (value.eval_names env) fun a env same' => ?_
    exact Marked.overwrite_eq_some (Environment.distance?_of_names (same'.trans same)) a
      (assign name target value)

theorem test_marked (condition : Expr) {env : Environment} {names : Names}
    (same : env.names = names) :
    (names.markExpr condition).test env = some (condition.test env) := by
  rw [test_eq, Marked.Expr.test, Names.erase_markExpr]
  refine Marked.andThen_eq_some (condition.eval_marked same) (condition.eval_names env) ?_
  exact fun a env same => rfl

/-- An initializer that is left out has nothing to look up. -/
theorem evalInitial_marked (value : Option Expr) {env : Environment} {names : Names}
    (same : env.names = names) :
    Marked.Expr.evalInitial (value.map names.markExpr) env = some (evalInitial value env) := by
  cases value with
  | none => rfl
  | some e => exact e.eval_marked same

end Expr

/-! ## 3. Statements -/

/-- From states with these names the checked run is never stuck and is the run. -/
def Follows (names : Names) (checked : State → Option (Ending × State))
    (run : State → Ending × State) : Prop :=
  ∀ st : State, st.env.names = names → checked st = some (run st)

/-- From an evaluation to a run: the names are those that were marked with. -/
theorem Marked.thenRun_eq_some {α : Type} {checked : Option (Evaluated α)} {r : Evaluated α}
    {st : State} {checkedNext : α → State → Option (Ending × State)}
    {next : α → State → Ending × State} {names : Names} (first : checked = some r)
    (same : r.2.names = names) (second : ∀ a, Follows names (checkedNext a) (next a)) :
    Marked.thenRun checked st checkedNext = some (r.thenRun st next) := by
  subst first
  match r with
  | (.error fault, env) => rfl
  | (.ok a, env) => exact second a { st with env } same

/-- The next statement is marked with the names that this one leaves when it is over. -/
theorem Marked.thenNext_eq_some {checked : Option (Ending × State)} {r : Ending × State}
    {checkedNext : State → Option (Ending × State)} {next : State → Ending × State}
    {names : Names} (first : checked = some r) (same : r.1 = .done → r.2.env.names = names)
    (second : Follows names checkedNext next) :
    Marked.thenNext checked checkedNext = some (Ending.thenRun r next) := by
  subst first
  match r with
  | (.done, st) => exact second st (same rfl)
  | (.failed fault, st) => rfl
  | (.unfinished, st) => rfl

namespace Stmt

variable {names : Names} {checked : State → Option (Ending × State)}
  {run : State → Ending × State}

/-- The body is marked with one more scope, which is empty when the run opens it. -/
theorem follows_inScope (b : Block Stmt) (body : Follows names.push checked run) :
    Follows names (Marked.Stmt.inScope b checked) (inScope b run) := by
  intro st same
  have inside := body { st with env := st.env.push } (by rw [Environment.names_push, same])
  simp only [Marked.Stmt.inScope, inScope, inside]
  cases (run { st with env := st.env.push }).2.env.pop <;> rfl

/-- Both branches are marked with the names before the condition. -/
theorem follows_choose (condition : Expr) {checkedNo : State → Option (Ending × State)}
    {no : State → Ending × State} (yes : Follows names checked run)
    (other : Follows names checkedNo no) :
    Follows names (Marked.Stmt.choose (names.markExpr condition) checked checkedNo)
      (choose condition run no) := by
  intro st same
  rw [Marked.Stmt.choose, choose_eq]
  refine Marked.thenRun_eq_some (condition.test_marked same)
    ((condition.test_names st.env).trans same) fun truth st same => ?_
  cases truth with
  | true => exact yes st same
  | false => exact other st same

/-- Every round starts with the names that the loop was marked with, since a body keeps them. -/
theorem follows_repeatWhile (condition : Expr) (body : Follows names checked run)
    (keeps : KeepsNames run) (rounds : Nat) :
    Follows names (Marked.Stmt.repeatWhile (names.markExpr condition) checked rounds)
      (repeatWhile condition run rounds) := by
  induction rounds with
  | zero => exact fun st same => rfl
  | succ rounds ih =>
    intro st same
    rw [Marked.Stmt.repeatWhile, repeatWhile_succ]
    refine Marked.thenRun_eq_some (condition.test_marked same)
      ((condition.test_names st.env).trans same) fun truth st same => ?_
    cases truth with
    | true => exact Marked.thenNext_eq_some (body st same) (fun _ => (keeps st).trans same) ih
    | false => rfl

/-- By induction over statements, with the names that hold before each. -/
theorem follows_marked (rounds : Nat) :
    (∀ s : Stmt, ∀ names : Names,
      Follows names ((names.mark s).exec rounds) (s.exec rounds)) ∧
    ∀ ss : List Stmt, ∀ names : Names,
      Follows names (Marked.Stmt.execAll rounds (names.markAll ss)) (execAll rounds ss) := by
  refine induction ?expr ?print ?declare ?block ?ifThen ?ifElse ?loop ?nil ?cons
  case expr =>
    intro e semicolon names st same
    rw [exec_expr, Names.mark, Marked.Stmt.exec]
    refine Marked.thenRun_eq_some (e.eval_marked same) ((e.eval_names st.env).trans same) ?_
    exact fun a st same => rfl
  case print =>
    intro keyword e semicolon names st same
    rw [exec_print, Names.mark, Marked.Stmt.exec]
    refine Marked.thenRun_eq_some (e.eval_marked same) ((e.eval_names st.env).trans same) ?_
    exact fun a st same => rfl
  case declare =>
    intro keyword name target value semicolon names st same
    rw [exec_declare, Names.mark, Marked.Stmt.exec]
    refine Marked.thenRun_eq_some (Expr.evalInitial_marked value same)
      ((evalInitial_names value st.env).trans same) ?_
    exact fun a st same => rfl
  case block =>
    intro b body names st same
    rw [Names.mark, Marked.Stmt.exec, Names.eraseAll_markAll]
    exact follows_inScope b (body names.push) st same
  case ifThen =>
    intro keyword condition thenBlock body names st same
    rw [Names.mark, Marked.Stmt.exec, Names.eraseAll_markAll]
    refine follows_choose condition ?_ ?_ st same
    · exact follows_inScope thenBlock (body names.push)
    · exact fun st same => rfl
  case ifElse =>
    intro keyword condition thenBlock elseBlock body other names st same
    rw [Names.mark, Marked.Stmt.exec, Names.eraseAll_markAll, Names.eraseAll_markAll]
    refine follows_choose condition ?_ ?_ st same
    · exact follows_inScope thenBlock (body names.push)
    · exact follows_inScope elseBlock (other names.push)
  case loop =>
    intro keyword condition b body names st same
    rw [Names.mark, Marked.Stmt.exec, Names.eraseAll_markAll]
    refine follows_repeatWhile condition ?_ (keepsNames_block rounds b) rounds st same
    exact follows_inScope b (body names.push)
  case nil => exact fun names st same => rfl
  case cons =>
    intro s rest first others names st same
    rw [Names.markAll, Marked.Stmt.execAll, execAll_cons]
    refine Marked.thenNext_eq_some (first names st same) (fun done => ?_) (others (names.after s))
    rw [exec_names_of_done done, same]

end Stmt

/-! ## 4. Undefined variables -/

/-- A fault that is one of an undefined variable is among `faults`. -/
def Fault.UndefinedIn (faults : List Fault) (fault : Fault) : Prop :=
  ∀ name, fault.cause = .undefined name → fault ∈ faults

/-- What is undefined in a part is undefined in the whole: of the faults of two parts these are the
ones or the others. -/
theorem Fault.UndefinedIn.mono {faults more : List Fault} (sub : faults ⊆ more) :
    ∀ fault : Fault, fault.UndefinedIn faults → fault.UndefinedIn more :=
  fun _ known name undefined => sub (known name undefined)

theorem Fault.UndefinedIn.left {faults more : List Fault} :
    ∀ fault : Fault, fault.UndefinedIn faults → fault.UndefinedIn (faults ++ more) :=
  Fault.UndefinedIn.mono (List.subset_append_left _ _)

theorem Fault.UndefinedIn.right {faults more : List Fault} :
    ∀ fault : Fault, fault.UndefinedIn more → fault.UndefinedIn (faults ++ more) :=
  Fault.UndefinedIn.mono (List.subset_append_right _ _)

/-- A refused operator is no undefined variable. -/
theorem Evaluated.undefinedIn_blame {α : Type} (faults : List Fault) (site : Expr)
    (answer : Except TypeError α) (env : Environment) :
    FailsOnlyBy (Fault.UndefinedIn faults) (blame site answer, env) :=
  failsOnlyBy_blame env fun _ _ => nofun

namespace Expr

open Evaluated (FailsOnlyBy failsOnlyBy_ok failsOnlyBy_error undefinedIn_blame)

/-- An expression misses only variables that are marked as unbound in it. -/
theorem eval_undefinedIn (e : Expr) {env : Environment} {names : Names}
    (same : env.names = names) :
    FailsOnlyBy (Fault.UndefinedIn (names.markExpr e).unbound) (e.eval env) := by
  induction e generalizing env with
  | literal value token => exact failsOnlyBy_ok value env
  | reference name token =>
    rw [eval, Names.markExpr, ← same, Environment.distance?_names]
    cases nearest : env.distance? name with
    | none =>
      rw [(Environment.access_of_unbound .nil nearest).1]
      exact failsOnlyBy_error env fun _ _ => List.mem_singleton.mpr rfl
    | some distance =>
      obtain ⟨value, -, read, -⟩ := Environment.access_of_distance .nil nearest
      rw [read]
      exact failsOnlyBy_ok value env
  | grouping opening inner closing ih => exact ih same
  | unary op sign operand ih =>
    rw [eval_unary]
    exact (ih same).andThen fun a env _ => undefinedIn_blame _ _ _ env
  | binary op left sign right ihLeft ihRight =>
    rw [eval_binary]
    refine ((ihLeft same).mono Fault.UndefinedIn.left).andThen fun a env same' => ?_
    rw [left.eval_names, same] at same'
    exact ((ihRight same').mono Fault.UndefinedIn.right).andThen fun b env _ =>
      undefinedIn_blame _ _ _ env
  | logical op left sign right ihLeft ihRight =>
    rw [eval_logical]
    refine ((ihLeft same).mono Fault.UndefinedIn.left).andThen fun a env same' => ?_
    rw [left.eval_names, same] at same'
    refine (undefinedIn_blame _ _ _ env).andThen fun truth env same'' => ?_
    split
    · exact failsOnlyBy_ok a env
    · exact (ihRight (same''.trans same')).mono Fault.UndefinedIn.right
  | assign name target value ih =>
    rw [eval_assign, Names.markExpr]
    cases nearest : names.distance? name with
    | none =>
      refine ((ih same).mono Fault.UndefinedIn.left).andThen fun a env same' => ?_
      rw [value.eval_names, same] at same'
      rw [← same', Environment.distance?_names] at nearest
      rw [(Environment.access_of_unbound a nearest).2]
      refine failsOnlyBy_error env fun _ _ => List.mem_append_right _ ?_
      rw [Names.erase_markExpr]
      exact List.mem_singleton.mpr rfl
    | some distance =>
      refine (ih same).andThen fun a env same' => ?_
      rw [value.eval_names, same] at same'
      rw [← same', Environment.distance?_names] at nearest
      obtain ⟨previous, -, -, changed⟩ := Environment.access_of_distance a nearest
      rw [changed]
      exact failsOnlyBy_ok previous _

theorem test_undefinedIn (condition : Expr) {env : Environment} {names : Names}
    (same : env.names = names) :
    FailsOnlyBy (Fault.UndefinedIn (names.markExpr condition).unbound) (condition.test env) := by
  rw [test_eq]
  exact (condition.eval_undefinedIn same).andThen fun a env _ => undefinedIn_blame _ _ _ env

end Expr

namespace Stmt

open Ending (FailsOnlyBy failsOnlyBy_done)

/-- By the same induction: a run misses only what the marks say. -/
theorem undefinedIn_marked (rounds : Nat) :
    (∀ s : Stmt, ∀ st : State, ∀ names : Names, st.env.names = names →
      FailsOnlyBy (Fault.UndefinedIn (names.mark s).unbound) (s.exec rounds st)) ∧
    ∀ ss : List Stmt, ∀ st : State, ∀ names : Names, st.env.names = names →
      FailsOnlyBy (Fault.UndefinedIn (Marked.Stmt.unboundAll (names.markAll ss)))
        (execAll rounds ss st) := by
  refine induction ?expr ?print ?declare ?block ?ifThen ?ifElse ?loop ?nil ?cons
  case expr =>
    intro e semicolon st names same
    rw [exec_expr]
    exact (e.eval_undefinedIn same).thenRun fun a st _ => failsOnlyBy_done st
  case print =>
    intro keyword e semicolon st names same
    rw [exec_print]
    exact (e.eval_undefinedIn same).thenRun fun a st _ => failsOnlyBy_done _
  case declare =>
    intro keyword name target value semicolon st names same
    rw [exec_declare]
    cases value with
    | none => exact failsOnlyBy_done _
    | some e => exact (e.eval_undefinedIn same).thenRun fun a st _ => failsOnlyBy_done _
  case block =>
    intro b body st names same
    rw [exec_block]
    refine failsOnlyBy_block rounds b st fun st' inside => ?_
    exact body st' names.push (by rw [inside, same])
  case ifThen =>
    intro keyword condition thenBlock body st names same
    rw [exec_ifThen, Names.mark, Marked.Stmt.unbound]
    refine failsOnlyBy_choose ?_ (fun st' same' => ?_) (fun st' _ => failsOnlyBy_done st')
    · exact (condition.test_undefinedIn same).mono Fault.UndefinedIn.left
    · refine failsOnlyBy_block rounds thenBlock st' fun st'' inside => ?_
      exact (body st'' names.push (by rw [inside, same', same])).mono Fault.UndefinedIn.right
  case ifElse =>
    intro keyword condition thenBlock elseBlock body other st names same
    rw [exec_ifElse, Names.mark, Marked.Stmt.unbound]
    refine failsOnlyBy_choose ?_ (fun st' same' => ?_) (fun st' same' => ?_)
    · exact (condition.test_undefinedIn same).mono Fault.UndefinedIn.left
    · refine failsOnlyBy_block rounds thenBlock st' fun st'' inside => ?_
      refine (body st'' names.push (by rw [inside, same', same])).mono fun fault known => ?_
      exact Fault.UndefinedIn.right fault (Fault.UndefinedIn.left fault known)
    · refine failsOnlyBy_block rounds elseBlock st' fun st'' inside => ?_
      refine (other st'' names.push (by rw [inside, same', same])).mono fun fault known => ?_
      exact Fault.UndefinedIn.right fault (Fault.UndefinedIn.right fault known)
  case loop =>
    intro keyword condition b body st names same
    rw [exec_loop, Names.mark, Marked.Stmt.unbound]
    refine failsOnlyBy_repeatWhile (keepsNames_block rounds b) (fun env same' => ?_)
      (fun st' same' => ?_) rounds
    · exact (condition.test_undefinedIn (same'.trans same)).mono Fault.UndefinedIn.left
    · refine failsOnlyBy_block rounds b st' fun st'' inside => ?_
      exact (body st'' names.push (by rw [inside, same', same])).mono Fault.UndefinedIn.right
  case nil => exact fun st names same => failsOnlyBy_done st
  case cons =>
    intro s rest first others st names same
    rw [execAll_cons, Names.markAll, Marked.Stmt.unboundAll]
    refine FailsOnlyBy.thenRun ?_ fun done => ?_
    · exact (first st names same).mono Fault.UndefinedIn.left
    · refine (others _ (names.after s) ?_).mono Fault.UndefinedIn.right
      rw [exec_names_of_done done, same]

/-! ## 5. Static scoping -/

/-- One walk over a script, which knows the names that the scopes bind at the
start and no values, marks every variable with the number of scopes outward to
its binding or as one without a binding. Whatever the run does, a variable is
read and overwritten just where its mark says, and one without a binding is a
fault; no other variable ever is. -/
theorem scoping_static (p : Program) (env : Environment) :
    Marked.Stmt.eraseAll (env.names.markAll p) = p ∧
      ∀ (rounds : Nat) (out : String),
        Marked.Stmt.execAll rounds (env.names.markAll p) { env, out } =
          some (execAll rounds p { env, out }) ∧
        ∀ fault name, (execAll rounds p { env, out }).1 = .failed fault →
          fault.cause = .undefined name →
          fault ∈ Marked.Stmt.unboundAll (env.names.markAll p) := by
  refine ⟨env.names.eraseAll_markAll p, fun rounds out => ⟨?_, ?_⟩⟩
  · exact (follows_marked rounds).2 p env.names { env, out } rfl
  · intro fault name failed undefined
    exact (undefinedIn_marked rounds).2 p { env, out } env.names rfl fault failed name undefined

/-- `var x; { x; var x = x; x = y; }`, with one token in place of all. -/
def shadowed (token : Token) : Program :=
  [.declare token "x" token none token,
    .block
      { opening := token
        body :=
          [.expr (.reference "x" token) token,
            .declare token "x" token (some (.reference "x" token)) token,
            .expr (.assign "x" token (.reference "y" token)) token]
        closing := token }]

/-- The initializer of the inner declaration still is about the outer variable,
and only the name that no scope has is a fault. -/
theorem scoping_shadowed :
    let token : Token := { kind := .finish, lexeme := "", line := 1, start := 0 }
    let fault : Fault := undefined "y" (.reference "y" token)
    Environment.empty.names.markAll (shadowed token) =
        [.declare token "x" token none token,
          .block
            { opening := token
              body :=
                [.expr (.reference "x" token (some 1)) token,
                  .declare token "x" token (some (.reference "x" token (some 1))) token,
                  .expr (.assign "x" token (some 0) (.reference "y" token none)) token]
              closing := token }] ∧
      (execAll 0 (shadowed token) { env := .empty, out := "" }).1 = .failed fault ∧
      fault.cause = .undefined "y" ∧
      fault ∈ Marked.Stmt.unboundAll (Environment.empty.names.markAll (shadowed token)) := by
  intro token fault
  refine ⟨rfl, rfl, rfl, ?_⟩
  exact ((scoping_static (shadowed token) .empty).2 0 "").2 fault "y" rfl rfl

end Stmt

end Scriptlet
