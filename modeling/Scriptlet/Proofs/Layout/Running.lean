/-
Scriptlet.Proofs.Layout.Running — a run does not look at the places of tokens, nor at
what was printed before it.

A tree with its tokens exchanged runs as the tree does: it prints the same, binds the
same, ends in the same way after the same number of rounds, and a fault has the same
cause and blames the node that was exchanged for the node. Text that was printed
before stays in front of what is printed.

`replayed` says both of the end of a run at once. It goes through every sequence of
steps, so the one induction over statements needs a line for each constructor.
-/
import Scriptlet.Proofs.Grammar.Mapped
import Scriptlet.Proofs.Statements

namespace Scriptlet

variable {α β : Type} (f : Token → Token) (printed : String)

def Fault.mapTokens (fault : Fault) : Fault := { fault with site := fault.site.mapTokens f }

/-! ## 1. Evaluations -/

namespace Evaluated

def mapTokens : Evaluated α → Evaluated α
  | (.ok a, env) => (.ok a, env)
  | (.error fault, env) => (.error (fault.mapTokens f), env)

@[simp] theorem mapTokens_ok (a : α) (env : Environment) :
    mapTokens f (.ok a, env) = (.ok a, env) := rfl

@[simp] theorem mapTokens_error (fault : Fault) (env : Environment) :
    mapTokens f ((.error fault, env) : Evaluated α) = (.error (fault.mapTokens f), env) := rfl

/-- To exchange the tokens of a fault and go on is to go on and exchange them. -/
@[simp] theorem mapTokens_andThen (r : Evaluated α) (next : α → Environment → Evaluated β) :
    mapTokens f (r.andThen next) =
      (mapTokens f r).andThen fun a env => mapTokens f (next a env) := by
  rcases r with ⟨fault | a, env⟩ <;> rfl

@[simp] theorem mapTokens_blame (site : Expr) (answer : Except TypeError α) (env : Environment) :
    mapTokens f (blame site answer, env) = (blame (site.mapTokens f) answer, env) := by
  cases answer <;> rfl

end Evaluated

/-- An evaluation never looks at a token, except to blame the node it is in. -/
theorem Expr.eval_mapTokens (e : Expr) (env : Environment) :
    (e.mapTokens f).eval env = Evaluated.mapTokens f (e.eval env) := by
  induction e generalizing env with
  | literal value token => rfl
  | reference name token =>
    simp only [mapTokens, eval]
    cases env.get? name <;> rfl
  | grouping opening inner closing ih => exact ih env
  | unary op sign operand ih => simp [mapTokens, eval_unary, ih]
  | binary op left sign right ihLeft ihRight => simp [mapTokens, eval_binary, ihLeft, ihRight]
  | logical op left sign right ihLeft ihRight =>
    simp only [mapTokens, eval_logical, ihLeft, ihRight, Evaluated.mapTokens_andThen,
      Evaluated.mapTokens_blame]
    congr
    funext a env
    congr
    funext truth env
    split <;> simp
  | assign name target value ih =>
    simp only [mapTokens, eval_assign, ih, Evaluated.mapTokens_andThen]
    congr
    funext a env
    cases env.assign name a <;> rfl

theorem Expr.test_mapTokens (condition : Expr) (env : Environment) :
    (condition.mapTokens f).test env = Evaluated.mapTokens f (condition.test env) := by
  simp [test_eq, eval_mapTokens]

theorem Expr.evalInitial_mapTokens (value : Option Expr) (env : Environment) :
    evalInitial (value.map (mapTokens f)) env =
      Evaluated.mapTokens f (evalInitial value env) := by
  cases value with
  | none => rfl
  | some e => exact e.eval_mapTokens f env

/-! ## 2. Statements -/

def State.after (st : State) : State := { st with out := printed ++ st.out }

theorem State.after_empty (st : State) : st.after "" = st := by
  simp [after]

def Ending.mapTokens : Ending → Ending
  | .failed fault => .failed (fault.mapTokens f)
  | .done => .done
  | .unfinished => .unfinished

/-- The end of a run with other tokens, and with something printed before. -/
def replayed (r : Ending × State) : Ending × State := (r.1.mapTokens f, r.2.after printed)

variable {f printed}

/-- What was printed before stays in front, whatever the next run prints. -/
theorem Evaluated.thenRun_replayed {r : Evaluated α} {st : State}
    {next next' : α → State → Ending × State}
    (same : ∀ a st, next' a (st.after printed) = replayed f printed (next a st)) :
    (r.mapTokens f).thenRun (st.after printed) next' = replayed f printed (r.thenRun st next) := by
  rcases r with ⟨fault | a, env⟩
  · rfl
  · exact same a { st with env }

theorem Ending.thenRun_replayed {r : Ending × State} {next next' : State → Ending × State}
    (same : ∀ st, next' (st.after printed) = replayed f printed (next st)) :
    Ending.thenRun (replayed f printed r) next' = replayed f printed (Ending.thenRun r next) := by
  rcases r with ⟨ending, st⟩
  cases ending with
  | done => exact same st
  | failed fault => rfl
  | unfinished => rfl

namespace Stmt

variable {body body' yes yes' no no' : State → Ending × State}

/-- The scope of a block is opened and left in both runs. -/
theorem inScope_replayed {rounds : Nat} {b : Block Stmt}
    (same : ∀ st, execAll rounds (mapAll f b.body) (st.after printed) =
      replayed f printed (execAll rounds b.body st)) (st : State) :
    inScope (mapBlock f b) (execAll rounds (mapBlock f b).body) (st.after printed) =
      replayed f printed (inScope b (execAll rounds b.body) st) := by
  obtain ⟨opening, body, closing⟩ := b
  have inside := same { st with env := st.env.push }
  have pushed : { st.after printed with env := (st.after printed).env.push } =
      State.after printed { st with env := st.env.push } := rfl
  rw [mapBlock, inScope, inScope, pushed, inside]
  rcases execAll rounds body { st with env := st.env.push } with ⟨ending, left⟩
  simp only [replayed, State.after]
  cases left.env.pop <;> rfl

/-- The condition has one truth value, so both runs take the same branch. -/
theorem choose_replayed (condition : Expr)
    (sameYes : ∀ st, yes' (st.after printed) = replayed f printed (yes st))
    (sameNo : ∀ st, no' (st.after printed) = replayed f printed (no st)) (st : State) :
    choose (condition.mapTokens f) yes' no' (st.after printed) =
      replayed f printed (choose condition yes no st) := by
  rw [choose_eq, choose_eq]
  show Evaluated.thenRun ((condition.mapTokens f).test st.env) _ _ = _
  rw [condition.test_mapTokens]
  refine Evaluated.thenRun_replayed fun truth st => ?_
  cases truth with
  | true => exact sameYes st
  | false => exact sameNo st

theorem repeatWhile_replayed (condition : Expr)
    (same : ∀ st, body' (st.after printed) = replayed f printed (body st)) (rounds : Nat)
    (st : State) :
    repeatWhile (condition.mapTokens f) body' rounds (st.after printed) =
      replayed f printed (repeatWhile condition body rounds st) := by
  induction rounds generalizing st with
  | zero => rfl
  | succ rounds ih =>
    rw [repeatWhile_succ, repeatWhile_succ]
    show Evaluated.thenRun ((condition.mapTokens f).test st.env) _ _ = _
    rw [condition.test_mapTokens]
    refine Evaluated.thenRun_replayed fun truth st => ?_
    cases truth with
    | true =>
      show Ending.thenRun (body' (st.after printed)) _ = _
      rw [same]
      exact Ending.thenRun_replayed ih
    | false => rfl

/-- Statements with other tokens, after something was printed. -/
theorem run_replayed (f : Token → Token) (printed : String) (rounds : Nat) :
    (∀ s : Stmt, ∀ st : State, exec rounds (s.mapTokens f) (st.after printed) =
      replayed f printed (exec rounds s st)) ∧
    ∀ ss : List Stmt, ∀ st : State, execAll rounds (mapAll f ss) (st.after printed) =
      replayed f printed (execAll rounds ss st) := by
  refine Stmt.induction ?expr ?print ?declare ?block ?ifThen ?ifElse ?loop ?nil ?cons
  case expr =>
    intro e semicolon st
    rw [mapTokens, exec_expr, exec_expr]
    show Evaluated.thenRun ((e.mapTokens f).eval st.env) _ _ = _
    rw [e.eval_mapTokens]
    exact Evaluated.thenRun_replayed fun _ _ => rfl
  case print =>
    intro keyword e semicolon st
    rw [mapTokens, exec_print, exec_print]
    show Evaluated.thenRun ((e.mapTokens f).eval st.env) _ _ = _
    rw [e.eval_mapTokens]
    refine Evaluated.thenRun_replayed fun a st => ?_
    simp [replayed, Ending.mapTokens, State.after, String.append_assoc]
  case declare =>
    intro keyword name target value semicolon st
    rw [mapTokens, exec_declare, exec_declare]
    show Evaluated.thenRun (Expr.evalInitial (value.map (Expr.mapTokens f)) st.env) _ _ = _
    rw [Expr.evalInitial_mapTokens]
    exact Evaluated.thenRun_replayed fun _ _ => rfl
  case block =>
    intro b ih
    exact inScope_replayed ih
  case ifThen =>
    intro keyword condition thenBlock ih st
    exact choose_replayed condition (inScope_replayed ih) (fun _ => rfl) st
  case ifElse =>
    intro keyword condition thenBlock elseBlock ihThen ihElse st
    exact choose_replayed condition (inScope_replayed ihThen) (inScope_replayed ihElse) st
  case loop =>
    intro keyword condition body ih st
    exact repeatWhile_replayed condition (inScope_replayed ih) rounds st
  case nil => exact fun _ => rfl
  case cons =>
    intro s rest ih ihRest st
    rw [mapAll, execAll_cons, execAll_cons, ih]
    exact Ending.thenRun_replayed ihRest

/-- Statements with other tokens, from the same state. -/
theorem execAll_mapAll (f : Token → Token) (rounds : Nat) (ss : List Stmt) (st : State) :
    execAll rounds (mapAll f ss) st =
      ((execAll rounds ss st).1.mapTokens f, (execAll rounds ss st).2) := by
  have same := (run_replayed f "" rounds).2 ss st
  rwa [replayed, State.after_empty, State.after_empty] at same

/-- Statements one after the other, in two parts. -/
theorem execAll_append (rounds : Nat) (ss ss' : List Stmt) (st : State) :
    execAll rounds (ss ++ ss') st =
      Ending.thenRun (execAll rounds ss st) (execAll rounds ss') := by
  induction ss generalizing st with
  | nil => rfl
  | cons s rest ih =>
    rw [List.cons_append, execAll_cons, execAll_cons]
    rcases exec rounds s st with ⟨ending, st'⟩
    cases ending with
    | done => exact ih st'
    | failed fault => rfl
    | unfinished => rfl

end Stmt

end Scriptlet
