/-
Scriptlet.Proofs.Scope.Transparent — a block that declares nothing.

A scope that binds nothing stops no search, wherever in the stack it is. So a run is the
same with it as without it, as long as nothing is declared right into it (`spaced`): what a
run could declare into the empty scope are the declarations among the statements
themselves, since those in a block of them have a scope of their own. A block whose own
statements declare nothing leaves the scope that it opened as empty as it was.
-/
import Scriptlet.Proofs.Coupling.Runs

namespace Scriptlet

namespace Environment

/-! ## 1. An empty scope in the stack -/

/-- The environment with an empty scope put in, so many scopes outward. -/
def insertEmpty (env : Environment) : Nat → Environment
  | 0 => env.push
  | outward + 1 => { env with enclosing := env.enclosing.insertIdx outward ∅ }

theorem scopes_insertEmpty (env : Environment) (distance : Nat) :
    (env.insertEmpty distance).scopes = env.scopes.insertIdx distance ∅ := by
  cases distance <;> rfl

/-- A fresh scope inside puts the empty one further out. -/
theorem push_insertEmpty (env : Environment) (distance : Nat) :
    (env.insertEmpty distance).push = env.push.insertEmpty (distance + 1) := by
  rw [push, scopes_insertEmpty]
  rfl

/-- Leaving the innermost scope brings the empty one nearer by one. -/
theorem pop_insertEmpty {env left : Environment} (popped : env.pop = .ok left) (distance : Nat) :
    (env.insertEmpty (distance + 1)).pop = .ok (left.insertEmpty distance) := by
  obtain ⟨innermost, enclosing⟩ := env
  cases enclosing with
  | nil => cases popped
  | cons next outer =>
    cases popped
    cases distance <;> rfl

variable (name : String) (value : Value)

theorem findSome?_insertIdx (scopes : List Scope) (distance : Nat) :
    ((scopes.insertIdx distance ∅).findSome? fun scope => scope[name]?) =
      scopes.findSome? fun scope => scope[name]? := by
  have emptyScope : (∅ : Scope)[name]? = none := Std.ExtTreeMap.getElem?_empty
  induction scopes generalizing distance with
  | nil =>
    cases distance with
    | zero => rw [List.insertIdx_zero, List.findSome?_cons, emptyScope]
    | succ outward => rfl
  | cons scope outer ih =>
    cases distance with
    | zero => rw [List.insertIdx_zero, List.findSome?_cons, emptyScope]
    | succ outward =>
      rw [List.insertIdx_succ_cons, List.findSome?_cons, List.findSome?_cons, ih]

theorem overwrite?_insertIdx (scopes : List Scope) (distance : Nat) :
    overwrite? name value (scopes.insertIdx distance ∅) =
      (overwrite? name value scopes).map (Prod.map id fun scopes => scopes.insertIdx distance ∅) := by
  have passed : ∀ outer : List Scope, overwrite? name value (∅ :: outer) =
      (overwrite? name value outer).map (Prod.map id fun scopes => ∅ :: scopes) := by
    intro outer
    rw [overwrite?_cons, Std.ExtTreeMap.getElem?_empty]
    cases overwrite? name value outer <;> rfl
  induction scopes generalizing distance with
  | nil =>
    cases distance with
    | zero => exact passed []
    | succ outward => rfl
  | cons scope outer ih =>
    cases distance with
    | zero => exact passed (scope :: outer)
    | succ outward =>
      rw [List.insertIdx_succ_cons, overwrite?_cons, overwrite?_cons, ih]
      cases scope[name]? with
      | some previous => rfl
      | none => cases overwrite? name value outer <;> rfl

variable (env : Environment) (distance : Nat)

theorem get?_insertEmpty : (env.insertEmpty distance).get? name = env.get? name := by
  rw [get?, scopes_insertEmpty, findSome?_insertIdx]
  rfl

theorem assign_insertEmpty :
    (env.insertEmpty distance).assign name value =
      (env.assign name value).map (Prod.map id fun left => left.insertEmpty distance) := by
  cases distance with
  | zero =>
    show env.push.assign name value = _
    rw [assign, assign, push, Std.ExtTreeMap.getElem?_empty, scopes, overwrite?_cons]
    cases env.innermost[name]? with
    | some previous => rfl
    | none => cases overwrite? name value env.enclosing <;> rfl
  | succ outward =>
    rw [assign, assign, insertEmpty, overwrite?_insertIdx]
    cases env.innermost[name]? with
    | some previous => rfl
    | none => cases overwrite? name value env.enclosing <;> rfl

end Environment

/-! ## 2. Runs with an empty scope more -/

/-- The runs of the same statements without and with an empty scope put in. Nothing is
declared where the empty scope is the innermost one. -/
def spaced : Coupling where
  envs distance env env' := env' = env.insertEmpty distance
  Bears _ := True
  Declares distance _ := 0 < distance
  inside _ _ := Nat.succ_pos _
  push := by
    rintro distance env _ rfl
    exact env.push_insertEmpty distance
  pop := by
    rintro distance env _ left left' rfl popped popped'
    rw [Environment.pop_insertEmpty popped] at popped'
    exact (Except.ok.inj popped').symm
  define := by
    rintro distance env _ name value inside rfl
    obtain ⟨outward, rfl⟩ := Nat.exists_eq_succ_of_ne_zero inside.ne'
    rfl
  get? := by
    rintro distance env _ node name - - rfl
    exact Environment.get?_insertEmpty name env distance
  assign := by
    rintro distance env _ name target e value previous left left' - rfl assigned assigned'
    rw [id_eq, Environment.assign_insertEmpty, assigned] at assigned'
    exact (Prod.mk.inj (Except.ok.inj assigned')).2.symm

namespace Stmt

/-- Statements of which none is a declaration, in an empty scope. -/
theorem execAll_push {ss : List Stmt} (plain : ∀ s ∈ ss, s.declared? = none) (rounds : Nat)
    (st : State) :
    execAll rounds ss { st with env := st.env.push } =
      ((execAll rounds ss st).1,
        { (execAll rounds ss st).2 with env := (execAll rounds ss st).2.env.push }) := by
  have couples : spaced.Couples 0 (execAll rounds ss) (execAll rounds ss) := by
    refine Coupling.execAll_same rfl rfl (fun _ _ => trivial) (fun s mem name isName => ?_) rounds
    rw [plain s mem] at isName
    cases isName
  have alike := couples st { st with env := st.env.push } ⟨rfl, rfl⟩
  exact alike.eq_mapped.trans (Prod.ext (Ending.mapFault_id _) rfl)

/-- A block in which nothing is declared needs no scope. -/
theorem inScope_of_plain {b : Block Stmt} (plain : ∀ s ∈ b.body, s.declared? = none)
    (rounds : Nat) (st : State) :
    inScope b (execAll rounds b.body) st = execAll rounds b.body st := by
  rw [inScope, execAll_push plain]
  rfl

/-- A block of which no statement is itself a declaration does what its statements do without
the block: it ends in the same way, by the same fault if it fails, prints the same text, and
leaves the same variables, or it does not end either. -/
theorem block_transparent (b : Block Stmt) (plain : ∀ s ∈ b.body, s.declared? = none)
    (rounds : Nat) (st : State) :
    exec rounds (.block b) st = execAll rounds b.body st :=
  inScope_of_plain plain rounds st

/-- `while (x) { var y = x; x = !y; } x = z;`, with one token in place of all. -/
def flipped (token : Token) : List Stmt :=
  [.loop token (.reference "x" token)
      { opening := token
        body :=
          [.declare token "y" token (some (.reference "x" token)) token,
            .expr (.assign "x" token (.unary .invert token (.reference "y" token))) token]
        closing := token },
    .expr (.assign "x" token (.reference "z" token)) token]

/-- A loop with a declaration in its body, and a fault after it, do not notice the block. -/
theorem block_transparent_flipped :
    let token : Token := { kind := .finish, lexeme := "", line := 1, start := 0 }
    let b : Block Stmt := { opening := token, body := flipped token, closing := token }
    let st : State := { env := Environment.empty.define "x" (.boolean true), out := "" }
    (∀ s ∈ b.body, s.declared? = none) ∧
      exec 2 (.block b) st = execAll 2 b.body st ∧
      (execAll 2 b.body st).1 =
        .failed { cause := .undefined "z", site := .expr (.reference "z" token) } ∧
      (execAll 2 b.body st).2.env.get? "x" = some (.boolean false) := by
  intro token b st
  have plain : ∀ s ∈ b.body, s.declared? = none := by decide
  exact ⟨plain, block_transparent b plain 2 st, rfl, rfl⟩

end Stmt

end Scriptlet
