/-
Scriptlet.Proofs.Scope.Names — the names that the scopes bind.

`Names` is what is left of an environment when the values are forgotten: a
stack of sets of names. The operations of the environment act on it, and all
but the declaration keep every set of a scope as it is; so does every
expression, since an assignment only ever finds a name that is there.
-/
import Mathlib.Data.Finset.Dedup
import Mathlib.Data.Finset.Insert
import Scriptlet.Proofs.Expressions
import Scriptlet.Proofs.Scope.Lookup

namespace Scriptlet

def Scope.names (scope : Scope) : Finset String := scope.keys.toFinset

/-- A stack of sets of names, the nearest first. -/
@[ext]
structure Names where
  innermost : Finset String
  enclosing : List (Finset String)

namespace Names

def scopes (names : Names) : List (Finset String) := names.innermost :: names.enclosing

def push (names : Names) : Names := { innermost := ∅, enclosing := names.scopes }

def declare (names : Names) (name : String) : Names :=
  { names with innermost := insert name names.innermost }

def distance? (names : Names) (name : String) : Option Nat :=
  names.scopes.findIdx? fun scope => name ∈ scope

end Names

/-- The names that the scopes of an environment bind. -/
def Environment.names (env : Environment) : Names :=
  { innermost := env.innermost.names, enclosing := env.enclosing.map Scope.names }

/-! ## 1. One scope -/

namespace Scope

@[simp] theorem mem_names {scope : Scope} {name : String} : name ∈ scope.names ↔ name ∈ scope := by
  rw [names, List.mem_toFinset, Std.ExtTreeMap.mem_keys]

@[simp] theorem names_empty : Scope.names ∅ = ∅ := by
  ext name
  simp

theorem names_insert (scope : Scope) (name : String) (value : Value) :
    Scope.names (scope.insert name value) = insert name scope.names := by
  ext other
  rw [mem_names, Std.ExtTreeMap.mem_insert, Std.LawfulEqCmp.compare_eq_iff_eq,
    Finset.mem_insert, mem_names, eq_comm]

theorem names_insert_of_mem {scope : Scope} {name : String} (bound : name ∈ scope)
    (value : Value) : Scope.names (scope.insert name value) = scope.names := by
  rw [names_insert, Finset.insert_eq_of_mem (mem_names.mpr bound)]

end Scope

/-! ## 2. All scopes -/

namespace Environment

variable {env : Environment} {name : String} {value : Value}

theorem scopes_names : env.names.scopes = env.scopes.map Scope.names := rfl

theorem names_push : env.push.names = env.names.push := by
  rw [push, names, Scope.names_empty]
  rfl

/-- To define a name is to declare it in the innermost set. -/
theorem names_define : (env.define name value).names = env.names.declare name := by
  rw [define, names, Scope.names_insert]
  rfl

/-- How far away the nearest binding is depends on the names alone. -/
theorem distance?_names : env.names.distance? name = env.distance? name := by
  simp [Names.distance?, scopes_names, distance?, Function.comp_def]

theorem distance?_of_names {names : Names} (same : env.names = names) :
    env.distance? name = names.distance? name := by
  rw [← same, distance?_names]

/-- To overwrite a binding in a scope changes none of its names. -/
theorem map_names_modify {scopes : List Scope} {distance : Nat} {previous : Value}
    (bound : (scopes[distance]?.bind fun scope => scope[name]?) = some previous) :
    (scopes.modify distance fun scope => scope.insert name value).map Scope.names =
      scopes.map Scope.names := by
  induction scopes generalizing distance with
  | nil => rw [List.modify_nil]
  | cons scope outer ih =>
    cases distance with
    | zero =>
      have member : name ∈ scope := Std.ExtTreeMap.isSome_getElem?_iff_mem.mp
        (Option.isSome_iff_exists.mpr ⟨previous, bound⟩)
      rw [List.modify_zero_cons, List.map_cons, List.map_cons, Scope.names_insert_of_mem member]
    | succ outward =>
      rw [List.modify_succ_cons, List.map_cons, List.map_cons, ih bound]

/-- The names of the scopes, one after the other, are all there is to compare. -/
theorem names_eq_iff {env' : Environment} :
    env'.names = env.names ↔ env'.scopes.map Scope.names = env.scopes.map Scope.names := by
  simp [names, scopes]

/-- Overwriting a binding takes no name away and adds none. -/
theorem names_setAt {distance : Nat} {previous : Value}
    (bound : env.valueAt? distance name = some previous) :
    (env.setAt distance name value).names = env.names := by
  rw [names_eq_iff, scopes_setAt]
  exact map_names_modify bound

theorem names_assign {previous : Value} {env' : Environment}
    (assigned : env.assign name value = .ok (previous, env')) : env'.names = env.names := by
  cases nearest : env.distance? name with
  | none =>
    rw [(access_of_unbound value nearest).2] at assigned
    cases assigned
  | some distance =>
    obtain ⟨found, bound, -, changed⟩ := access_of_distance value nearest
    rw [changed] at assigned
    cases assigned
    exact names_setAt bound

theorem assign_error {cause : Cause} (refused : env.assign name value = .error cause) :
    cause = .undefined name := by
  cases nearest : env.distance? name with
  | none =>
    rw [(access_of_unbound value nearest).2] at refused
    cases refused
    rfl
  | some distance =>
    obtain ⟨found, -, -, changed⟩ := access_of_distance value nearest
    rw [changed] at refused
    cases refused

/-- A scope can be left when the names are those of a scope inside others. -/
theorem pop_of_names {outer : Names} (inside : env.names.enclosing = outer.scopes) :
    ∃ left, env.pop = .ok left ∧ left.names = outer := by
  obtain ⟨innermost, enclosing⟩ := env
  cases enclosing with
  | nil => cases inside
  | cons next enclosing =>
    refine ⟨_, rfl, ?_⟩
    simp only [names, List.map_cons, Names.scopes, List.cons.injEq] at inside
    exact Names.ext inside.1 inside.2

end Environment

/-! ## 3. Expressions -/

/-- If neither evaluation changes the names, both together do not. -/
theorem Evaluated.andThen_names {α β : Type} {r : Evaluated α}
    {next : α → Environment → Evaluated β} {names : Names} (first : r.2.names = names)
    (second : ∀ a env, env.names = names → (next a env).2.names = names) :
    (r.andThen next).2.names = names := by
  match r with
  | (.error fault, env) => exact first
  | (.ok a, env) => exact second a env first

namespace Expr

/-- No expression changes what names the scopes bind. -/
theorem eval_names (e : Expr) (env : Environment) : (e.eval env).2.names = env.names := by
  induction e generalizing env with
  | literal value token => rfl
  | reference name token =>
    rw [eval]
    cases env.get? name <;> rfl
  | grouping opening inner closing ih => exact ih env
  | unary op sign operand ih =>
    rw [eval_unary]
    exact Evaluated.andThen_names (ih env) fun a env same => same
  | binary op left sign right ihLeft ihRight =>
    rw [eval_binary]
    refine Evaluated.andThen_names (ihLeft env) fun a env same => ?_
    exact Evaluated.andThen_names ((ihRight env).trans same) fun b env same => same
  | logical op left sign right ihLeft ihRight =>
    rw [eval_logical]
    refine Evaluated.andThen_names (ihLeft env) fun a env same => ?_
    refine Evaluated.andThen_names same fun truth env same => ?_
    split
    · exact same
    · exact (ihRight env).trans same
  | assign name target value ih =>
    rw [eval_assign]
    refine Evaluated.andThen_names (ih env) fun a env same => ?_
    cases assigned : env.assign name a with
    | ok answer => exact (Environment.names_assign assigned).trans same
    | error cause => exact same

theorem test_names (condition : Expr) (env : Environment) :
    (condition.test env).2.names = env.names := by
  rw [test_eq]
  exact Evaluated.andThen_names (condition.eval_names env) fun a env same => same

end Expr

end Scriptlet
