/-
Scriptlet.Proofs.Scope.Lookup — the scope that a search stops at.

A lookup and an assignment search the scopes from the innermost outward. Here
the search and what is done where it stops are taken apart: `distance?` is the
number of scopes the search goes outward, `valueAt?` and `setAt` act on the scope
at a distance and search for nothing. Both operations of the environment are
the search followed by one of these.
-/
import Scriptlet.Environment

namespace Scriptlet.Environment

/-- How many scopes outward the nearest binding of a name is. -/
def distance? (env : Environment) (name : String) : Option Nat :=
  env.scopes.findIdx? fun scope => name ∈ scope

def valueAt? (env : Environment) (distance : Nat) (name : String) : Option Value :=
  env.scopes[distance]?.bind fun scope => scope[name]?

/-- Bind a name in the scope at a distance, if there is such a scope. -/
def setAt (env : Environment) (distance : Nat) (name : String) (value : Value) : Environment :=
  match distance with
  | 0 => { env with innermost := env.innermost.insert name value }
  | outward + 1 =>
    { env with
      enclosing := env.enclosing.modify outward fun scope => scope.insert name value }

theorem scopes_setAt (env : Environment) (distance : Nat) (name : String) (value : Value) :
    (env.setAt distance name value).scopes =
      env.scopes.modify distance fun scope => scope.insert name value := by
  cases distance <;> rfl

/-! ## 1. The search through a list of scopes -/

/-- The nearest scope that binds the name is overwritten, and those further out are left alone. -/
theorem overwrite?_cons (name : String) (value : Value) (scope : Scope) (outer : List Scope) :
    overwrite? name value (scope :: outer) =
      match scope[name]? with
      | some previous => some (previous, scope.insert name value :: outer)
      | none =>
        match overwrite? name value outer with
        | some (previous, changed) => some (previous, scope :: changed)
        | none => none := rfl

/-- A search that finds a name stops at a value for it, and an overwriting
changes that scope alone. -/
theorem search_eq_some (value : Value) {name : String} {scopes : List Scope} {distance : Nat}
    (nearest : (scopes.findIdx? fun scope => name ∈ scope) = some distance) :
    ∃ previous, (scopes[distance]?.bind fun scope => scope[name]?) = some previous ∧
      (scopes.findSome? fun scope => scope[name]?) = some previous ∧
      overwrite? name value scopes =
        some (previous, scopes.modify distance fun scope => scope.insert name value) := by
  induction scopes generalizing distance with
  | nil => cases nearest
  | cons scope outer ih =>
    rw [List.findIdx?_cons] at nearest
    by_cases bound : name ∈ scope
    · obtain ⟨previous, found⟩ := Option.isSome_iff_exists.mp
        (Std.ExtTreeMap.isSome_getElem?_iff_mem.mpr bound)
      obtain rfl : 0 = distance := by simpa [bound] using nearest
      refine ⟨previous, found, ?_, ?_⟩
      · rw [List.findSome?_cons, found]
      · rw [overwrite?_cons, found]
        rfl
    · obtain ⟨outward, inOuter, rfl⟩ : ∃ outward,
          (outer.findIdx? fun scope => name ∈ scope) = some outward ∧ outward + 1 = distance := by
        simpa [bound] using nearest
      obtain ⟨previous, found, read, overwritten⟩ := ih inOuter
      have missing : scope[name]? = none := Std.ExtTreeMap.getElem?_eq_none bound
      refine ⟨previous, found, ?_, ?_⟩
      · rw [List.findSome?_cons, missing, read]
      · rw [overwrite?_cons, missing, overwritten]
        rfl

/-- If no scope has the name, both searches say so. -/
theorem search_eq_none (value : Value) {name : String} {scopes : List Scope}
    (nowhere : (scopes.findIdx? fun scope => name ∈ scope) = none) :
    (scopes.findSome? fun scope => scope[name]?) = none ∧
      overwrite? name value scopes = none := by
  induction scopes with
  | nil => exact ⟨rfl, rfl⟩
  | cons scope outer ih =>
    rw [List.findIdx?_eq_none_iff, List.forall_mem_cons] at nowhere
    obtain ⟨unbound, nowhere⟩ := nowhere
    obtain ⟨read, overwritten⟩ := ih (List.findIdx?_eq_none_iff.mpr nowhere)
    have missing : scope[name]? = none := Std.ExtTreeMap.getElem?_eq_none (by simpa using unbound)
    refine ⟨?_, ?_⟩
    · rw [List.findSome?_cons, missing, read]
    · rw [overwrite?_cons, missing, overwritten]

/-! ## 2. The operations of the environment -/

variable {env : Environment} {name : String}

/-- The two cases of an assignment are those of an overwriting of all scopes. -/
theorem assign_eq (value : Value) :
    env.assign name value =
      match overwrite? name value env.scopes with
      | some (previous, innermost :: enclosing) => .ok (previous, { innermost, enclosing })
      | _ => .error (.undefined name) := by
  rw [assign, scopes, overwrite?_cons]
  cases env.innermost[name]? with
  | some previous => rfl
  | none =>
    cases overwrite? name value env.enclosing with
    | some changed => rfl
    | none => rfl

/-- To read and to overwrite is to do so at the distance of the nearest binding. -/
theorem access_of_distance (value : Value) {distance : Nat}
    (nearest : env.distance? name = some distance) :
    ∃ previous, env.valueAt? distance name = some previous ∧ env.get? name = some previous ∧
      env.assign name value = .ok (previous, env.setAt distance name value) := by
  obtain ⟨previous, found, read, overwritten⟩ := search_eq_some value nearest
  refine ⟨previous, found, read, ?_⟩
  rw [assign_eq, overwritten, ← scopes_setAt]
  rfl

theorem access_of_unbound (value : Value) (nowhere : env.distance? name = none) :
    env.get? name = none ∧ env.assign name value = .error (.undefined name) := by
  obtain ⟨read, overwritten⟩ := search_eq_none value nowhere
  refine ⟨read, ?_⟩
  rw [assign_eq, overwritten]

end Scriptlet.Environment
