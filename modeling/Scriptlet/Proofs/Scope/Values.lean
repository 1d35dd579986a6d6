/-
Scriptlet.Proofs.Scope.Values — what each scope binds a name to.

`Environment.valuesOf` follows one name through the stack: the scopes one after the other,
each with the value that it gives the name, or without one. What an operation of the
environment does to the values of a name is said here once for each operation. Only a
declaration of the name and an assignment to it change a value, each in one scope.
-/
import Scriptlet.Proofs.Scope.Lookup

namespace Scriptlet

theorem Scope.getElem?_insert_of_ne {name other : String} (different : other ≠ name)
    (scope : Scope) (value : Value) : (scope.insert name value)[other]? = scope[other]? := by
  rw [Std.ExtTreeMap.getElem?_insert, if_neg]
  exact fun equal => different (Std.LawfulEqCmp.compare_eq_iff_eq.mp equal).symm

namespace Environment

/-- What each scope binds a name to, from the innermost outward. -/
def valuesOf (env : Environment) (name : String) : List (Option Value) :=
  env.scopes.map fun scope => scope[name]?

variable {env left : Environment} {name other : String} {value previous : Value}

/-! ## 1. Scopes opened and left -/

theorem valuesOf_push : env.push.valuesOf name = none :: env.valuesOf name :=
  congrArg (· :: env.valuesOf name) Std.ExtTreeMap.getElem?_empty

theorem valuesOf_pop (popped : env.pop = .ok left) :
    left.valuesOf name = (env.valuesOf name).tail := by
  obtain ⟨innermost, enclosing⟩ := env
  cases enclosing with
  | nil => cases popped
  | cons next outer =>
    cases popped
    rfl

/-! ## 2. Declarations -/

theorem valuesOf_define_self :
    (env.define name value).valuesOf name = some value :: (env.valuesOf name).tail :=
  congrArg (· :: (env.valuesOf name).tail) Std.ExtTreeMap.getElem?_insert_self

theorem valuesOf_define_of_ne (different : other ≠ name) :
    (env.define name value).valuesOf other = env.valuesOf other :=
  congrArg (· :: (env.valuesOf other).tail)
    (Scope.getElem?_insert_of_ne different env.innermost value)

/-! ## 3. Searches -/

/-- The value of a name is the first there is. -/
theorem get?_eq_findSome?_valuesOf : env.get? name = (env.valuesOf name).findSome? id := by
  rw [valuesOf, List.findSome?_map]
  rfl

theorem distance?_eq_findIdx?_valuesOf :
    env.distance? name = (env.valuesOf name).findIdx? Option.isSome := by
  have bound : (fun scope : Scope => decide (name ∈ scope)) =
      Option.isSome ∘ fun scope : Scope => scope[name]? := by
    funext scope
    rw [Bool.eq_iff_iff, decide_eq_true_iff]
    exact Std.ExtTreeMap.isSome_getElem?_iff_mem.symm
  rw [valuesOf, List.findIdx?_map, distance?, bound]

/-- An assignment overwrites the binding that the search stops at. -/
theorem exists_setAt_of_assign (assigned : env.assign name value = .ok (previous, left)) :
    ∃ distance, env.distance? name = some distance ∧ left = env.setAt distance name value := by
  cases nearest : env.distance? name with
  | none =>
    rw [(access_of_unbound value nearest).2] at assigned
    cases assigned
  | some distance =>
    obtain ⟨found, -, -, changed⟩ := access_of_distance value nearest
    rw [changed] at assigned
    cases assigned
    exact ⟨distance, rfl, rfl⟩

/-- To bind the name in the scope at a distance sets one entry. -/
theorem valuesOf_setAt_self (distance : Nat) :
    (env.setAt distance name value).valuesOf name =
      (env.valuesOf name).set distance (some value) := by
  rw [valuesOf, scopes_setAt, valuesOf]
  generalize env.scopes = scopes
  induction scopes generalizing distance with
  | nil => rw [List.modify_nil, List.map_nil, List.set_nil]
  | cons scope outer ih =>
    cases distance with
    | zero => exact congrArg (· :: _) Std.ExtTreeMap.getElem?_insert_self
    | succ outward => exact congrArg (scope[name]? :: ·) (ih outward)

/-- The entries of other names are not touched. -/
theorem valuesOf_setAt_of_ne (different : other ≠ name) (distance : Nat) :
    (env.setAt distance name value).valuesOf other = env.valuesOf other := by
  rw [valuesOf, scopes_setAt, valuesOf]
  generalize env.scopes = scopes
  induction scopes generalizing distance with
  | nil => rw [List.modify_nil]
  | cons scope outer ih =>
    cases distance with
    | zero => exact congrArg (· :: _) (Scope.getElem?_insert_of_ne different scope value)
    | succ outward => exact congrArg (scope[other]? :: ·) (ih outward)

/-- An assignment to another name leaves the row as it is. -/
theorem valuesOf_assign_of_ne (assigned : env.assign name value = .ok (previous, left))
    (different : other ≠ name) : left.valuesOf other = env.valuesOf other := by
  obtain ⟨distance, -, rfl⟩ := exists_setAt_of_assign assigned
  exact valuesOf_setAt_of_ne different distance

/-- The values of a name after an assignment to it follow from those before. -/
theorem valuesOf_assign_self (assigned : env.assign name value = .ok (previous, left)) :
    ∃ distance, (env.valuesOf name).findIdx? Option.isSome = some distance ∧
      left.valuesOf name = (env.valuesOf name).set distance (some value) := by
  obtain ⟨distance, nearest, rfl⟩ := exists_setAt_of_assign assigned
  rw [distance?_eq_findIdx?_valuesOf] at nearest
  exact ⟨distance, nearest, valuesOf_setAt_self distance⟩

end Environment

end Scriptlet
