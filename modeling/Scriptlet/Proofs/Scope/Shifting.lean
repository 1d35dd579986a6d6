/-
Scriptlet.Proofs.Scope.Shifting — assignments in a row.

`x = y = z = e` assigns from right to left, and each assignment hands on the value that it
replaces. So the value of `e` goes to `z`, the value of `z` to `y` and that of `y` to `x`, and
the value that `x` had is what is left over. `Environment.Shifted` says this of the environments
before and after, one name at a time: what each scope binds it to (`valuesOf`) is changed in one
place, the nearest scope that binds the name. Names that are assigned to at different distances
do not get in the way of each other as long as no name comes twice.

That assignments in a row nest to the right is what the grammar makes of them: the names with
their equals signs, put in front of what is read as `e`, are read as the row of assignments
(`Expr.ofStream_assignAll`).
-/
import Scriptlet.Proofs.Coupling.Runs
import Scriptlet.Proofs.Grammar.Recognition
import Scriptlet.Proofs.Scope.Values

namespace Scriptlet

def Expr.assignAll (targets : List (String × Token)) (e : Expr) : Expr :=
  targets.foldr (fun target value => .assign target.1 target.2 value) e

theorem Expr.assignAll_cons (target : String × Token) (rest : List (String × Token)) (e : Expr) :
    assignAll (target :: rest) e = .assign target.1 target.2 (assignAll rest e) := rfl

theorem Expr.assignAll_append (before after : List (String × Token)) (e : Expr) :
    assignAll (before ++ after) e = assignAll before (assignAll after e) :=
  List.foldr_append

/-! ## 1. How assignments in a row are read -/

section

open Grammar

variable (written : List (TokenOf .identifier × TokenOf (.mark .equal)))

/-- The derivation of `x = y = … = e`. -/
def Grammar.Derivation.assignments (value : Derivation .expression) : Derivation .expression :=
  written.foldr (fun target value => .assign target.1 target.2 value) value

/-- Names with an equals sign after each, and then the word of the value. -/
theorem Grammar.Derivation.tokens_assignments (value : Derivation .expression) :
    (assignments written value).tokens =
      (written.flatMap fun target => [target.1.val, target.2.val]) ++ value.tokens := by
  induction written with
  | nil => rfl
  | cons target rest ih => exact congrArg (target.1.val :: target.2.val :: ·) ih

/-- The assignments nest to the right, each to a name that is read off its token. -/
theorem Grammar.Derivation.tree_assignments (value : Derivation .expression) :
    (assignments written value).tree =
      Expr.assignAll (written.map fun target => (target.1.val.name, target.1.val)) value.tree := by
  induction written with
  | nil => rfl
  | cons target rest ih => exact congrArg (Expr.assign target.1.val.name target.1.val) ih

/-- What is read as `e` is read as `x = y = … = e` behind the names and equals signs. -/
theorem Expr.ofStream_assignAll {stream : Stream} {e : Expr} (read : ofStream stream = .ok e) :
    ofStream { stream with
        body := (written.flatMap fun target => [target.1.val, target.2.val]) ++ stream.body } =
      .ok (assignAll (written.map fun target => (target.1.val.name, target.1.val)) e) := by
  obtain ⟨d, word, rfl⟩ := ofStream_eq_ok_iff.mp read
  refine ofStream_eq_ok_iff.mpr ⟨.assignments written d, ?_, d.tree_assignments written⟩
  rw [Derivation.tokens_assignments, word]

end

namespace Environment

/-! ## 2. Values shifted along -/

/-- What is handed to an assignment: the value of the name that is assigned to right before it,
or the given value if it is the first assignment. The names are those assigned to before it, the
latest one first. -/
def handed? (env : Environment) (value : Value) : List String → Option Value
  | [] => some value
  | name :: _ => env.get? name

/-- A value came in at the end of the names, and each name has what the name after it had.
Only the nearest binding of each of the names is another one. -/
structure Shifted (env : Environment) (names : List String) (value : Value)
    (left : Environment) : Prop where
  others : ∀ name ∉ names, left.valuesOf name = env.valuesOf name
  moved : ∀ before name after, names = before ++ name :: after →
    ∃ distance new, env.distance? name = some distance ∧ env.handed? value after = some new ∧
      left.valuesOf name = (env.valuesOf name).set distance (some new)

variable {env left left' : Environment} {name : String} {names after : List String}
  {value answer previous : Value}

theorem Shifted.nil : env.Shifted [] value env where
  others _ _ := rfl
  moved before _ _ equal :=
    absurd equal.symm (List.append_ne_nil_of_right_ne_nil before (List.cons_ne_nil _ _))

/-- A name that was not assigned to yet still has its own value to hand on. -/
theorem Shifted.get?_of_notMem (shifted : env.Shifted names value left) (fresh : name ∉ names) :
    left.get? name = env.get? name := by
  rw [get?_eq_findSome?_valuesOf, shifted.others name fresh, ← get?_eq_findSome?_valuesOf]

/-- One more assignment to the left. -/
theorem Shifted.cons (shifted : env.Shifted names value left) (fresh : name ∉ names)
    (handed : env.handed? value names = some answer)
    (assigned : left.assign name answer = .ok (previous, left')) :
    env.Shifted (name :: names) value left' where
  others other notMem := by
    rw [List.mem_cons, not_or] at notMem
    rw [valuesOf_assign_of_ne assigned notMem.1, shifted.others other notMem.2]
  moved before moved after names_eq := by
    cases before with
    | nil =>
      obtain ⟨rfl, rfl⟩ := List.cons.inj names_eq
      obtain ⟨distance, nearest, changed⟩ := valuesOf_assign_self assigned
      rw [shifted.others name fresh] at nearest changed
      exact ⟨distance, answer, distance?_eq_findIdx?_valuesOf.trans nearest, handed, changed⟩
    | cons first before =>
      obtain ⟨rfl, rfl⟩ := List.cons.inj names_eq
      have different : moved ≠ name := by
        rintro rfl
        exact fresh (List.mem_append_right before List.mem_cons_self)
      obtain ⟨distance, new, nearest, handed, changed⟩ := shifted.moved before moved after rfl
      rw [← valuesOf_assign_of_ne assigned different] at changed
      exact ⟨distance, new, nearest, handed, changed⟩

/-- The place where the search had ended has the new value, and is where it ends again. -/
theorem findSome?_set_findIdx? {values : List (Option Value)} {distance : Nat}
    (nearest : values.findIdx? Option.isSome = some distance) (new : Value) :
    (values.set distance (some new)).findSome? id = some new := by
  induction values generalizing distance with
  | nil => cases nearest
  | cons found outer ih =>
    rw [List.findIdx?_cons] at nearest
    cases found with
    | some old =>
      obtain rfl : 0 = distance := by simpa using nearest
      rfl
    | none =>
      obtain ⟨outward, inOuter, rfl⟩ : ∃ outward,
          outer.findIdx? Option.isSome = some outward ∧ outward + 1 = distance := by
        simpa using nearest
      exact ih inOuter

/-- Each of the names has the value that was handed to it. -/
theorem Shifted.get?_of_mem (before : List String)
    (shifted : env.Shifted (before ++ name :: after) value left) :
    left.get? name = env.handed? value after := by
  obtain ⟨distance, new, nearest, handed, changed⟩ := shifted.moved before name after rfl
  rw [distance?_eq_findIdx?_valuesOf] at nearest
  rw [get?_eq_findSome?_valuesOf, changed, handed, findSome?_set_findIdx? nearest]

end Environment

namespace Expr

/-! ## 3. Assignments in a row -/

variable {e : Expr} {env mid left : Environment} {value : Value}

/-- From the last name to the first: each assignment hands on what it has replaced. -/
theorem eval_assignAll (evaluated : e.eval env = (.ok value, mid))
    {targets : List (String × Token)} (distinct : (targets.map Prod.fst).Nodup)
    (bound : ∀ target ∈ targets, mid.holds target.1) :
    ∃ answer left, mid.handed? value (targets.map Prod.fst) = some answer ∧
      (assignAll targets e).eval env = (.ok answer, left) ∧
      mid.Shifted (targets.map Prod.fst) value left := by
  induction targets with
  | nil => exact ⟨value, mid, rfl, evaluated, .nil⟩
  | cons target rest ih =>
    obtain ⟨name, token⟩ := target
    obtain ⟨fresh, distinct⟩ := List.nodup_cons.mp distinct
    obtain ⟨boundFirst, bound⟩ := List.forall_mem_cons.mp bound
    obtain ⟨answer, left, handed, evaluatedRest, shifted⟩ := ih distinct bound
    obtain ⟨previous, found⟩ := Option.isSome_iff_exists.mp boundFirst
    obtain ⟨left', assigned⟩ :=
      Environment.assign_of_get? ((shifted.get?_of_notMem fresh).trans found) answer
    refine ⟨previous, left', found, ?_, shifted.cons fresh handed assigned⟩
    rw [assignAll_cons, eval_assign, evaluatedRest, Evaluated.andThen_ok, assigned]

/-- A fault goes through the assignments to the left of it. -/
theorem eval_assignAll_of_error {fault : Fault} (failed : e.eval env = (.error fault, left))
    (targets : List (String × Token)) :
    (assignAll targets e).eval env = (.error fault, left) := by
  induction targets with
  | nil => exact failed
  | cons target rest ih =>
    rw [assignAll_cons, eval_assign, ih, Evaluated.andThen_error]

/-- The last name that is missing stops the assignments to it and to the names left of it. -/
theorem eval_assignAll_of_missing (evaluated : e.eval env = (.ok value, mid))
    {before after : List (String × Token)} {name : String} {token : Token}
    (distinct : (name :: after.map Prod.fst).Nodup) (missing : mid.get? name = none)
    (bound : ∀ target ∈ after, mid.holds target.1) :
    ∃ left,
      (assignAll (before ++ (name, token) :: after) e).eval env =
        (.error
          { cause := .undefined name
            site := .expr (assignAll ((name, token) :: after) e) }, left) ∧
      mid.Shifted (after.map Prod.fst) value left := by
  obtain ⟨fresh, distinct⟩ := List.nodup_cons.mp distinct
  obtain ⟨answer, left, -, evaluatedAfter, shifted⟩ := eval_assignAll evaluated distinct bound
  have failed : (assignAll ((name, token) :: after) e).eval env =
      (.error
        { cause := .undefined name
          site := .expr (assignAll ((name, token) :: after) e) }, left) := by
    rw [assignAll_cons, eval_assign, evaluatedAfter, Evaluated.andThen_ok,
      Environment.assign_of_missing ((shifted.get?_of_notMem fresh).trans missing)]
  rw [assignAll_append]
  exact ⟨left, eval_assignAll_of_error failed before, shifted⟩

/-- In `x₁ = x₂ = … = xₙ = e`, which is read as assignments nested to the right, the names are
all different, and `e` has its value and leaves an environment. If that one has all of the names,
the value of the assignments is what it has for `x₁`. The nearest binding of each name is set to
what it has for the name after it, that of `xₙ` to the value of `e`, and all other bindings stay.
So `a = b = a` exchanges the two values.
If names are missing, the assignment to the last of these is to blame. The names after that
one are assigned to by then, nothing else is. -/
theorem assignAll_shifts (evaluated : e.eval env = (.ok value, mid))
    (targets : List (String × Token)) (distinct : (targets.map Prod.fst).Nodup) :
    (∀ written : List (Grammar.TokenOf .identifier × Grammar.TokenOf (.mark .equal)),
      targets = written.map (fun target => (target.1.val.name, target.1.val)) →
        ∀ stream, ofStream stream = .ok e →
          ofStream { stream with
              body := (written.flatMap fun target => [target.1.val, target.2.val]) ++
                stream.body } = .ok (assignAll targets e)) ∧
      (∀ first rest, targets = first :: rest → (∀ target ∈ targets, mid.holds target.1) →
        ∃ answer left, mid.get? first.1 = some answer ∧
          (assignAll targets e).eval env = (.ok answer, left) ∧
          mid.Shifted (targets.map Prod.fst) value left) ∧
      (∀ before name token after, targets = before ++ (name, token) :: after →
        mid.get? name = none → (∀ target ∈ after, mid.holds target.1) →
        ∃ left,
          (assignAll targets e).eval env =
            (.error
              { cause := .undefined name
                site := .expr (assignAll ((name, token) :: after) e) }, left) ∧
          mid.Shifted (after.map Prod.fst) value left) ∧
      ∀ a b token token' sign, targets = [(a, token), (b, token')] → e = .reference a sign →
        ∀ x y, env.get? a = some x → env.get? b = some y →
          ∃ left, (assignAll targets e).eval env = (.ok x, left) ∧
            left.get? a = some y ∧ left.get? b = some x ∧
            ∀ name, name ≠ a → name ≠ b → left.valuesOf name = env.valuesOf name := by
  refine ⟨?_, ?_, ?_, ?_⟩
  · rintro written rfl stream read
    exact ofStream_assignAll written read
  · rintro first rest rfl bound
    exact eval_assignAll evaluated distinct bound
  · rintro before name token after rfl missing bound
    rw [List.map_append] at distinct
    exact eval_assignAll_of_missing evaluated distinct.of_append_right missing bound
  · rintro a b token token' sign rfl rfl x y foundA foundB
    have bound : ∀ target ∈ [(a, token), (b, token')], env.holds target.1 := by
      simp [Environment.holds, foundA, foundB]
    have read : (reference a sign).eval env = (.ok x, env) := by
      rw [eval, foundA]
    obtain ⟨answer, left, handed, exchanged, shifted⟩ := eval_assignAll read distinct bound
    obtain rfl : x = answer := Option.some.inj (foundA.symm.trans handed)
    refine ⟨left, exchanged, ?_, ?_, fun name notA notB => ?_⟩
    · exact (Environment.Shifted.get?_of_mem [] shifted).trans foundB
    · exact Environment.Shifted.get?_of_mem [a] shifted
    · exact shifted.others name (by simp [notA, notB])

/-- With an `a` in a scope of its own and another one outside of it, `a = b = a` exchanges the
inner `a` and the outer `b`. Without a `c`, `b = c = a = nil` has set the inner `a` alone when it
stops at the `c`. -/
theorem assignAll_shifts_past_scopes :
    let token : Token := { kind := .finish, lexeme := "", line := 1, start := 0 }
    let nothing : Expr := .literal .nil token
    let outer := (Environment.empty.define "a" (.text "outer")).define "b" (.boolean true)
    let env := outer.push.define "a" (.boolean false)
    let swap := assignAll [("a", token), ("b", token)] (.reference "a" token)
    let stuck := assignAll [("c", token), ("a", token)] nothing
    (((Expr.reference "a" token).eval env = (.ok (.boolean false), env) ∧ ["a", "b"].Nodup) ∧
        ∃ left, swap.eval env = (.ok (.boolean false), left) ∧
          left.get? "a" = some (.boolean true) ∧ left.get? "b" = some (.boolean false) ∧
          left.valuesOf "a" = [some (.boolean true), some (.text "outer")]) ∧
      (nothing.eval env = (.ok .nil, env) ∧ ["b", "c", "a"].Nodup ∧ env.get? "c" = none) ∧
        ∃ left, (Expr.assign "b" token stuck).eval env =
            (.error { cause := .undefined "c", site := .expr stuck }, left) ∧
          left.valuesOf "a" = [some .nil, some (.text "outer")] ∧
          left.valuesOf "b" = env.valuesOf "b" := by
  intro token nothing outer env swap stuck
  have read : (Expr.reference "a" token).eval env = (.ok (.boolean false), env) := rfl
  have distinct : ["a", "b"].Nodup := by decide
  have read' : nothing.eval env = (.ok .nil, env) := rfl
  have distinct' : ["b", "c", "a"].Nodup := by decide
  obtain ⟨-, shifts, -, swaps⟩ := assignAll_shifts read [("a", token), ("b", token)] distinct
  obtain ⟨-, -, stops, -⟩ :=
    assignAll_shifts read' [("b", token), ("c", token), ("a", token)] distinct'
  refine ⟨⟨⟨read, distinct⟩, ?_⟩, ⟨read', distinct', rfl⟩, ?_⟩
  · obtain ⟨left, exchanged, newA, newB, -⟩ :=
      swaps "a" "b" token token token rfl rfl _ _ rfl rfl
    obtain ⟨answer, left', -, evaluated, shifted⟩ := shifts _ _ rfl (by decide)
    obtain ⟨⟨⟩, rfl⟩ := Prod.mk.inj (exchanged.symm.trans evaluated)
    obtain ⟨distance, new, nearest, handed, changed⟩ := shifted.moved [] "a" ["b"] rfl
    obtain rfl : 0 = distance := Option.some.inj nearest
    obtain rfl : .boolean true = new := Option.some.inj handed
    exact ⟨left, exchanged, newA, newB, changed⟩
  · obtain ⟨left, stopped, shifted⟩ :=
      stops [("b", token)] "c" token [("a", token)] rfl rfl (by decide)
    obtain ⟨distance, new, nearest, handed, changed⟩ := shifted.moved [] "a" [] rfl
    obtain rfl : 0 = distance := Option.some.inj nearest
    obtain rfl : Value.nil = new := Option.some.inj handed
    exact ⟨left, stopped, changed, shifted.others "b" (by decide)⟩

end Expr

end Scriptlet
