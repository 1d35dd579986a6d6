/-
Scriptlet.Proofs.Scope.Mentioned — names that a script does not mention.

What a script does depends on the values of the names that stand in it, and on no others.
Two environments that give these names the same values, scope by scope, are coupled by
its runs (`agreeing`): a search for such a name stops at the same scope and the same value in
both, and what is declared and assigned changes both alike. The other names are not touched
in either, since the script neither assigns to them nor declares them.
-/
import Scriptlet.Proofs.Scope.Frame

namespace Scriptlet

/-- The names that stand in a script. -/
def Program.mentioned (p : Program) : List String :=
  (Stmt.phrasesAll p).filterMap Phrase.name?

theorem Phrase.name?_of_assigned? {node : Phrase} {name : String}
    (assigned : node.assigned? = some name) : node.name? = some name := by
  cases node with
  | expr e =>
    cases e with
    | assign target token value => exact assigned
    | _ => cases assigned
  | stmt s => cases assigned

namespace Program

variable {p : Program} {node : Phrase} {name : String}

/-- Names are mentioned at nodes, and nowhere else. -/
theorem mem_mentioned (mem : node ∈ Stmt.phrasesAll p) (isName : node.name? = some name) :
    name ∈ p.mentioned :=
  List.mem_filterMap.mpr ⟨node, mem, isName⟩

/-! ## 1. The names that are not mentioned -/

/-- A script does nothing to a name that it does not mention. -/
theorem valuesOf_unmentioned (unmentioned : name ∉ p.mentioned) (rounds : Nat) (st : State) :
    (Stmt.execAll rounds p st).2.env.valuesOf name = st.env.valuesOf name := by
  refine Stmt.valuesOf_execAll (fun node mem assigned => ?_) (fun s mem declared => ?_) rounds st
  · exact unmentioned (mem_mentioned mem (Phrase.name?_of_assigned? assigned))
  · exact unmentioned (mem_mentioned (Stmt.mem_phrasesAll mem) declared)

end Program

/-! ## 2. The names that are mentioned -/

/-- The runs of the same statements from environments that give each of these names the
same values. -/
def agreeing (names : List String) : Coupling where
  envs _ env env' := ∀ name ∈ names, env'.valuesOf name = env.valuesOf name
  Bears node := ∀ name ∈ node.name?, name ∈ names
  Declares _ declared := declared ∈ names
  inside borne isDeclared := borne _ isDeclared
  push := by
    intro level env env' agree name mem
    rw [Environment.valuesOf_push, Environment.valuesOf_push, agree name mem]
  pop := by
    intro level env env' left left' agree popped popped' name mem
    rw [Environment.valuesOf_pop popped, Environment.valuesOf_pop popped', agree name mem]
  define := by
    intro level env env' declared value _ agree name mem
    rw [id_eq]
    by_cases isDeclared : name = declared
    · subst isDeclared
      rw [Environment.valuesOf_define_self, Environment.valuesOf_define_self, agree name mem]
    · rw [Environment.valuesOf_define_of_ne isDeclared, Environment.valuesOf_define_of_ne isDeclared,
        agree name mem]
  get? := by
    intro level env env' node name borne isName agree
    rw [id_eq, Environment.get?_eq_findSome?_valuesOf, Environment.get?_eq_findSome?_valuesOf,
      agree name (borne name isName)]
  assign := by
    intro level env env' target token e value previous left left' borne agree assigned assigned'
      name mem
    rw [id_eq] at assigned'
    by_cases isTarget : name = target
    · -- The same values before, so the search stops in both at the same scope.
      subst isTarget
      obtain ⟨distance, nearest, changed⟩ := Environment.valuesOf_assign_self assigned
      obtain ⟨distance', nearest', changed'⟩ := Environment.valuesOf_assign_self assigned'
      rw [agree name mem, nearest] at nearest'
      obtain rfl := Option.some.inj nearest'
      rw [changed, changed', agree name mem]
    · rw [Environment.valuesOf_assign_of_ne assigned isTarget,
        Environment.valuesOf_assign_of_ne assigned' isTarget, agree name mem]

namespace Program

/-- Environments that agree on the names of a script cannot be told apart by running it. -/
theorem alike_of_agreeing {p : Program} {st st' : State}
    (start : State.Alike ((agreeing p.mentioned).envs 0) st st') (rounds : Nat) :
    Ending.Alike ((agreeing p.mentioned).envs 0) id (Stmt.execAll rounds p st)
      (Stmt.execAll rounds p st') := by
  refine Coupling.execAll_same rfl rfl (fun node mem name isName => ?_)
    (fun s mem name isName => ?_) rounds st st' start
  · exact mem_mentioned mem isName
  · exact mem_mentioned (Stmt.mem_phrasesAll mem) isName

/-- A script runs alike from environments that, scope by scope, agree on the names that stand
in it. It prints the same text and ends in the same way, by the same fault if it fails; the
environments that it leaves agree on these names again; and in each of them every other name
is bound as it was before. -/
theorem unmentioned_apart (p : Program) (env env' : Environment)
    (agree : ∀ name ∈ p.mentioned, env'.valuesOf name = env.valuesOf name) (rounds : Nat)
    (out : String) :
    let ran := Stmt.execAll rounds p { env, out }
    let ran' := Stmt.execAll rounds p { env := env', out }
    ran'.1 = ran.1 ∧ ran'.2.out = ran.2.out ∧
      (∀ name ∈ p.mentioned, ran'.2.env.valuesOf name = ran.2.env.valuesOf name) ∧
      ∀ name ∉ p.mentioned, ran.2.env.valuesOf name = env.valuesOf name ∧
        ran'.2.env.valuesOf name = env'.valuesOf name := by
  intro ran ran'
  have start : State.Alike ((agreeing p.mentioned).envs 0) { env, out } { env := env', out } :=
    ⟨agree, rfl⟩
  have alike := alike_of_agreeing start rounds
  refine ⟨?_, alike.state.out, alike.state.env, fun name unmentioned => ⟨?_, ?_⟩⟩
  · rw [alike.ending, Ending.mapFault_id]
  · exact valuesOf_unmentioned unmentioned rounds { env, out }
  · exact valuesOf_unmentioned unmentioned rounds { env := env', out }

/-- `x = !x; print x; -x;`, with one token in place of all. -/
def inverting (token : Token) : Program :=
  [.expr (.assign "x" token (.unary .invert token (.reference "x" token))) token,
    .print token (.reference "x" token) token,
    .expr (.unary .negate token (.reference "x" token)) token]

/-- One of the environments binds a name more, which is nowhere in the script. -/
theorem unmentioned_apart_inverting :
    let token : Token := { kind := .finish, lexeme := "", line := 1, start := 0 }
    let env := (Environment.empty.define "x" (.boolean true)).push
    let env' := env.define "w" .nil
    let ran := Stmt.execAll 0 (inverting token) { env, out := "" }
    let ran' := Stmt.execAll 0 (inverting token) { env := env', out := "" }
    (∀ name ∈ (inverting token).mentioned, env'.valuesOf name = env.valuesOf name) ∧
      ran.1 = .failed
        { cause := .type (.negated .boolean)
          site := .expr (.unary .negate token (.reference "x" token)) } ∧
      ran'.1 = ran.1 ∧ ran.2.out = "false\n" ∧ ran'.2.out = ran.2.out ∧
      ran'.2.env.valuesOf "x" = ran.2.env.valuesOf "x" ∧
      ran.2.env.valuesOf "w" = [none, none] ∧ ran'.2.env.valuesOf "w" = [some .nil, none] := by
  intro token env env' ran ran'
  have unmentioned : "w" ∉ (inverting token).mentioned := by decide
  have agree : ∀ name ∈ (inverting token).mentioned, env'.valuesOf name = env.valuesOf name :=
    fun name mem => Environment.valuesOf_define_of_ne (ne_of_mem_of_not_mem mem unmentioned)
  have mem : "x" ∈ (inverting token).mentioned := List.mem_cons_self
  obtain ⟨ending, out, agreeAfter, kept⟩ :=
    unmentioned_apart (inverting token) env env' agree 0 ""
  obtain ⟨first, second⟩ := kept "w" unmentioned
  exact ⟨agree, rfl, ending, rfl, out, agreeAfter "x" mem, first, second⟩

end Program

end Scriptlet
