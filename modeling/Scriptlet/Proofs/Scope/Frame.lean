/-
Scriptlet.Proofs.Scope.Frame — only an assignment to a name changes a value of it.

Seen from the scopes of the start, a declaration in a block is in a scope that is gone when
the block is over, so what it binds there touches no value of its name in them. The
coupling `framed` is a run beside itself and keeps the values of one name in the scopes of
the start, so many scopes inside as were opened since. Right in the innermost of them the
name must not be declared; elsewhere it may be.
-/
import Scriptlet.Proofs.Coupling.Runs
import Scriptlet.Proofs.Scope.Values

namespace Scriptlet

def Phrase.assigned? : Phrase → Option String
  | .expr (.assign name _ _) => some name
  | _ => none

/-! ## 1. The values of one name -/

/-- A run beside itself, which leaves a name these values in the scopes of the start. -/
def framed (name : String) (values : List (Option Value)) : Coupling where
  envs level env env' := env' = env ∧ (env.valuesOf name).drop level = values
  Bears node := node.assigned? ≠ some name
  Declares level declared := 0 < level ∨ declared ≠ name
  inside _ _ := .inl (Nat.succ_pos _)
  push := by
    rintro level env _ ⟨rfl, same⟩
    refine ⟨rfl, ?_⟩
    rw [Environment.valuesOf_push]
    exact same
  pop := by
    rintro level env _ left left' ⟨rfl, same⟩ popped popped'
    obtain rfl := Except.ok.inj (popped.symm.trans popped')
    refine ⟨rfl, ?_⟩
    rw [Environment.valuesOf_pop popped, List.drop_tail]
    exact same
  define := by
    rintro level env _ declared value borne ⟨rfl, same⟩
    refine ⟨rfl, ?_⟩
    by_cases isName : declared = name
    · -- The name itself is declared only inside a scope that was opened since the start.
      subst isName
      obtain ⟨outward, rfl⟩ := Nat.exists_eq_succ_of_ne_zero (borne.resolve_right (· rfl)).ne'
      rw [Environment.valuesOf_define_self, List.drop_succ_cons, List.drop_tail]
      exact same
    · rw [Environment.valuesOf_define_of_ne (Ne.symm isName)]
      exact same
  get? := by
    rintro level env _ node declared - - ⟨rfl, -⟩
    rfl
  assign := by
    rintro level env _ target token e value previous left left' borne ⟨rfl, same⟩ assigned assigned'
    obtain rfl := (Prod.mk.inj (Except.ok.inj (assigned.symm.trans assigned'))).2
    refine ⟨rfl, ?_⟩
    rw [Environment.valuesOf_assign_of_ne assigned fun isName => borne (congrArg some isName.symm)]
    exact same

variable {name : String}

/-- An expression without an assignment to the name leaves it alone in every scope. -/
theorem Expr.valuesOf_eval {e : Expr} (unassigned : ∀ node ∈ e.phrases, node.assigned? ≠ some name)
    (env : Environment) : (e.eval env).2.valuesOf name = env.valuesOf name := by
  have start : (framed name (env.valuesOf name)).envs 0 env env := ⟨rfl, rfl⟩
  exact (Coupling.eval_alike _ unassigned start).env.2

theorem Expr.valuesOf_evalInitial {value : Option Expr}
    (unassigned : ∀ e ∈ value, ∀ node ∈ e.phrases, node.assigned? ≠ some name)
    (env : Environment) : (evalInitial value env).2.valuesOf name = env.valuesOf name := by
  cases value with
  | none => rfl
  | some e => exact valuesOf_eval (unassigned e rfl) env

namespace Stmt

/-- A statement may declare the name in one of its blocks; after that the scopes of the start have
what they had. -/
theorem valuesOf_exec {s : Stmt} (unassigned : ∀ node ∈ s.phrases, node.assigned? ≠ some name)
    (undeclared : s.declared? ≠ some name) (rounds : Nat) (st : State) :
    (s.exec rounds st).2.env.valuesOf name = st.env.valuesOf name := by
  have start : State.Alike ((framed name (st.env.valuesOf name)).envs 0) st st :=
    ⟨⟨rfl, rfl⟩, rfl⟩
  refine (Coupling.exec_same rfl rfl unassigned (fun declared isDeclared => ?_) rounds st st
    start).state.env.2
  exact .inr fun isName => undeclared (isName ▸ isDeclared)

theorem valuesOf_execAll {ss : List Stmt}
    (unassigned : ∀ node ∈ phrasesAll ss, node.assigned? ≠ some name)
    (undeclared : ∀ s ∈ ss, s.declared? ≠ some name) (rounds : Nat) (st : State) :
    (execAll rounds ss st).2.env.valuesOf name = st.env.valuesOf name := by
  have start : State.Alike ((framed name (st.env.valuesOf name)).envs 0) st st :=
    ⟨⟨rfl, rfl⟩, rfl⟩
  refine (Coupling.execAll_same rfl rfl unassigned (fun s mem declared isDeclared => ?_) rounds
    st st start).state.env.2
  exact .inr fun isName => undeclared s mem (isName ▸ isDeclared)

/-- A declaration binds its name in the innermost scope, if it does not fail. -/
theorem valuesOf_declare {keyword target semicolon : Token} {value : Option Expr}
    (unassigned : ∀ e ∈ value, ∀ node ∈ e.phrases, node.assigned? ≠ some name) (rounds : Nat)
    (st : State) :
    let ran := exec rounds (.declare keyword name target value semicolon) st
    ran.2.env.valuesOf name = st.env.valuesOf name ∨
      ran.1 = .done ∧ ∃ a, ran.2.env.valuesOf name = some a :: (st.env.valuesOf name).tail := by
  have kept := Expr.valuesOf_evalInitial unassigned st.env
  intro ran
  rw [show ran = _ from exec_declare rounds st keyword name target value semicolon]
  match evaluated : Expr.evalInitial value st.env with
  | (.error fault, env) =>
    rw [evaluated] at kept
    exact .inl kept
  | (.ok a, env) =>
    rw [evaluated] at kept
    refine .inr ⟨rfl, a, ?_⟩
    rw [← kept]
    exact Environment.valuesOf_define_self

/-! ## 2. The frame -/

/-- However an expression or a statement ends, a name that is the target of no assignment in
it has in every scope the value that it had, or still has none there. Only a declaration of
the name itself is different: it may bind the name in the innermost scope, and no other. -/
theorem unassigned_kept (name : String) :
    (∀ e : Expr, (∀ node ∈ e.phrases, node.assigned? ≠ some name) → ∀ env : Environment,
      (e.eval env).2.valuesOf name = env.valuesOf name) ∧
    ∀ s : Stmt, (∀ node ∈ s.phrases, node.assigned? ≠ some name) →
      ∀ (rounds : Nat) (st : State),
        let ran := s.exec rounds st
        ran.2.env.valuesOf name = st.env.valuesOf name ∨
          s.declared? = some name ∧ ran.1 = .done ∧
            ∃ a, ran.2.env.valuesOf name = some a :: (st.env.valuesOf name).tail := by
  refine ⟨fun e unassigned env => Expr.valuesOf_eval unassigned env, ?_⟩
  intro s unassigned rounds st
  by_cases isDeclared : s.declared? = some name
  · cases s with
    | declare keyword declared target value semicolon =>
      obtain rfl := Option.some.inj isDeclared
      refine (valuesOf_declare (fun e isValue => ?_) rounds st).imp id fun set => ⟨rfl, set⟩
      obtain rfl := Option.mem_def.mp isValue
      rw [phrases_declare, List.forall_mem_cons] at unassigned
      exact unassigned.2
    | _ => cases isDeclared
  · exact .inl (valuesOf_exec unassigned isDeclared rounds st)

/-- `{ var x; -x; }`, with one token in place of all. -/
def hidden (token : Token) : Stmt :=
  .block
    { opening := token
      body :=
        [.declare token "x" token none token,
          .expr (.unary .negate token (.reference "x" token)) token]
      closing := token }

/-- A variable keeps its value when it is assigned to another one that no scope has, and when a
block with a variable of the same name ends in a fault. -/
theorem unassigned_kept_hidden :
    let token : Token := { kind := .finish, lexeme := "", line := 1, start := 0 }
    let env := Environment.empty.define "x" (.boolean true)
    let e : Expr := .assign "y" token (.reference "x" token)
    let ran := (hidden token).exec 0 { env, out := "" }
    ((∀ node ∈ e.phrases, node.assigned? ≠ some "x") ∧
        (e.eval env).1 = .error { cause := .undefined "y", site := .expr e } ∧
        (e.eval env).2.valuesOf "x" = [some (.boolean true)]) ∧
      (∀ node ∈ (hidden token).phrases, node.assigned? ≠ some "x") ∧
        ran.1 = .failed
          { cause := .type (.negated .nil)
            site := .expr (.unary .negate token (.reference "x" token)) } ∧
        ran.2.env.valuesOf "x" = [some (.boolean true)] := by
  intro token env e ran
  have values : env.valuesOf "x" = [some (.boolean true)] := rfl
  have inExpr : ∀ node ∈ e.phrases, node.assigned? ≠ some "x" := by decide
  have inBlock : ∀ node ∈ (hidden token).phrases, node.assigned? ≠ some "x" := by decide
  refine ⟨⟨inExpr, rfl, ?_⟩, inBlock, rfl, ?_⟩
  · exact ((unassigned_kept "x").1 e inExpr env).trans values
  · obtain kept | ⟨declared, -⟩ := (unassigned_kept "x").2 (hidden token) inBlock 0 { env, out := "" }
    · exact kept.trans values
    · cases declared

end Stmt

end Scriptlet
