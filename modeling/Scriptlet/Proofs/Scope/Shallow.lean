/-
Scriptlet.Proofs.Scope.Shallow — a stack of bindings for each name.

An environment keeps the names of one scope together. The other way round, each name
keeps its own bindings, the nearest first, each with the level of its scope, and nothing
is searched: what matters of a name is on top of its stack. `Bindings` is that machine.

`Environment.bindings` reads the stacks off the scopes, and every operation commutes with
that reading (section 3). A declaration and the leaving of a scope are the two that have
to tell whether the top of a stack belongs to the innermost scope; it does exactly if it
is at the current level, since no binding is above the scopes it was read off
(`level_le_of_mem`). From one operation to all of them is then a general step
(`Variables.Simulates.run_view`).
-/
import Mathlib.Logic.Function.Basic
import Scriptlet.Proofs.Scope.Lookup

namespace Scriptlet

/-! ## 1. Operations on variables -/

/-- What can be asked of a machine that keeps variables. -/
inductive Operation
  | push
  | pop
  | define (name : String) (value : Value)
  | assign (name : String) (value : Value)
  | get (name : String)
  | holds (name : String)
  | depth

/-- What an operation answers. -/
inductive Answer
  | nothing
  /-- The value of a name, if it has one. -/
  | value (value : Option Value)
  | truth (truth : Bool)
  | number (number : Nat)
  /-- It failed. -/
  | refused (cause : Cause)

/-- A machine that keeps variables, by its operations. -/
structure Variables (σ : Type) where
  start : σ
  push : σ → σ
  pop : σ → Except Cause σ
  define : σ → String → Value → σ
  assign : σ → String → Value → Except Cause (Value × σ)
  get? : σ → String → Option Value
  holds : σ → String → Bool
  depth : σ → Nat

namespace Variables

variable {σ τ : Type}

def perform (m : Variables σ) (s : σ) : Operation → Answer × σ
  | .push => (.nothing, m.push s)
  | .pop =>
    match m.pop s with
    | .ok left => (.nothing, left)
    | .error cause => (.refused cause, s)
  | .define name value => (.nothing, m.define s name value)
  | .assign name value =>
    match m.assign s name value with
    | .ok (previous, changed) => (.value (some previous), changed)
    | .error cause => (.refused cause, s)
  | .get name => (.value (m.get? s name), s)
  | .holds name => (.truth (m.holds s name), s)
  | .depth => (.number (m.depth s), s)

def performAll (m : Variables σ) (s : σ) : List Operation → List Answer × σ
  | [] => ([], s)
  | op :: rest =>
    let (answer, next) := m.perform s op
    let (answers, last) := m.performAll next rest
    (answer :: answers, last)

def run (m : Variables σ) (ops : List Operation) : List Answer × σ := m.performAll m.start ops

/-- A refused operation leaves the machine as it is. -/
theorem state_of_refused (m : Variables σ) {s : σ} {op : Operation} {cause : Cause}
    (refused : (m.perform s op).1 = .refused cause) : (m.perform s op).2 = s := by
  cases op with
  | pop =>
    rw [perform] at refused ⊢
    cases popped : m.pop s with
    | ok left => simp [popped] at refused
    | error cause => rfl
  | assign name value =>
    rw [perform] at refused ⊢
    cases assigned : m.assign s name value with
    | ok changed => simp [assigned] at refused
    | error cause => rfl
  | push => cases refused
  | define name value => cases refused
  | get name => rfl
  | holds name => rfl
  | depth => rfl

/-- Every operation of `m` is that of `n` on what `view` shows of the state. -/
structure Simulates (m : Variables σ) (n : Variables τ) (view : σ → τ) : Prop where
  start : n.start = view m.start
  push : ∀ s, n.push (view s) = view (m.push s)
  pop : ∀ s, n.pop (view s) = (m.pop s).map view
  define : ∀ s name value, n.define (view s) name value = view (m.define s name value)
  assign : ∀ s name value,
    n.assign (view s) name value = (m.assign s name value).map (Prod.map id view)
  get? : ∀ s name, n.get? (view s) name = m.get? s name
  holds : ∀ s name, n.holds (view s) name = m.holds s name
  depth : ∀ s, n.depth (view s) = m.depth s

namespace Simulates

variable {m : Variables σ} {n : Variables τ} {view : σ → τ} (simulates : m.Simulates n view)

include simulates

/-- Operation by operation the two machines answer alike. -/
theorem perform_view (s : σ) (op : Operation) :
    n.perform (view s) op = ((m.perform s op).1, view (m.perform s op).2) := by
  cases op with
  | push => rw [perform, perform, simulates.push]
  | pop =>
    rw [perform, perform, simulates.pop]
    cases m.pop s <;> rfl
  | define name value => rw [perform, perform, simulates.define]
  | assign name value =>
    rw [perform, perform, simulates.assign]
    cases m.assign s name value <;> rfl
  | get name => rw [perform, perform, simulates.get?]
  | holds name => rw [perform, perform, simulates.holds]
  | depth => rw [perform, perform, simulates.depth]

theorem performAll_view (s : σ) (ops : List Operation) :
    n.performAll (view s) ops = ((m.performAll s ops).1, view (m.performAll s ops).2) := by
  induction ops generalizing s with
  | nil => rfl
  | cons op rest ih => simp only [performAll, simulates.perform_view, ih]

theorem run_view (ops : List Operation) :
    n.run ops = ((m.run ops).1, view (m.run ops).2) := by
  rw [run, simulates.start]
  exact simulates.performAll_view m.start ops

end Simulates

end Variables

def Environment.machine : Variables Environment where
  start := .empty
  push := push
  pop := pop
  define := define
  assign := assign
  get? := get?
  holds := holds
  depth := depth

/-! ## 2. Bindings by name -/

/-- A value of a name, and the level of the scope that gives it. -/
structure Binding where
  level : Nat
  value : Value

/-- The bindings of each name, the nearest first, and the current level. -/
@[ext]
structure Bindings where
  level : Nat
  of : String → List Binding

namespace Bindings

def empty : Bindings := { level := 1, of := fun _ => [] }

def push (b : Bindings) : Bindings := { b with level := b.level + 1 }

def dropAt (level : Nat) : List Binding → List Binding
  | [] => []
  | top :: rest => if top.level = level then rest else top :: rest

/-- One level less, without the bindings at the level that is left. -/
def pop (b : Bindings) : Except Cause Bindings :=
  if b.level = 1 then .error .globalScope
  else .ok { level := b.level - 1, of := fun name => dropAt b.level (b.of name) }

def bindAt (level : Nat) (value : Value) : List Binding → List Binding
  | [] => [{ level, value }]
  | top :: rest =>
    if top.level = level then { level, value } :: rest else { level, value } :: top :: rest

def define (b : Bindings) (name : String) (value : Value) : Bindings :=
  { b with of := Function.update b.of name (bindAt b.level value (b.of name)) }

/-- Overwrite the value on top of the stack of a name. -/
def assign (b : Bindings) (name : String) (value : Value) : Except Cause (Value × Bindings) :=
  match b.of name with
  | [] => .error (.undefined name)
  | top :: rest =>
    .ok (top.value, { b with of := Function.update b.of name ({ top with value } :: rest) })

def get? (b : Bindings) (name : String) : Option Value := (b.of name).head?.map Binding.value

def holds (b : Bindings) (name : String) : Bool := (b.of name).head?.isSome

def machine : Variables Bindings where
  start := empty
  push := push
  pop := pop
  define := define
  assign := assign
  get? := get?
  holds := holds
  depth := level

/-- To bind at a level is to take away what was there and put the value on top. -/
theorem bindAt_eq (level : Nat) (value : Value) (stack : List Binding) :
    bindAt level value stack = { level, value } :: dropAt level stack := by
  cases stack with
  | nil => rfl
  | cons top rest =>
    rw [bindAt, dropAt]
    split <;> rfl

/-- The bindings of a name that a stack of scopes gives. -/
def read (name : String) : List Scope → List Binding
  | [] => []
  | scope :: outer =>
    match scope[name]? with
    | some value => { level := outer.length + 1, value } :: read name outer
    | none => read name outer

variable {name other : String} {value : Value} {scope : Scope} {scopes outer : List Scope}

/-- A scope that binds the name adds to its stack. -/
theorem read_cons_some (bound : scope[name]? = some value) :
    read name (scope :: outer) = { level := outer.length + 1, value } :: read name outer := by
  rw [read, bound]

theorem read_cons_none (unbound : scope[name]? = none) :
    read name (scope :: outer) = read name outer := by
  rw [read, unbound]

theorem level_le_of_mem {b : Binding} (mem : b ∈ read name scopes) : b.level ≤ scopes.length := by
  induction scopes with
  | nil => cases mem
  | cons scope outer ih =>
    rw [List.length_cons]
    cases bound : scope[name]? with
    | none =>
      rw [read_cons_none bound] at mem
      exact Nat.le_succ_of_le (ih mem)
    | some value =>
      rw [read_cons_some bound] at mem
      obtain rfl | mem := List.mem_cons.mp mem
      · exact Nat.le_refl _
      · exact Nat.le_succ_of_le (ih mem)

/-- Without the innermost scope, the bindings at its level are gone, and no others. -/
theorem dropAt_read (name : String) (scope : Scope) (outer : List Scope) :
    dropAt (outer.length + 1) (read name (scope :: outer)) = read name outer := by
  cases bound : scope[name]? with
  | some value =>
    rw [read_cons_some bound]
    exact if_pos rfl
  | none =>
    rw [read_cons_none bound]
    cases stack : read name outer with
    | nil => rfl
    | cons top rest =>
      have below : top.level ≤ outer.length :=
        level_le_of_mem (by rw [stack]; exact List.mem_cons_self)
      exact if_neg (by omega)

/-- To bind in the innermost scope is to have that binding on top. -/
theorem read_insert_self (name : String) (value : Value) (scope : Scope) (outer : List Scope) :
    read name (scope.insert name value :: outer) =
      { level := outer.length + 1, value } :: read name outer :=
  read_cons_some Std.ExtTreeMap.getElem?_insert_self

theorem read_insert_of_ne (different : other ≠ name) (value : Value) (scope : Scope)
    (outer : List Scope) :
    read other (scope.insert name value :: outer) = read other (scope :: outer) := by
  have same : (scope.insert name value)[other]? = scope[other]? := by
    rw [Std.ExtTreeMap.getElem?_insert, if_neg]
    exact fun equal => different (Std.LawfulEqCmp.compare_eq_iff_eq.mp equal).symm
  rw [read, same, read]

/-- A search through the scopes ends at what is on top of the stack of the name. -/
theorem head?_read (name : String) (scopes : List Scope) :
    (read name scopes).head?.map Binding.value = scopes.findSome? fun scope => scope[name]? := by
  induction scopes with
  | nil => rfl
  | cons scope outer ih =>
    rw [List.findSome?_cons]
    cases bound : scope[name]? with
    | some value =>
      rw [read_cons_some bound]
      rfl
    | none =>
      rw [read_cons_none bound]
      exact ih

/-- Where the stack is empty there is nothing to overwrite. -/
theorem overwrite?_of_read_nil (value : Value) (nothing : read name scopes = []) :
    Environment.overwrite? name value scopes = none := by
  induction scopes with
  | nil => rfl
  | cons scope outer ih =>
    cases bound : scope[name]? with
    | some previous =>
      rw [read_cons_some bound] at nothing
      cases nothing
    | none =>
      rw [read_cons_none bound] at nothing
      rw [Environment.overwrite?_cons, bound, ih nothing]

/-- An overwriting changes the value on top of the stack of the name, and nothing else. -/
theorem overwrite?_of_read_cons (value : Value) {top : Binding} {rest : List Binding}
    (stack : read name scopes = top :: rest) :
    ∃ changed, Environment.overwrite? name value scopes = some (top.value, changed) ∧
      changed.length = scopes.length ∧
      read name changed = { top with value } :: rest ∧
      ∀ other, other ≠ name → read other changed = read other scopes := by
  induction scopes with
  | nil => cases stack
  | cons scope outer ih =>
    cases bound : scope[name]? with
    | some previous =>
      rw [read_cons_some bound] at stack
      cases stack
      refine ⟨scope.insert name value :: outer, ?_, rfl, read_insert_self .., ?_⟩
      · rw [Environment.overwrite?_cons, bound]
      · exact fun other different => read_insert_of_ne different ..
    | none =>
      rw [read_cons_none bound] at stack
      obtain ⟨changed, overwritten, same, onTop, others⟩ := ih stack
      refine ⟨scope :: changed, ?_, congrArg Nat.succ same, ?_, fun other different => ?_⟩
      · rw [Environment.overwrite?_cons, bound, overwritten]
      · rw [read_cons_none bound, onTop]
      · rw [read, read, same, others other different]

end Bindings

/-! ## 3. The bindings of an environment -/

/-- The stack of each name, read off the scopes. -/
def Environment.bindings (env : Environment) : Bindings :=
  { level := env.depth, of := fun name => Bindings.read name env.scopes }

namespace Environment

variable (env : Environment) (name : String) (value : Value)

theorem bindings_empty : empty.bindings = .empty := by
  refine Bindings.ext rfl (funext fun name => ?_)
  exact Bindings.read_cons_none Std.ExtTreeMap.getElem?_empty

/-- A fresh scope is a level more, and no binding. -/
theorem bindings_push : env.push.bindings = env.bindings.push := by
  refine Bindings.ext rfl (funext fun name => ?_)
  exact Bindings.read_cons_none Std.ExtTreeMap.getElem?_empty

/-- To leave a scope takes one binding at most from each stack. -/
theorem bindings_pop : env.bindings.pop = env.pop.map bindings := by
  obtain ⟨innermost, enclosing⟩ := env
  cases enclosing with
  | nil => rfl
  | cons next outer =>
    have inside : (⟨innermost, next :: outer⟩ : Environment).bindings.level ≠ 1 := by
      simp [bindings, depth, scopes]
    rw [Bindings.pop, if_neg inside]
    refine congrArg Except.ok (Bindings.ext rfl (funext fun name => ?_))
    exact Bindings.dropAt_read name innermost (next :: outer)

/-- To define a name is to replace the binding at the current level, or to put one there. -/
theorem bindings_define :
    env.bindings.define name value = (env.define name value).bindings := by
  refine Bindings.ext rfl (funext fun other => ?_)
  have onTop : Bindings.bindAt env.depth value (Bindings.read name env.scopes) =
      Bindings.read name (env.define name value).scopes := by
    rw [Bindings.bindAt_eq]
    exact (congrArg _ (Bindings.dropAt_read ..)).trans (Bindings.read_insert_self ..).symm
  by_cases same : other = name
  · subst same
    exact (Function.update_self ..).trans onTop
  · exact (Function.update_of_ne same ..).trans (Bindings.read_insert_of_ne same ..).symm

/-- To assign to a name is to change the top of its stack, which stays at its level. -/
theorem bindings_assign :
    env.bindings.assign name value = (env.assign name value).map (Prod.map id bindings) := by
  rw [Bindings.assign, assign_eq]
  cases stack : env.bindings.of name with
  | nil => rw [Bindings.overwrite?_of_read_nil value stack]; rfl
  | cons top rest =>
    obtain ⟨changed, overwritten, same, onTop, others⟩ :=
      Bindings.overwrite?_of_read_cons value stack
    cases changed with
    | nil => cases same
    | cons innermost enclosing =>
      rw [overwritten]
      refine congrArg (fun b => Except.ok (top.value, b)) (Bindings.ext same.symm (funext ?_))
      intro other
      by_cases isName : other = name
      · subst isName
        exact (Function.update_self ..).trans onTop.symm
      · exact (Function.update_of_ne isName ..).trans (others other isName).symm

/-- The nearest binding is the top of the stack. -/
theorem bindings_get? : env.bindings.get? name = env.get? name :=
  Bindings.head?_read name env.scopes

theorem bindings_holds : env.bindings.holds name = env.holds name := by
  rw [holds, ← bindings_get?, Bindings.get?, Option.isSome_map, Bindings.holds]

/-- Operation by operation, a stack of scopes is a level and a stack for each name. -/
theorem bindings_simulates : machine.Simulates Bindings.machine bindings where
  start := bindings_empty.symm
  push s := (bindings_push s).symm
  pop := bindings_pop
  define := bindings_define
  assign := bindings_assign
  get? := bindings_get?
  holds := bindings_holds
  depth _ := rfl

/-- A stack of scopes refines a stack of bindings for each name. Whatever is asked of
the two from their start on, both give the same answers and the same errors, and the
bindings are those of the scopes at the end; and a call that fails changes neither. -/
theorem refines_bindings (ops : List Operation) :
    let (answers, env) := machine.run ops
    Bindings.machine.run ops = (answers, env.bindings) ∧
      (∀ op cause, (machine.perform env op).1 = .refused cause →
        (machine.perform env op).2 = env) ∧
      ∀ op cause, (Bindings.machine.perform env.bindings op).1 = .refused cause →
        (Bindings.machine.perform env.bindings op).2 = env.bindings := by
  refine ⟨bindings_simulates.run_view ops, ?_, ?_⟩
  · exact fun op cause refused => machine.state_of_refused refused
  · exact fun op cause refused => Bindings.machine.state_of_refused refused

/-- A name bound to `nil` twice, of which the inner binding is overwritten and left. -/
theorem refines_bindings_nil :
    let ops : List Operation :=
      [.define "x" .nil, .push, .define "x" .nil, .assign "x" (.boolean true),
        .assign "y" .nil, .get "x", .pop, .get "x", .holds "x", .holds "y", .depth]
    (machine.run ops).1 =
        [.nothing, .nothing, .nothing, .value (some .nil), .refused (.undefined "y"),
          .value (some (.boolean true)), .nothing, .value (some .nil), .truth true,
          .truth false, .number 1] ∧
      let last := (machine.run ops).2
      (machine.perform last .pop).1 = .refused .globalScope ∧
        (machine.perform last .pop).2 = last := by
  intro ops
  obtain ⟨agree, unchanged, -⟩ := refines_bindings ops
  have answers := congrArg Prod.fst agree
  have global : (machine.perform (machine.run ops).2 .pop).1 =
      .refused .globalScope := rfl
  exact ⟨answers.symm.trans rfl, global, unchanged .pop .globalScope global⟩

end Environment

end Scriptlet
