/-
Scriptlet.Proofs.Scope.Renaming — names are compared only for equality.

A run looks at a name to find the nearest scope that binds it, and never at how the name is
written or where it comes in an order, though a scope keeps its names in order. So a script
with other names runs as the script does, as long as different names stay different. A
scope with other names is looked up in under the other names and changed under them
(`Scope.rename_insert`); from there the correspondence goes up to the stack of scopes and,
as the coupling `underNames`, through every run.

The names of a tree are at its nodes, and in the tokens beside them. A run does not look at
the tokens, so the two are replaced one after the other.
-/
import Mathlib.Logic.Equiv.Basic
import Scriptlet.Proofs.Layout.Counterparts
import Scriptlet.Proofs.Coupling.Runs

namespace Scriptlet

/-! ## 1. Scripts with other names -/

def Expr.mapNames (f : String → String) : Expr → Expr
  | .literal value token => .literal value token
  | .reference name token => .reference (f name) token
  | .grouping opening inner closing => .grouping opening (inner.mapNames f) closing
  | .unary op sign operand => .unary op sign (operand.mapNames f)
  | .binary op left sign right => .binary op (left.mapNames f) sign (right.mapNames f)
  | .logical op left sign right => .logical op (left.mapNames f) sign (right.mapNames f)
  | .assign name target value => .assign (f name) target (value.mapNames f)

def Stmt.mapNames (f : String → String) (s : Stmt) : Stmt := s.replace (Expr.mapNames f) f

def Phrase.mapNames (f : String → String) : Phrase → Phrase
  | .expr e => .expr (e.mapNames f)
  | .stmt s => .stmt (s.mapNames f)

/-- The token with another name, if it is one. -/
def Token.rename (f : String → String) (t : Token) : Token :=
  if t.kind = .identifier then { t with payload := .text (f t.name) } else t

def Phrase.rename (f : String → String) (node : Phrase) : Phrase :=
  (node.mapNames f).mapTokens (Token.rename f)

/-- The script with other names, which its tokens carry. -/
def Program.rename (f : String → String) (p : Program) : Program :=
  Stmt.mapAll (Token.rename f) (Stmt.replaceAll (Expr.mapNames f) f p)

/-- The same cause, but for the name that no scope binds. -/
def Cause.rename (f : String → String) : Cause → Cause
  | .type refusal => .type refusal
  | .undefined name => .undefined (f name)
  | .globalScope => .globalScope

def Fault.rename (f : String → String) (fault : Fault) : Fault :=
  { cause := fault.cause.rename f, site := fault.site.rename f }

variable {f : String → String}

theorem Token.line_rename (t : Token) : (t.rename f).line = t.line := by
  rw [rename]
  split <;> rfl

/-! ## 2. Nodes with other names -/

namespace Phrase

/-- The nodes below a node get their other names one by one. -/
theorem children_mapNames (node : Phrase) :
    (node.mapNames f).children = node.children.map (mapNames f) := by
  have block : ∀ ss : List Stmt, (Stmt.replaceAll (Expr.mapNames f) f ss).map Phrase.stmt =
      (ss.map Phrase.stmt).map (mapNames f) := by
    intro ss
    induction ss with
    | nil => rfl
    | cons s rest ih => simp [Stmt.replaceAll, mapNames, Stmt.mapNames, ih]
  cases node with
  | expr e => cases e <;> rfl
  | stmt s =>
    cases s with
    | declare keyword name target value semicolon => cases value <;> rfl
    | block b =>
      obtain ⟨opening, body, closing⟩ := b
      exact block body
    | _ => rfl

theorem children_rename (node : Phrase) :
    (node.rename f).children = node.children.map (rename f) := by
  rw [rename, children_mapTokens, children_mapNames, List.map_map]
  rfl

/-- The nodes of a tree and of the tree with other names correspond, in order. -/
theorem phrases_rename (f : String → String) (node : Phrase) :
    (node.rename f).phrases = node.phrases.map (rename f) :=
  phrases_map children_rename node

/-- The first token of a node is the same token, since names are replaced only at the nodes here.
-/
theorem leftmost_mapNames (node : Phrase) : (node.mapNames f).leftmost = node.leftmost := by
  have exprs : ∀ e : Expr, (e.mapNames f).leftmost = e.leftmost := by
    intro e
    induction e with
    | binary op left sign right ih ihRight => exact ih
    | logical op left sign right ih ihRight => exact ih
    | _ => rfl
  cases node with
  | expr e => exact exprs e
  | stmt s =>
    cases s with
    | expr e semicolon => exact exprs e
    | block b => cases b; rfl
    | _ => rfl

theorem line_rename (node : Phrase) : (node.rename f).line = node.line := by
  rw [line, rename, leftmost_mapTokens, Token.line_rename, leftmost_mapNames, line]

end Phrase

/-- The nodes of a script with other names, in order. -/
theorem Stmt.phrasesAll_rename (p : Program) :
    phrasesAll (p.rename f) = (phrasesAll p).map (Phrase.rename f) := by
  induction p with
  | nil => rfl
  | cons s rest ih =>
    show phrasesAll ((s.mapNames f).mapTokens (Token.rename f) :: Program.rename f rest) = _
    rw [phrasesAll_cons, phrasesAll_cons, List.map_append, ih]
    exact congrArg (· ++ _) (Phrase.phrases_rename f (.stmt s))

/-! ## 3. Scopes with other names -/

namespace Scope

def rename (f : String → String) (scope : Scope) : Scope :=
  .ofList (scope.toList.map (Prod.map f id))

variable (injective : Function.Injective f) (scope : Scope) (name : String)

include injective in
/-- A value is found under the other name, and there is no second one under it. -/
theorem getElem?_rename : (scope.rename f)[f name]? = scope[name]? := by
  cases bound : scope[name]? with
  | none =>
    refine Std.ExtTreeMap.getElem?_ofList_of_contains_eq_false ?_
    simp [injective.eq_iff, bound]
  | some value =>
    refine Std.ExtTreeMap.getElem?_ofList_of_mem Std.ReflCmp.compare_self ?_ ?_
    · refine List.pairwise_map.mpr (scope.distinct_keys_toList.imp fun different same => ?_)
      rw [Std.LawfulEqCmp.compare_eq_iff_eq] at different same
      exact different (injective same)
    · exact List.mem_map.mpr ⟨(name, value), by simpa using bound, rfl⟩

/-- What is the other name of nothing is bound to nothing. -/
theorem getElem?_rename_of_unused {other : String} (unused : ∀ name, f name ≠ other) :
    (scope.rename f)[other]? = none := by
  refine Std.ExtTreeMap.getElem?_ofList_of_contains_eq_false ?_
  simp [unused]

theorem rename_empty : rename f ∅ = ∅ := by
  simp [rename]

include injective in
/-- To bind and to rename is to rename and to bind the other name. -/
theorem rename_insert (value : Value) :
    rename f (scope.insert name value) = (scope.rename f).insert (f name) value := by
  refine Std.ExtTreeMap.ext_getElem? fun other => ?_
  by_cases used : ∃ original, f original = other
  · obtain ⟨original, rfl⟩ := used
    simp only [getElem?_rename injective, Std.ExtTreeMap.getElem?_insert,
      Std.LawfulEqCmp.compare_eq_iff_eq, injective.eq_iff]
  · have unused : ∀ original, f original ≠ other := not_exists.mp used
    simp [getElem?_rename_of_unused _ unused, Std.ExtTreeMap.getElem?_insert, unused]

end Scope

/-! ## 4. Environments with other names -/

namespace Environment

def rename (f : String → String) (env : Environment) : Environment :=
  { innermost := env.innermost.rename f, enclosing := env.enclosing.map (Scope.rename f) }

variable (env : Environment) {left : Environment} {name : String} {value previous : Value}

theorem scopes_rename : (env.rename f).scopes = env.scopes.map (Scope.rename f) := rfl

theorem rename_push : env.push.rename f = (env.rename f).push := by
  rw [rename, push, Scope.rename_empty]
  rfl

/-- The innermost scope is left, whatever its names. -/
theorem pop_rename (popped : env.pop = .ok left) : (env.rename f).pop = .ok (left.rename f) := by
  obtain ⟨innermost, enclosing⟩ := env
  cases enclosing with
  | nil => cases popped
  | cons next outer =>
    cases popped
    rfl

section

variable (injective : Function.Injective f)
include injective

theorem rename_define :
    (env.define name value).rename f = (env.rename f).define (f name) value := by
  rw [define, rename, Scope.rename_insert injective]
  rfl

/-- The value is the same, found under the other name. -/
theorem get?_rename : (env.rename f).get? (f name) = env.get? name := by
  rw [get?, scopes_rename, List.findSome?_map]
  exact congrArg (env.scopes.findSome? ·) (funext fun scope => scope.getElem?_rename injective name)

/-- Different names stay different, so the search ends at the same scope. -/
theorem overwrite?_rename (scopes : List Scope) :
    overwrite? (f name) value (scopes.map (Scope.rename f)) =
      (overwrite? name value scopes).map (Prod.map id (List.map (Scope.rename f))) := by
  induction scopes with
  | nil => rfl
  | cons scope outer ih =>
    rw [List.map_cons, overwrite?_cons, overwrite?_cons, ih, Scope.getElem?_rename injective]
    cases scope[name]? with
    | some previous => simp [Scope.rename_insert injective]
    | none => cases overwrite? name value outer <;> rfl

theorem assign_rename (assigned : env.assign name value = .ok (previous, left)) :
    (env.rename f).assign (f name) value = .ok (previous, left.rename f) := by
  rw [assign_eq] at assigned ⊢
  rw [scopes_rename, overwrite?_rename injective]
  split at assigned
  · next overwritten =>
    cases assigned
    rw [overwritten]
    rfl
  · cases assigned

end

end Environment

/-! ## 5. Runs with other names -/

/-- Other names at the nodes are a replacement node by node. -/
theorem Expr.nodeWise_mapNames : NodeWise (mapNames f) f where
  literal _ _ := rfl
  reference _ _ := rfl
  grouping _ _ _ _ := rfl
  unary _ _ _ := rfl
  binary _ _ _ _ := rfl
  logical _ _ _ _ := rfl
  assign _ _ _ := rfl

/-- A run beside that with other names at the nodes, from the environment with these names. -/
def underNames (injective : Function.Injective f) : Coupling where
  envs _ env env' := env' = env.rename f
  expr := Expr.mapNames f
  name := f
  fault fault := { cause := fault.cause.rename f, site := fault.site.mapNames f }
  Bears _ := True
  Declares _ _ := True
  nodeWise := Expr.nodeWise_mapNames
  refused _ _ := rfl
  missing _ _ := rfl
  inside _ _ := trivial
  push := by
    rintro level env _ rfl
    exact env.rename_push.symm
  pop := by
    rintro level env _ left left' rfl popped popped'
    rw [env.pop_rename popped] at popped'
    exact (Except.ok.inj popped').symm
  define := by
    rintro level env _ name value - rfl
    exact (env.rename_define injective).symm
  get? := by
    rintro level env _ node name - - rfl
    exact env.get?_rename injective
  assign := by
    rintro level env _ name target e value previous left left' - rfl assigned assigned'
    rw [env.assign_rename injective assigned] at assigned'
    exact (Prod.mk.inj (Except.ok.inj assigned')).2.symm

/-- The words of a refusal speak of kinds of values and not of names. -/
theorem Fault.message_rename {fault : Fault} {refusal : TypeError}
    (isRefusal : fault.cause = .type refusal) : (fault.rename f).message = fault.message := by
  rw [message, message, rename, Phrase.line_rename, isRefusal]
  rfl

namespace Program

/-- First the names at the nodes are replaced, and then those in the tokens, which a run does not
see. -/
theorem execAll_rename (injective : Function.Injective f) (p : Program) (rounds : Nat)
    (st : State) :
    Stmt.execAll rounds (p.rename f) { st with env := st.env.rename f } =
      ((Stmt.execAll rounds p st).1.mapFault (Fault.rename f),
        { (Stmt.execAll rounds p st).2 with
          env := (Stmt.execAll rounds p st).2.env.rename f }) := by
  have start : State.Alike ((underNames injective).envs 0) st { st with env := st.env.rename f } :=
    ⟨rfl, rfl⟩
  have alike := ((underNames injective).couples_statements rounds).2 p (fun _ _ => trivial) 0
    (fun _ _ _ _ => trivial) _ _ start
  have ran : Stmt.execAll rounds (Stmt.replaceAll (Expr.mapNames f) f p) _ = _ := alike.eq_mapped
  rw [rename, Stmt.execAll_mapAll, ran]
  cases (Stmt.execAll rounds p st).1 <;> rfl

/-- Under other names, different for different names, a script prints the same text and ends in
the same way, and leaves the same variables under the other names. A fault blames the node
that corresponds: the same one with other names, and with the same number in its tree. A
refused value is refused in the same words, and a variable that no scope binds is missing
under its other name. -/
theorem renamed_alike (f : String → String) (injective : Function.Injective f) (p : Program)
    (rounds : Nat) (env : Environment) (out : String) :
    let ran := Stmt.execAll rounds p { env, out }
    let ran' := Stmt.execAll rounds (p.rename f) { env := env.rename f, out }
    ran'.1 = ran.1.mapFault (Fault.rename f) ∧ ran'.2.out = ran.2.out ∧
      ran'.2.env = ran.2.env.rename f ∧
      ∀ fault, ran.1 = .failed fault →
        (∃ k : Nat, (Stmt.phrasesAll p)[k]? = some fault.site ∧
          (Stmt.phrasesAll (p.rename f))[k]? = some (fault.rename f).site) ∧
        ∀ refusal, fault.cause = .type refusal → (fault.rename f).message = fault.message := by
  intro ran ran'
  have same : ran' = (ran.1.mapFault (Fault.rename f), { ran.2 with env := ran.2.env.rename f }) :=
    execAll_rename injective p rounds { env, out }
  rw [same]
  refine ⟨rfl, rfl, rfl, fun fault failed => ⟨?_, ?_⟩⟩
  · obtain ⟨k, site⟩ := Fault.exists_index failed
    refine ⟨k, site, ?_⟩
    rw [Stmt.phrasesAll_rename, List.getElem?_map, site]
    rfl
  · exact fun refusal isRefusal => Fault.message_rename isRefusal

/-- `{ var y = !x; print y; x = y; } y;`, with one token in place of all. -/
def shadowing (token : Token) : Program :=
  [.block
      { opening := token
        body :=
          [.declare token "y" token (some (.unary .invert token (.reference "x" token))) token,
            .print token (.reference "y" token) token,
            .expr (.assign "x" token (.reference "y" token)) token]
        closing := token },
    .expr (.reference "y" token) token]

/-- Two names change places, in a script that declares the one and misses it at the end. -/
theorem renamed_alike_swapped :
    let token : Token :=
      { kind := .identifier, lexeme := "y", line := 1, payload := .text "y", start := 0 }
    let f := Equiv.swap "x" "y"
    let env := Environment.empty.define "x" (.boolean true)
    let ran := Stmt.execAll 0 (shadowing token) { env, out := "" }
    let ran' := Stmt.execAll 0 (rename f (shadowing token)) { env := env.rename f, out := "" }
    Function.Injective f ∧
      ran.1 = .failed { cause := .undefined "y", site := .expr (.reference "y" token) } ∧
      ran'.1 = .failed
        { cause := .undefined "x"
          site := .expr (.reference "x" { token with payload := .text "x" }) } ∧
      ran.2.out = "false\n" ∧ ran'.2.out = "false\n" ∧
      ran.2.env.get? "x" = some (.boolean false) ∧ ran'.2.env = ran.2.env.rename f := by
  intro token f env ran ran'
  have injective : Function.Injective f := f.injective
  have failed : ran.1 = .failed
      { cause := .undefined "y", site := .expr (.reference "y" token) } := rfl
  obtain ⟨ending, out, left, -⟩ := renamed_alike f injective (shadowing token) 0 env ""
  rw [show (Stmt.execAll 0 (shadowing token) { env, out := "" }).1 = _ from failed] at ending
  exact ⟨injective, failed, ending, rfl, out, rfl, left⟩

end Program

end Scriptlet
