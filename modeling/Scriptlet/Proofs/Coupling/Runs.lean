/-
Scriptlet.Proofs.Coupling.Runs — two runs side by side.

Much of what can be said of a run compares it with another one: of the same statements from
other variables, or of other statements from the same ones. The two runs take the same
steps, and each step keeps a relation between their environments. A `Coupling` is such a
relation, with the laws that the steps ask for: for each thing that is done to an
environment, one. What follows of evaluations and of whole runs is proved once, by the
induction over expressions (`Coupling.eval_alike`) and by that over statements
(`Coupling.couples_statements`).

The relation may depend on how many scopes were opened since the start. So it can speak of
the scopes that were there at the start, which a declaration in a block does not reach.
A coupling of a run with itself is an invariant of that run.
-/
import Scriptlet.Proofs.Coupling.Trees
import Scriptlet.Proofs.Scope.Discipline

namespace Scriptlet

/-! ## 1. Evaluations and runs that end alike -/

/-- The same end, but for what becomes of a fault. -/
def Ending.mapFault (f : Fault → Fault) : Ending → Ending
  | .failed fault => .failed (f fault)
  | .done => .done
  | .unfinished => .unfinished

@[simp] theorem Ending.mapFault_id (ending : Ending) : ending.mapFault id = ending := by
  cases ending <;> rfl

variable {α β : Type} {envs : Environment → Environment → Prop} {f : Fault → Fault}

/-- Two evaluations with the same answer, but for what becomes of a fault, and with
environments that correspond. -/
structure Evaluated.Alike (envs : Environment → Environment → Prop) (f : Fault → Fault)
    (r r' : Evaluated α) : Prop where
  answer : r'.1 = r.1.mapError f
  env : envs r.2 r'.2

/-- Two states with the same text printed, and with environments that correspond. -/
structure State.Alike (envs : Environment → Environment → Prop) (st st' : State) : Prop where
  env : envs st.env st'.env
  out : st'.out = st.out

/-- Two runs with the same end, but for what becomes of a fault, in states that are alike. -/
structure Ending.Alike (envs : Environment → Environment → Prop) (f : Fault → Fault)
    (ran ran' : Ending × State) : Prop where
  ending : ran'.1 = ran.1.mapFault f
  state : State.Alike envs ran.2 ran'.2

namespace Evaluated

theorem alike_ok (a : α) {env env' : Environment} (same : envs env env') :
    Alike envs f (.ok a, env) (.ok a, env') :=
  ⟨rfl, same⟩

theorem alike_error (fault : Fault) {env env' : Environment} (same : envs env env') :
    @Alike α envs f (.error fault, env) (.error (f fault), env') :=
  ⟨rfl, same⟩

/-- A refusal is blamed on a node and on its counterpart. -/
theorem alike_blame {site site' : Expr} {env env' : Environment} (answer : Except TypeError α)
    (blamed : ∀ refusal, f { cause := .type refusal, site := .expr site } =
      { cause := .type refusal, site := .expr site' }) (same : envs env env') :
    Alike envs f (blame site answer, env) (blame site' answer, env') := by
  cases answer with
  | ok a => exact alike_ok a same
  | error refusal =>
    rw [blame, blame, ← blamed]
    exact alike_error _ same

namespace Alike

/-- From environments that correspond the second evaluations are alike, and so the pairs are. -/
theorem andThen {r r' : Evaluated α} {next next' : α → Environment → Evaluated β}
    (first : Alike envs f r r')
    (second : ∀ a env env', envs env env' → Alike envs f (next a env) (next' a env')) :
    Alike envs f (r.andThen next) (r'.andThen next') := by
  obtain ⟨answer, env⟩ := r
  obtain ⟨answer', env'⟩ := r'
  obtain ⟨rfl, same⟩ := first
  cases answer with
  | ok a => exact second a env env' same
  | error fault => exact alike_error fault same

/-- An evaluation and then a run, on either side. -/
theorem thenRun {r r' : Evaluated α} {st st' : State} {next next' : α → State → Ending × State}
    (first : Alike envs f r r') (out : st'.out = st.out)
    (second : ∀ a st st', State.Alike envs st st' →
      Ending.Alike envs f (next a st) (next' a st')) :
    Ending.Alike envs f (r.thenRun st next) (r'.thenRun st' next') := by
  obtain ⟨answer, env⟩ := r
  obtain ⟨answer', env'⟩ := r'
  obtain ⟨rfl, same⟩ := first
  cases answer with
  | ok a => exact second a { st with env } { st' with env := env' } ⟨same, out⟩
  | error fault => exact ⟨rfl, same, out⟩

end Alike

end Evaluated

/-- If one of the runs is over, so is the other, and both go on. -/
theorem Ending.Alike.thenRun {ran ran' : Ending × State}
    {next next' : State → Ending × State} (first : Alike envs f ran ran')
    (second : ∀ st st', State.Alike envs st st' → Alike envs f (next st) (next' st')) :
    Alike envs f (Ending.thenRun ran next) (Ending.thenRun ran' next') := by
  obtain ⟨ending, st⟩ := ran
  obtain ⟨ending', st'⟩ := ran'
  obtain ⟨rfl, same⟩ := first
  cases ending with
  | done => exact second st st' same
  | failed fault => exact ⟨rfl, same⟩
  | unfinished => exact ⟨rfl, same⟩

/-- A run alike to another is that run with other environments, where these follow from
the environments of the other. -/
theorem Ending.Alike.eq_mapped {g : Environment → Environment} {ran ran' : Ending × State}
    (alike : Alike (fun env env' => env' = g env) f ran ran') :
    ran' = (ran.1.mapFault f, { ran.2 with env := g ran.2.env }) := by
  obtain ⟨ending', env', out'⟩ := ran'
  obtain ⟨rfl, rfl, rfl⟩ := alike
  rfl

/-! ## 2. Couplings -/

namespace Fault

theorem refused_id : ∀ (e : Expr) (refusal : TypeError),
    id ({ cause := .type refusal, site := .expr e } : Fault) =
      { cause := .type refusal, site := .expr (id e) } :=
  fun _ _ => rfl

theorem missing_id : ∀ (e : Expr) (x : String),
    id ({ cause := .undefined x, site := .expr e } : Fault) =
      { cause := .undefined (id x), site := .expr (id e) } :=
  fun _ _ => rfl

end Fault

/-- A relation between the environments of two runs, and what becomes of the statements and
of the faults of the first one in the second. -/
structure Coupling where
  /-- The two environments correspond, so many scopes inside those of the start. -/
  envs : Nat → Environment → Environment → Prop
  /-- What becomes of an expression. -/
  expr : Expr → Expr := id
  /-- What becomes of a name. -/
  name : String → String := id
  /-- What becomes of a fault. -/
  fault : Fault → Fault := id
  /-- The node is one that the coupling bears. -/
  Bears : Phrase → Prop
  /-- The coupling bears a declaration of the name, so many scopes inside. -/
  Declares : Nat → String → Prop
  nodeWise : Expr.NodeWise expr name := by exact Expr.nodeWise_id
  refused : ∀ e refusal, fault { cause := .type refusal, site := .expr e } =
    { cause := .type refusal, site := .expr (expr e) } := by exact Fault.refused_id
  missing : ∀ e x, fault { cause := .undefined x, site := .expr e } =
    { cause := .undefined (name x), site := .expr (expr e) } := by exact Fault.missing_id
  inside : ∀ {level s x}, Bears (.stmt s) → x ∈ s.declared? → Declares (level + 1) x
  push : ∀ {level env env'}, envs level env env' → envs (level + 1) env.push env'.push
  pop : ∀ {level env env' left left'}, envs (level + 1) env env' → env.pop = .ok left →
    env'.pop = .ok left' → envs level left left'
  define : ∀ {level env env' x} (value : Value), Declares level x → envs level env env' →
    envs level (env.define x value) (env'.define (name x) value)
  get? : ∀ {level env env' node x}, Bears node → x ∈ node.name? → envs level env env' →
    env'.get? (name x) = env.get? x
  assign : ∀ {level env env' x target e value previous left left'},
    Bears (.expr (.assign x target e)) → envs level env env' →
    env.assign x value = .ok (previous, left) →
    env'.assign (name x) value = .ok (previous, left') → envs level left left'

namespace Environment

variable {env : Environment} {name : String}

/-- An assignment to a name that is found answers its value. -/
theorem assign_of_get? {previous : Value} (found : env.get? name = some previous)
    (value : Value) : ∃ left, env.assign name value = .ok (previous, left) := by
  cases nearest : env.distance? name with
  | none =>
    rw [(access_of_unbound value nearest).1] at found
    cases found
  | some distance =>
    obtain ⟨other, -, read, changed⟩ := access_of_distance value nearest
    rw [read] at found
    cases found
    exact ⟨_, changed⟩

/-- An assignment to a name that is not found is a fault. -/
theorem assign_of_missing (missing : env.get? name = none) (value : Value) :
    env.assign name value = .error (.undefined name) := by
  cases nearest : env.distance? name with
  | none => exact (access_of_unbound value nearest).2
  | some distance =>
    obtain ⟨other, -, read, -⟩ := access_of_distance value nearest
    rw [read] at missing
    cases missing

end Environment

namespace Coupling

variable (c : Coupling) {level rounds : Nat} {run run' no no' : State → Ending × State}

/-! ## 3. Expressions -/

/-- A name that is missing on the one side is missing under its other name on the other. -/
theorem alike_missing (e : Expr) (x : String) {env env' : Environment}
    (same : c.envs level env env') :
    @Evaluated.Alike Value (c.envs level) c.fault
      (.error { cause := .undefined x, site := .expr e }, env)
      (.error { cause := .undefined (c.name x), site := .expr (c.expr e) }, env') :=
  ⟨congrArg Except.error (c.missing e x).symm, same⟩

/-- Expressions whose nodes the coupling bears evaluate alike: one case for each constructor. -/
theorem eval_alike {e : Expr} {env env' : Environment} (borne : ∀ node ∈ e.phrases, c.Bears node)
    (same : c.envs level env env') :
    Evaluated.Alike (c.envs level) c.fault (e.eval env) ((c.expr e).eval env') := by
  induction e generalizing env env' with
  | literal value token =>
    rw [c.nodeWise.literal]
    exact Evaluated.alike_ok value same
  | reference x token =>
    have blamed := c.alike_missing (.reference x token) x same
    rw [c.nodeWise.reference] at blamed ⊢
    rw [Expr.eval, Expr.eval, c.get? (borne _ (Expr.mem_phrases _)) rfl same]
    cases env.get? x with
    | none => exact blamed
    | some value => exact Evaluated.alike_ok value same
  | grouping opening inner closing ih =>
    rw [Expr.phrases_grouping, List.forall_mem_cons] at borne
    rw [Expr.eval_grouping, c.nodeWise.grouping]
    exact ih borne.2 same
  | unary op sign operand ih =>
    have blamed := c.refused (.unary op sign operand)
    rw [Expr.phrases_unary, List.forall_mem_cons] at borne
    rw [c.nodeWise.unary] at blamed ⊢
    rw [Expr.eval_unary, Expr.eval_unary]
    refine (ih borne.2 same).andThen fun a env env' same => ?_
    exact Evaluated.alike_blame _ blamed same
  | binary op left sign right ihLeft ihRight =>
    have blamed := c.refused (.binary op left sign right)
    rw [Expr.phrases_binary, List.forall_mem_cons, List.forall_mem_append] at borne
    rw [c.nodeWise.binary] at blamed ⊢
    rw [Expr.eval_binary, Expr.eval_binary]
    refine (ihLeft borne.2.1 same).andThen fun a env env' same => ?_
    refine (ihRight borne.2.2 same).andThen fun b env env' same => ?_
    exact Evaluated.alike_blame _ blamed same
  | logical op left sign right ihLeft ihRight =>
    rw [Expr.phrases_logical, List.forall_mem_cons, List.forall_mem_append] at borne
    rw [c.nodeWise.logical, Expr.eval_logical, Expr.eval_logical]
    refine (ihLeft borne.2.1 same).andThen fun a env env' same => ?_
    refine (Evaluated.alike_blame _ (c.refused left) same).andThen fun truth env env' same => ?_
    split
    · exact Evaluated.alike_ok a same
    · exact ihRight borne.2.2 same
  | assign x target value ih =>
    have borneHere := borne _ (Expr.mem_phrases _)
    rw [Expr.phrases_assign, List.forall_mem_cons] at borne
    rw [c.nodeWise.assign, Expr.eval_assign, Expr.eval_assign]
    refine (ih borne.2 same).andThen fun a env env' same => ?_
    -- The name is found in both environments or in neither.
    have found := c.get? borneHere rfl same
    cases read : env.get? x with
    | none =>
      rw [read] at found
      rw [Environment.assign_of_missing read, Environment.assign_of_missing found,
        ← c.nodeWise.assign]
      exact c.alike_missing (.assign x target value) x same
    | some previous =>
      rw [read] at found
      obtain ⟨left, assigned⟩ := Environment.assign_of_get? read a
      obtain ⟨left', assigned'⟩ := Environment.assign_of_get? found a
      rw [assigned, assigned']
      exact Evaluated.alike_ok previous (c.assign borneHere same assigned assigned')

theorem test_alike {condition : Expr} {env env' : Environment}
    (borne : ∀ node ∈ condition.phrases, c.Bears node) (same : c.envs level env env') :
    Evaluated.Alike (c.envs level) c.fault (condition.test env)
      ((c.expr condition).test env') := by
  rw [Expr.test_eq, Expr.test_eq]
  refine (c.eval_alike borne same).andThen fun a env env' same => ?_
  exact Evaluated.alike_blame a.truth (c.refused condition) same

/-- A missing initializer is `nil` on both sides. -/
theorem evalInitial_alike {value : Option Expr} {env env' : Environment}
    (borne : ∀ e ∈ value, ∀ node ∈ e.phrases, c.Bears node) (same : c.envs level env env') :
    Evaluated.Alike (c.envs level) c.fault (Expr.evalInitial value env)
      (Expr.evalInitial (value.map c.expr) env') := by
  cases value with
  | none => exact Evaluated.alike_ok Value.nil same
  | some e => exact c.eval_alike (borne e rfl) same

/-! ## 4. Blocks, conditions and loops -/

/-- From states that are alike the two runs end alike. -/
def Couples (level : Nat) (run run' : State → Ending × State) : Prop :=
  ∀ st st', State.Alike (c.envs level) st st' →
    Ending.Alike (c.envs level) c.fault (run st) (run' st')

variable {c}

/-- Both bodies start with a fresh scope, one level further in. -/
theorem couples_inScope (b b' : Block Stmt)
    (body : c.Couples (level + 1) (Stmt.execAll rounds b.body) (Stmt.execAll rounds b'.body)) :
    c.Couples level (Stmt.inScope b (Stmt.execAll rounds b.body))
      (Stmt.inScope b' (Stmt.execAll rounds b'.body)) := by
  intro st st' same
  obtain ⟨ending, inner, left, ran, popped, run⟩ := Stmt.inScope_execAll rounds b st
  obtain ⟨ending', inner', left', ran', popped', run'⟩ := Stmt.inScope_execAll rounds b' st'
  have inside := body { st with env := st.env.push } { st' with env := st'.env.push }
    ⟨c.push same.env, same.out⟩
  rw [ran, ran'] at inside
  rw [run, run']
  exact ⟨inside.ending, c.pop inside.state.env popped popped', inside.state.out⟩

/-- Conditions that are alike take the same branch. -/
theorem couples_choose {condition : Expr} (borne : ∀ node ∈ condition.phrases, c.Bears node)
    (yes : c.Couples level run run') (other : c.Couples level no no') :
    c.Couples level (Stmt.choose condition run no) (Stmt.choose (c.expr condition) run' no') := by
  intro st st' same
  rw [Stmt.choose_eq, Stmt.choose_eq]
  refine (c.test_alike borne same.env).thenRun same.out fun truth st st' same => ?_
  cases truth with
  | true => exact yes st st' same
  | false => exact other st st' same

/-- Round by round, with one test more and one round less to go. -/
theorem couples_repeatWhile {condition : Expr} (borne : ∀ node ∈ condition.phrases, c.Bears node)
    (body : c.Couples level run run') (rounds : Nat) :
    c.Couples level (Stmt.repeatWhile condition run rounds)
      (Stmt.repeatWhile (c.expr condition) run' rounds) := by
  induction rounds with
  | zero => exact fun st st' same => ⟨rfl, same⟩
  | succ rounds ih =>
    intro st st' same
    rw [Stmt.repeatWhile_succ, Stmt.repeatWhile_succ]
    refine (c.test_alike borne same.env).thenRun same.out fun truth st st' same => ?_
    cases truth with
    | true => exact (body st st' same).thenRun ih
    | false => exact ⟨rfl, same⟩

/-! ## 5. All statements -/

/-- What is borne in the body of a block is borne one scope further inside. -/
theorem declares_body {ss : List Stmt} (borne : ∀ node ∈ Stmt.phrasesAll ss, c.Bears node) :
    ∀ s ∈ ss, ∀ declared ∈ s.declared?, c.Declares (level + 1) declared :=
  fun s mem _ isName => c.inside (borne (.stmt s) (Stmt.mem_phrasesAll mem)) isName

/-- Statements whose nodes the coupling bears run alike, from any level on, as long as it allows
what they declare there. -/
theorem couples_statements (rounds : Nat) :
    (∀ s : Stmt, (∀ node ∈ s.phrases, c.Bears node) →
      ∀ level, (∀ declared ∈ s.declared?, c.Declares level declared) →
        c.Couples level (s.exec rounds) ((s.replace c.expr c.name).exec rounds)) ∧
    ∀ ss : List Stmt, (∀ node ∈ Stmt.phrasesAll ss, c.Bears node) →
      ∀ level, (∀ s ∈ ss, ∀ declared ∈ s.declared?, c.Declares level declared) →
        c.Couples level (Stmt.execAll rounds ss)
          (Stmt.execAll rounds (Stmt.replaceAll c.expr c.name ss)) := by
  -- A block is borne as a statement of its own, and its body one scope further inside.
  have block : ∀ b : Block Stmt, (∀ node ∈ Stmt.phrases (.block b), c.Bears node) →
      ((∀ node ∈ Stmt.phrasesAll b.body, c.Bears node) →
        ∀ level, (∀ s ∈ b.body, ∀ declared ∈ s.declared?, c.Declares level declared) →
          c.Couples level (Stmt.execAll rounds b.body)
            (Stmt.execAll rounds (Stmt.replaceAll c.expr c.name b.body))) →
      ∀ level, c.Couples level (Stmt.inScope b (Stmt.execAll rounds b.body))
        (Stmt.inScope (Stmt.replaceBlock c.expr c.name b)
          (Stmt.execAll rounds (Stmt.replaceBlock c.expr c.name b).body)) := by
    intro b borne body level
    rw [Stmt.phrases_block, List.forall_mem_cons] at borne
    refine couples_inScope b (Stmt.replaceBlock c.expr c.name b) ?_
    rw [Stmt.body_replaceBlock]
    exact body borne.2 (level + 1) (declares_body borne.2)
  refine Stmt.induction ?expr ?print ?declare ?block ?ifThen ?ifElse ?loop ?nil ?cons
  case expr =>
    intro e semicolon borne level _ st st' same
    rw [Stmt.phrases_expr, List.forall_mem_cons] at borne
    rw [Stmt.replace, Stmt.exec_expr, Stmt.exec_expr]
    exact (c.eval_alike borne.2 same.env).thenRun same.out fun a st st' same => ⟨rfl, same⟩
  case print =>
    intro keyword e semicolon borne level _ st st' same
    rw [Stmt.phrases_print, List.forall_mem_cons] at borne
    rw [Stmt.replace, Stmt.exec_print, Stmt.exec_print]
    refine (c.eval_alike borne.2 same.env).thenRun same.out fun a st st' same => ?_
    exact ⟨rfl, same.env, congrArg (· ++ Text.line a.display) same.out⟩
  case declare =>
    intro keyword name target value semicolon borne level declares st st' same
    rw [Stmt.replace, Stmt.exec_declare, Stmt.exec_declare]
    refine (c.evalInitial_alike (fun e isValue => ?_) same.env).thenRun same.out fun a st st' same => ?_
    · obtain rfl := Option.mem_def.mp isValue
      rw [Stmt.phrases_declare, List.forall_mem_cons] at borne
      exact borne.2
    · exact ⟨rfl, c.define a (declares name rfl) same.env, same.out⟩
  case block =>
    intro b body borne level _
    exact block b borne body level
  case ifThen =>
    intro keyword condition b body borne level _
    rw [Stmt.phrases_ifThen, List.forall_mem_cons, List.forall_mem_append] at borne
    obtain ⟨-, test, inside⟩ := borne
    exact couples_choose test (block b inside body level) fun st st' same => ⟨rfl, same⟩
  case ifElse =>
    intro keyword condition b b' body body' borne level _
    rw [Stmt.phrases_ifElse, List.forall_mem_cons, List.forall_mem_append,
      List.forall_mem_append] at borne
    obtain ⟨-, ⟨test, inside⟩, inside'⟩ := borne
    exact couples_choose test (block b inside body level) (block b' inside' body' level)
  case loop =>
    intro keyword condition b body borne level _
    rw [Stmt.phrases_loop, List.forall_mem_cons, List.forall_mem_append] at borne
    obtain ⟨-, test, inside⟩ := borne
    exact couples_repeatWhile test (block b inside body level) rounds
  case nil => exact fun _ level _ st st' same => ⟨rfl, same⟩
  case cons =>
    intro s rest first others borne level declares st st' same
    rw [Stmt.phrasesAll_cons, List.forall_mem_append] at borne
    rw [List.forall_mem_cons] at declares
    rw [Stmt.replaceAll, Stmt.execAll_cons, Stmt.execAll_cons]
    exact (first borne.1 level declares.1 st st' same).thenRun (others borne.2 level declares.2)

/-! ## 6. The same statements -/

/-- With the same tree on both sides only the environments differ. -/
theorem exec_same {s : Stmt} (exprs : c.expr = id) (names : c.name = id)
    (borne : ∀ node ∈ s.phrases, c.Bears node)
    (declares : ∀ x ∈ s.declared?, c.Declares level x) (rounds : Nat) :
    c.Couples level (s.exec rounds) (s.exec rounds) := by
  have couples := (c.couples_statements rounds).1 s borne level declares
  rwa [exprs, names, Stmt.replace_id] at couples

theorem execAll_same {ss : List Stmt} (exprs : c.expr = id) (names : c.name = id)
    (borne : ∀ node ∈ Stmt.phrasesAll ss, c.Bears node)
    (declares : ∀ s ∈ ss, ∀ x ∈ s.declared?, c.Declares level x) (rounds : Nat) :
    c.Couples level (Stmt.execAll rounds ss) (Stmt.execAll rounds ss) := by
  have couples := (c.couples_statements rounds).2 ss borne level declares
  rwa [exprs, names, Stmt.replaceAll_id] at couples

end Coupling

end Scriptlet
