/-
Scriptlet.Proofs.Connectives — the words `and` and `or`.

A connective tests its left operand as a condition does; then it is over, with the truth value
it found, or it has its right operand for its value (`Expr.eval_logical_test`). So as a
statement it is an `if`. There the right operand stands in a block, one scope further inside,
but nothing is declared into that scope.

Operands joined by the same word make a tree that is nested to the left, and each of its nodes
tests all of the tree left of it. From left to right it reads as one test after the other:
`LogicalOp.Reaches` follows the operands for as long as each lets the next one be evaluated,
and the tree up to the operand reached has that operand's value, which was not tested yet.
The tree that follows is what tests it, and from there on nothing is evaluated any more
unless it passes.
-/
import Scriptlet.Proofs.Grammar.Derivation
import Scriptlet.Proofs.Scope.Transparent

namespace Scriptlet

theorem Value.truth_of_ne {a : Value} (noBoolean : a.kind ≠ .boolean) :
    a.truth = .error (.condition a.kind) := by
  cases a with
  | boolean b => exact absurd rfl noBoolean
  | _ => rfl

namespace Expr

/-! ## 1. Tests -/

variable {op : LogicalOp} {e left : Expr} {env env' : Environment}

theorem test_of_boolean {truth : Bool} (evaluated : e.eval env = (.ok (.boolean truth), env')) :
    e.test env = (.ok truth, env') := by
  rw [test, evaluated]
  rfl

/-- The condition itself is blamed, at the place where it stands. -/
theorem test_of_ne {a : Value} (evaluated : e.eval env = (.ok a, env'))
    (noBoolean : a.kind ≠ .boolean) :
    e.test env = (.error { cause := .type (.condition a.kind), site := .expr e }, env') := by
  rw [test, evaluated]
  simp only [Value.truth_of_ne noBoolean, blame]

theorem test_of_error {fault : Fault} (failed : e.eval env = (.error fault, env')) :
    e.test env = (.error fault, env') := by
  rw [test, failed]

/-- A connective tests its left operand, and goes on unless that settles it. -/
theorem eval_logical_test (op : LogicalOp) (left : Expr) (sign : Token) (right : Expr)
    (env : Environment) :
    (logical op left sign right).eval env =
      Evaluated.andThen (left.test env) fun truth env =>
        if truth = op.settledBy then (.ok (.boolean truth), env) else right.eval env := by
  rw [eval_logical, test_eq]
  rcases left.eval env with ⟨fault | a, env⟩
  · rfl
  · cases a <;> rfl

end Expr

/-! ## 2. Connectives as conditions -/

/-- Runs after one evaluation and then another may be read as one run after the first. -/
theorem Evaluated.thenRun_andThen {α β : Type} (r : Evaluated α) (st : State)
    (next : α → Environment → Evaluated β) (run : β → State → Ending × State) :
    Evaluated.thenRun (r.andThen next) st run =
      Evaluated.thenRun r st fun a st => Evaluated.thenRun (next a st.env) st run := by
  rcases r with ⟨fault | a, env⟩ <;> rfl

namespace Stmt

variable (rounds : Nat) (st : State)

/-- As a statement, `a and b` or `a or b` is a choice on `a` between `b` and nothing. -/
theorem exec_logical (op : LogicalOp) (left : Expr) (sign : Token) (right : Expr)
    (semicolon semicolon' : Token) :
    exec rounds (.expr (.logical op left sign right) semicolon) st =
      Evaluated.thenRun (left.test st.env) st fun truth st =>
        if truth = op.settledBy then (.done, st) else exec rounds (.expr right semicolon') st := by
  rw [exec_expr, Expr.eval_logical_test, Evaluated.thenRun_andThen]
  congr
  funext truth st
  split
  · rfl
  · exact (exec_expr rounds st right semicolon').symm

variable {b : Block Stmt}

/-- An empty block leaves no trace: its scope is gone again. -/
theorem inScope_of_empty (nothing : b.body = []) :
    inScope b (execAll rounds b.body) st = (.done, st) := by
  rw [inScope_of_plain (by simp [nothing]), nothing]
  rfl

/-- A block of one expression is that expression, whose scope has nothing in it to find. -/
theorem inScope_of_expr {e : Expr} {semicolon : Token} (only : b.body = [.expr e semicolon]) :
    inScope b (execAll rounds b.body) st = exec rounds (.expr e semicolon) st := by
  rw [inScope_of_plain (by simp [only, declared?]), only, execAll_cons]
  rcases exec rounds (.expr e semicolon) st with ⟨ending, st⟩
  cases ending <;> rfl

/-- `left or right;` does what `if (left) {} else { right; }` does, and `left and right;` what
`if (left) { right; }` does: they end in the same way, by the same fault if there is one, print
the same text and leave the same variables. If the left operand has a value that is no truth
value, each of the four refuses it in the same words, blames the left operand, and leaves what
the left operand has left. -/
theorem connectives_as_conditions (left right : Expr) (sign semicolon semicolon' keyword : Token)
    (b b' : Block Stmt) (nothing : b.body = []) (only : b'.body = [.expr right semicolon']) :
    let either := Stmt.expr (.logical .either left sign right) semicolon
    let both := Stmt.expr (.logical .both left sign right) semicolon
    exec rounds either st = exec rounds (.ifElse keyword left b b') st ∧
      exec rounds both st = exec rounds (.ifThen keyword left b') st ∧
      ∀ a env, left.eval st.env = (.ok a, env) → a.kind ≠ .boolean →
        ∀ s ∈ [either, .ifElse keyword left b b', both, .ifThen keyword left b'],
          exec rounds s st =
            (.failed { cause := .type (.condition a.kind), site := .expr left },
              { st with env }) := by
  intro either both
  have sameEither : exec rounds either st = exec rounds (.ifElse keyword left b b') st := by
    rw [exec_logical rounds st .either left sign right semicolon semicolon', exec_ifElse, choose_eq]
    congr
    funext truth st
    rw [inScope_of_empty rounds st nothing, inScope_of_expr rounds st only]
    cases truth <;> rfl
  have sameBoth : exec rounds both st = exec rounds (.ifThen keyword left b') st := by
    rw [exec_logical rounds st .both left sign right semicolon semicolon', exec_ifThen, choose_eq]
    congr
    funext truth st
    rw [inScope_of_expr rounds st only]
    cases truth <;> rfl
  refine ⟨sameEither, sameBoth, fun a env evaluated noBoolean => ?_⟩
  have refused : ∀ op, exec rounds (.expr (.logical op left sign right) semicolon) st =
      (.failed { cause := .type (.condition a.kind), site := .expr left }, { st with env }) := by
    intro op
    rw [exec_logical rounds st op left sign right semicolon semicolon',
      Expr.test_of_ne evaluated noBoolean]
    rfl
  intro s mem
  simp only [List.mem_cons, List.not_mem_nil, or_false] at mem
  obtain rfl | rfl | rfl | rfl := mem
  · exact refused .either
  · exact sameEither.symm.trans (refused .either)
  · exact refused .both
  · exact sameBoth.symm.trans (refused .both)

/-- `x and (y = !y);` and its `if` do the assignment when `x` is true. When it is `nil`, it is
refused as a condition, also of the `if` that goes with `or`. -/
theorem connectives_as_conditions_flip :
    let token : Token := { kind := .finish, lexeme := "", line := 1, start := 0 }
    let x : Expr := .reference "x" token
    let flip : Expr := .assign "y" token (.unary .invert token (.reference "y" token))
    let b : Block Stmt := { opening := token, body := [], closing := token }
    let b' : Block Stmt := { opening := token, body := [.expr flip token], closing := token }
    let env := Environment.empty.define "y" (.boolean true)
    let st : State := { env := env.define "x" (.boolean true), out := "" }
    let st' : State := { env := env.define "x" .nil, out := "" }
    let ran := exec 0 (.ifThen token x b') st
    (b.body = [] ∧ b'.body = [.expr flip token]) ∧
      exec 0 (.expr (.logical .both x token flip) token) st = ran ∧
      ran.2.env.get? "y" = some (.boolean false) ∧
      x.eval st'.env = (.ok .nil, st'.env) ∧ Value.kind .nil ≠ .boolean ∧
      exec 0 (.ifElse token x b b') st' =
        (.failed { cause := .type (.condition .nil), site := .expr x }, st') := by
  intro token x flip b b' env st st' ran
  have evaluated : x.eval st'.env = (.ok .nil, st'.env) := rfl
  have noBoolean : Value.kind .nil ≠ .boolean := by decide
  obtain ⟨-, same, -⟩ := connectives_as_conditions 0 st x flip token token token token b b' rfl rfl
  obtain ⟨-, -, refused⟩ :=
    connectives_as_conditions 0 st' x flip token token token token b b' rfl rfl
  have second :=
    refused .nil st'.env evaluated noBoolean _ (List.mem_cons_of_mem _ List.mem_cons_self)
  exact ⟨⟨rfl, rfl⟩, same, rfl, evaluated, noBoolean, second⟩

end Stmt

/-! ## 3. Chains -/

def Expr.chained (op : LogicalOp) (first : Expr) (others : List (Token × Expr)) : Expr :=
  Grammar.foldOperations first (others.map fun other => (.logical op, other.1, other.2))

/-- The evaluation of a chain from `env` comes to the last operand of a part of it, and
evaluates it in the given environment. The operands before it were evaluated one after the
other, each in the environment that the one before it left, and none of them settled the
chain. -/
inductive LogicalOp.Reaches (op : LogicalOp) (first : Expr) (env : Environment) :
    List (Token × Expr) → Expr → Environment → Prop
  | first : Reaches op first env [] first env
  | next {before : List (Token × Expr)} {e : Expr} {mid left : Environment} (sign : Token)
      (following : Expr) (reached : Reaches op first env before e mid)
      (passed : e.eval mid = (.ok (.boolean !op.settledBy), left)) :
      Reaches op first env (before ++ [(sign, following)]) following left

namespace Expr

variable {op : LogicalOp} {first e : Expr} {others before : List (Token × Expr)}
  {env env' mid : Environment}

/-- Chains nest to the left, so a longer one starts with a shorter one. -/
theorem chained_append (op : LogicalOp) (first : Expr) (before after : List (Token × Expr)) :
    chained op first (before ++ after) = chained op (chained op first before) after := by
  simp [chained, Grammar.foldOperations]

/-- The tree up to the operand that is reached has the value of that operand. -/
theorem eval_of_reaches (reached : op.Reaches first env others e mid) :
    (chained op first others).eval env = e.eval mid := by
  induction reached with
  | first => rfl
  | next sign following reached passed ih =>
    rw [chained_append]
    show (logical op _ sign following).eval env = _
    rw [eval_logical_test, test_of_boolean (ih.trans passed), Evaluated.andThen_ok,
      if_neg (Bool.not_ne_self _)]

/-- The first operand fails, and so does the chain, with none of the others evaluated. -/
theorem eval_chained_of_error {fault : Fault} (failed : first.eval env = (.error fault, env'))
    (others : List (Token × Expr)) : (chained op first others).eval env = (.error fault, env') := by
  induction others generalizing first with
  | nil => exact failed
  | cons other rest ih =>
    refine @ih (.logical op first other.1 other.2) ?_
    rw [eval_logical_test, test_of_error failed, Evaluated.andThen_error]

/-- The first operand settles the matter, and none of the others is evaluated. -/
theorem eval_chained_of_settled
    (settled : first.eval env = (.ok (.boolean op.settledBy), env'))
    (others : List (Token × Expr)) :
    (chained op first others).eval env = (.ok (.boolean op.settledBy), env') := by
  induction others generalizing first with
  | nil => exact settled
  | cons other rest ih =>
    refine @ih (.logical op first other.1 other.2) ?_
    rw [eval_logical_test, test_of_boolean settled, Evaluated.andThen_ok, if_pos rfl]

/-- The first operand is no boolean; since another operand follows it, this is found out. -/
theorem eval_chained_of_ne {a : Value} (evaluated : first.eval env = (.ok a, env'))
    (noBoolean : a.kind ≠ .boolean) (sign : Token) (next : Expr) (rest : List (Token × Expr)) :
    (chained op first ((sign, next) :: rest)).eval env =
      (.error { cause := .type (.condition a.kind), site := .expr first }, env') := by
  refine @eval_chained_of_error op (.logical op first sign next) _ _ _ ?_ rest
  rw [eval_logical_test, test_of_ne evaluated noBoolean, Evaluated.andThen_error]

/-- The evaluation comes to an operand that does not let it go on, or to the last one. -/
theorem exists_reaches (op : LogicalOp) (first : Expr) (others : List (Token × Expr))
    (env : Environment) :
    ∃ before after e mid, others = before ++ after ∧ op.Reaches first env before e mid ∧
      (after = [] ∨ ∀ left, e.eval mid ≠ (.ok (.boolean !op.settledBy), left)) := by
  induction others using List.reverseRecOn with
  | nil => exact ⟨[], [], first, env, rfl, .first, .inl rfl⟩
  | append_singleton others last ih =>
    obtain ⟨before, after, e, mid, rfl, reached, stopped⟩ := ih
    by_cases passes : after = [] ∧ ∃ left, e.eval mid = (.ok (.boolean !op.settledBy), left)
    · obtain ⟨rfl, left, passed⟩ := passes
      rw [List.append_nil]
      exact ⟨_, [], _, left, (List.append_nil _).symm, .next last.1 last.2 reached passed, .inl rfl⟩
    · refine ⟨before, after ++ [last], e, mid, List.append_assoc .., reached, .inr ?_⟩
      intro left passed
      rcases stopped with rfl | stopped
      · exact passes ⟨rfl, left, passed⟩
      · exact stopped left passed

end Expr

/-- A chain of operands joined by `or` is evaluated from left to right. It comes to an operand
when those before it, each evaluated in the environment that the one before it left, are all
false. There, if it is not the last one, the chain is over with the value true if that is what
the operand is; a value that is no truth value is refused, and the tree of the operands up
to this one is to blame; a fault in it is the fault of the chain. Whatever the operands after
it are, none of them is evaluated. If it is the last one, the chain has its value, of whatever
kind, or its fault. There is always an operand that the evaluation comes to and does not go
on from. With true and false exchanged, this holds of `and`. -/
theorem LogicalOp.chain_short_circuits (op : LogicalOp) (first : Expr)
    (others : List (Token × Expr)) (env : Environment) :
    (∀ before sign next after e mid left, others = before ++ (sign, next) :: after →
      op.Reaches first env before e mid →
        (e.eval mid = (.ok (.boolean op.settledBy), left) →
          (Expr.chained op first others).eval env = (.ok (.boolean op.settledBy), left)) ∧
        (∀ a, e.eval mid = (.ok a, left) → a.kind ≠ .boolean →
          (Expr.chained op first others).eval env =
            (.error
              { cause := .type (.condition a.kind)
                site := .expr (Expr.chained op first before) }, left)) ∧
        ∀ fault, e.eval mid = (.error fault, left) →
          (Expr.chained op first others).eval env = (.error fault, left)) ∧
      (∀ e mid, op.Reaches first env others e mid →
        (Expr.chained op first others).eval env = e.eval mid) ∧
      ∃ before after e mid, others = before ++ after ∧ op.Reaches first env before e mid ∧
        (after = [] ∨ ∀ left, e.eval mid ≠ (.ok (.boolean !op.settledBy), left)) := by
  refine ⟨?_, fun e mid => Expr.eval_of_reaches, Expr.exists_reaches op first others env⟩
  rintro before sign next after e mid left rfl reached
  rw [← Expr.eval_of_reaches reached, Expr.chained_append]
  refine ⟨fun settled => ?_, fun a evaluated noBoolean => ?_, fun fault failed => ?_⟩
  · exact Expr.eval_chained_of_settled settled _
  · exact Expr.eval_chained_of_ne evaluated noBoolean sign next after
  · exact Expr.eval_chained_of_error failed _

/-- `x or (x = true) or x or y` is true without a `y`, since the second operand is false for the
value that it replaces, and the third one reads the new value. `x and nil and y` is refused
for the value of `x and nil`. -/
theorem LogicalOp.chain_short_circuits_replacing :
    let token : Token := { kind := .finish, lexeme := "", line := 1, start := 0 }
    let x : Expr := .reference "x" token
    let y : Expr := .reference "y" token
    let replace : Expr :=
      .grouping token (.assign "x" token (.literal (.boolean true) token)) token
    let nothing : Expr := .literal .nil token
    let env := Environment.empty.define "x" (.boolean false)
    let env' := Environment.empty.define "x" (.boolean true)
    (LogicalOp.either.Reaches x env [(token, replace), (token, x)] x env' ∧
        x.eval env' = (.ok (.boolean true), env') ∧
        (Expr.chained .either x [(token, replace), (token, x), (token, y)]).eval env =
          (.ok (.boolean true), env')) ∧
      LogicalOp.both.Reaches x env' [(token, nothing)] nothing env' ∧
        nothing.eval env' = (.ok .nil, env') ∧ Value.kind .nil ≠ .boolean ∧
        (Expr.chained .both x [(token, nothing), (token, y)]).eval env' =
          (.error
            { cause := .type (.condition .nil)
              site := .expr (.logical .both x token nothing) }, env') := by
  intro token x y replace nothing env env'
  have replaced : replace.eval env = (.ok (.boolean false), env') := rfl
  have reached : LogicalOp.either.Reaches x env [(token, replace), (token, x)] x env' :=
    .next token x (.next token replace .first rfl) replaced
  have settled : x.eval env' = (.ok (.boolean true), env') := rfl
  have reached' : LogicalOp.both.Reaches x env' [(token, nothing)] nothing env' :=
    .next token nothing .first rfl
  have evaluated : nothing.eval env' = (.ok .nil, env') := rfl
  have noBoolean : Value.kind .nil ≠ .boolean := by decide
  obtain ⟨operands, -, -⟩ := LogicalOp.chain_short_circuits .either x
    [(token, replace), (token, x), (token, y)] env
  obtain ⟨operands', -, -⟩ :=
    LogicalOp.chain_short_circuits .both x [(token, nothing), (token, y)] env'
  have ended :=
    (operands [(token, replace), (token, x)] token y [] x env' env' rfl reached).1 settled
  have refused := (operands' [(token, nothing)] token y [] nothing env' env' rfl reached').2.1 .nil
    evaluated noBoolean
  exact ⟨⟨reached, settled, ended⟩, reached', evaluated, noBoolean, refused⟩

end Scriptlet
