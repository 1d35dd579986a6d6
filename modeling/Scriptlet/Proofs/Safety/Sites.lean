/-
Scriptlet.Proofs.Safety.Sites — the node that a fault blames.

A fault of a run blames an expression of the script, and one that its cause is
about: the operator that refused its operands, the expression that a truth
value was wanted of, or the variable that has no binding. There is no fault but
these, since a run never leaves the global scope.
-/
import Scriptlet.Proofs.Faults
import Scriptlet.Proofs.Safety.Nodes

namespace Scriptlet

/-! ## 1. Causes and nodes -/

/-- The expression of a node that has to have a truth value: the condition of a
statement, or the left operand of `and` and `or`. -/
def Phrase.tested? : Phrase → Option Expr
  | .expr (.logical _ left _ _) => some left
  | .stmt (.ifThen _ condition _) => some condition
  | .stmt (.ifElse _ condition _ _) => some condition
  | .stmt (.loop _ condition _) => some condition
  | _ => none

/-- The expression is one that a refusal can be about, in a tree with these nodes. -/
def TypeError.Fits (nodes : List Phrase) (site : Expr) : TypeError → Prop
  | .addends _ _ => ∃ left sign right, site = .binary .add left sign right
  | .operands op _ _ => ∃ left sign right, site = .binary (.arithmetic op) left sign right
  | .unordered relation _ _ => ∃ left sign right, site = .binary (.compare relation) left sign right
  | .negated _ => ∃ sign operand, site = .unary .negate sign operand
  | .inverted _ => ∃ sign operand, site = .unary .invert sign operand
  | .condition _ => ∃ node ∈ nodes, node.tested? = some site

/-- The expression is one that a cause can be about, in a tree with these nodes. -/
def Cause.Fits (nodes : List Phrase) (site : Expr) : Cause → Prop
  | .type refusal => refusal.Fits nodes site
  | .undefined name =>
    (∃ token, site = .reference name token) ∨ ∃ target value, site = .assign name target value
  | .globalScope => False

/-- The fault blames an expression among these nodes, and one that its cause can be about. -/
def Fault.Fits (nodes : List Phrase) (fault : Fault) : Prop :=
  ∃ site, fault.site = .expr site ∧ .expr site ∈ nodes ∧ fault.cause.Fits nodes site

/-- In a larger tree a cause can be about no less. -/
theorem Cause.Fits.mono {nodes more : List Phrase} (sub : nodes ⊆ more) {site : Expr}
    {cause : Cause} (fits : cause.Fits nodes site) : cause.Fits more site := by
  cases cause with
  | type refusal =>
    cases refusal with
    | condition kind =>
      obtain ⟨node, mem, tested⟩ := fits
      exact ⟨node, sub mem, tested⟩
    | _ => exact fits
  | undefined name => exact fits
  | globalScope => exact fits

theorem Fault.Fits.mono {nodes more : List Phrase} (sub : nodes ⊆ more) :
    ∀ fault : Fault, fault.Fits nodes → fault.Fits more := by
  rintro fault ⟨site, blamed, mem, fits⟩
  exact ⟨site, blamed, sub mem, fits.mono sub⟩

/-! ## 2. Refusals -/

section

variable {nodes : List Phrase} {refusal : TypeError}

/-- An operator before its operand refuses what its message says. -/
theorem UnaryOp.fits_of_refusal {op : UnaryOp} {a : Value} (refused : op.apply a = .error refusal)
    (sign : Token) (operand : Expr) : refusal.Fits nodes (.unary op sign operand) := by
  cases op with
  | negate => cases a <;> cases refused <;> exact ⟨sign, operand, rfl⟩
  | invert => cases a <;> cases refused <;> exact ⟨sign, operand, rfl⟩

/-- Relations refuse one thing only: two values of different kinds. -/
theorem Value.compare_eq_error {relation : Relation} {a b : Value}
    (refused : Value.compare relation a b = .error refusal) :
    refusal = .unordered relation a.kind b.kind := by
  cases a <;> cases b <;> cases refused <;> rfl

/-- An operator between operands is to blame itself, with the kinds of both. -/
theorem BinaryOp.fits_of_refusal {op : BinaryOp} {a b : Value}
    (refused : op.apply a b = .error refusal) (left : Expr) (sign : Token) (right : Expr) :
    refusal.Fits nodes (.binary op left sign right) := by
  cases op with
  | add => cases a <;> cases b <;> cases refused <;> exact ⟨left, sign, right, rfl⟩
  | arithmetic op => cases a <;> cases b <;> cases refused <;> exact ⟨left, sign, right, rfl⟩
  | equal => cases refused
  | unequal => cases refused
  | compare relation =>
    cases compared : Value.compare relation a b with
    | ok answer =>
      rw [apply, compared] at refused
      cases refused
    | error other =>
      rw [apply, compared] at refused
      cases refused
      rw [Value.compare_eq_error compared]
      exact ⟨left, sign, right, rfl⟩

/-- A condition that is no boolean is blamed as the expression that was tested. -/
theorem Value.fits_of_truth {a : Value} (refused : a.truth = .error refusal) {site : Expr}
    {node : Phrase} (mem : node ∈ nodes) (tested : node.tested? = some site) :
    refusal.Fits nodes site := by
  cases a <;> cases refused <;> exact ⟨node, mem, tested⟩

end

/-! ## 3. Expressions -/

namespace Expr

open Evaluated (FailsOnlyBy failsOnlyBy_ok failsOnlyBy_error failsOnlyBy_blame)

/-- The fault of an expression is about one of its nodes, constructor by constructor. -/
theorem eval_fits (e : Expr) (env : Environment) :
    FailsOnlyBy (Fault.Fits e.phrases) (e.eval env) := by
  induction e generalizing env with
  | literal value token => exact failsOnlyBy_ok value env
  | reference name token =>
    rw [eval]
    cases env.get? name with
    | some value => exact failsOnlyBy_ok value env
    | none =>
      exact failsOnlyBy_error env ⟨_, rfl, mem_phrases _, Or.inl ⟨token, rfl⟩⟩
  | grouping opening inner closing ih =>
    rw [eval_grouping, phrases_grouping]
    exact (ih env).mono (Fault.Fits.mono (List.subset_cons_self _ _))
  | unary op sign operand ih =>
    rw [eval_unary]
    refine FailsOnlyBy.andThen ?_ fun a env _ => failsOnlyBy_blame env fun refusal refused => ?_
    · rw [phrases_unary]
      exact (ih env).mono (Fault.Fits.mono (List.subset_cons_self _ _))
    · exact ⟨_, rfl, mem_phrases _, op.fits_of_refusal refused sign operand⟩
  | binary op left sign right ihLeft ihRight =>
    have sub : left.phrases ++ right.phrases ⊆ (binary op left sign right).phrases := by
      rw [phrases_binary]
      exact List.subset_cons_self _ _
    obtain ⟨subLeft, subRight⟩ := List.append_subset.mp sub
    rw [eval_binary]
    refine ((ihLeft env).mono (Fault.Fits.mono subLeft)).andThen fun a env _ => ?_
    refine ((ihRight env).mono (Fault.Fits.mono subRight)).andThen fun b env _ => ?_
    refine failsOnlyBy_blame env fun refusal refused => ?_
    exact ⟨_, rfl, mem_phrases _, op.fits_of_refusal refused left sign right⟩
  | logical op left sign right ihLeft ihRight =>
    have sub : left.phrases ++ right.phrases ⊆ (logical op left sign right).phrases := by
      rw [phrases_logical]
      exact List.subset_cons_self _ _
    obtain ⟨subLeft, subRight⟩ := List.append_subset.mp sub
    rw [eval_logical]
    refine ((ihLeft env).mono (Fault.Fits.mono subLeft)).andThen fun a env _ => ?_
    refine (failsOnlyBy_blame env fun refusal refused => ?_).andThen fun truth env _ => ?_
    · exact ⟨left, rfl, subLeft left.mem_phrases,
        Value.fits_of_truth refused (mem_phrases (logical op left sign right)) rfl⟩
    · split
      · exact failsOnlyBy_ok a env
      · exact (ihRight env).mono (Fault.Fits.mono subRight)
  | assign name target value ih =>
    rw [eval_assign]
    refine FailsOnlyBy.andThen ?_ fun a env _ => ?_
    · rw [phrases_assign]
      exact (ih env).mono (Fault.Fits.mono (List.subset_cons_self _ _))
    · cases assigned : env.assign name a with
      | ok answer => exact failsOnlyBy_ok answer.1 answer.2
      | error cause =>
        obtain rfl := Environment.assign_error assigned
        exact failsOnlyBy_error env ⟨_, rfl, mem_phrases _, Or.inr ⟨target, value, rfl⟩⟩

theorem test_fits (condition : Expr) (env : Environment) {nodes : List Phrase} {node : Phrase}
    (sub : condition.phrases ⊆ nodes) (mem : node ∈ nodes)
    (tested : node.tested? = some condition) :
    FailsOnlyBy (Fault.Fits nodes) (condition.test env) := by
  rw [test_eq]
  refine ((condition.eval_fits env).mono (Fault.Fits.mono sub)).andThen fun a env _ => ?_
  refine failsOnlyBy_blame env fun refusal refused => ?_
  exact ⟨condition, rfl, sub condition.mem_phrases, Value.fits_of_truth refused mem tested⟩

end Expr

/-! ## 4. Statements -/

namespace Stmt

open Ending (FailsOnlyBy failsOnlyBy_done)

/-- The faults of a block are those of its body. -/
theorem fits_block {rounds : Nat} {b : Block Stmt} {nodes : List Phrase}
    (sub : phrases (.block b) ⊆ nodes)
    (body : ∀ st : State, FailsOnlyBy (Fault.Fits (phrasesAll b.body)) (execAll rounds b.body st))
    (st : State) : FailsOnlyBy (Fault.Fits nodes) (inScope b (execAll rounds b.body) st) := by
  rw [phrases_block] at sub
  refine failsOnlyBy_block rounds b st fun st' _ => ?_
  exact (body st').mono (Fault.Fits.mono (List.subset_of_cons_subset sub))

/-- By induction over statements and lists of them: a fault is about a node below. -/
theorem fits_of_run (rounds : Nat) :
    (∀ s : Stmt, ∀ st : State, FailsOnlyBy (Fault.Fits s.phrases) (s.exec rounds st)) ∧
      ∀ ss : List Stmt, ∀ st : State,
        FailsOnlyBy (Fault.Fits (phrasesAll ss)) (execAll rounds ss st) := by
  refine induction ?expr ?print ?declare ?block ?ifThen ?ifElse ?loop ?nil ?cons
  case expr =>
    intro e semicolon st
    rw [exec_expr, phrases_expr]
    refine Evaluated.FailsOnlyBy.thenRun ?_ fun a st _ => failsOnlyBy_done st
    exact (e.eval_fits st.env).mono (Fault.Fits.mono (List.subset_cons_self _ _))
  case print =>
    intro keyword e semicolon st
    rw [exec_print, phrases_print]
    refine Evaluated.FailsOnlyBy.thenRun ?_ fun a st _ => failsOnlyBy_done _
    exact (e.eval_fits st.env).mono (Fault.Fits.mono (List.subset_cons_self _ _))
  case declare =>
    intro keyword name target value semicolon st
    rw [exec_declare]
    cases value with
    | none => exact failsOnlyBy_done _
    | some e =>
      rw [phrases_declare]
      refine Evaluated.FailsOnlyBy.thenRun ?_ fun a st _ => failsOnlyBy_done _
      exact (e.eval_fits st.env).mono (Fault.Fits.mono (List.subset_cons_self _ _))
  case block =>
    intro b body st
    rw [exec_block]
    exact fits_block (List.Subset.refl _) body st
  case ifThen =>
    intro keyword condition thenBlock body st
    have sub := List.subset_cons_self (.stmt (.ifThen keyword condition thenBlock))
      (condition.phrases ++ phrases (.block thenBlock))
    obtain ⟨subCondition, subThen⟩ := List.append_subset.mp sub
    rw [exec_ifThen, phrases_ifThen]
    refine failsOnlyBy_choose ?_ (fun st' _ => ?_) (fun st' _ => failsOnlyBy_done st')
    · exact condition.test_fits st.env subCondition List.mem_cons_self rfl
    · exact fits_block subThen body st'
  case ifElse =>
    intro keyword condition thenBlock elseBlock body other st
    have sub := List.subset_cons_self (.stmt (.ifElse keyword condition thenBlock elseBlock))
      (condition.phrases ++ phrases (.block thenBlock) ++ phrases (.block elseBlock))
    obtain ⟨subBoth, subElse⟩ := List.append_subset.mp sub
    obtain ⟨subCondition, subThen⟩ := List.append_subset.mp subBoth
    rw [exec_ifElse, phrases_ifElse]
    refine failsOnlyBy_choose ?_ (fun st' _ => ?_) (fun st' _ => ?_)
    · exact condition.test_fits st.env subCondition List.mem_cons_self rfl
    · exact fits_block subThen body st'
    · exact fits_block subElse other st'
  case loop =>
    intro keyword condition b body st
    have sub := List.subset_cons_self (.stmt (.loop keyword condition b))
      (condition.phrases ++ phrases (.block b))
    obtain ⟨subCondition, subBody⟩ := List.append_subset.mp sub
    rw [exec_loop, phrases_loop]
    refine failsOnlyBy_repeatWhile (keepsNames_block rounds b) (fun env _ => ?_)
      (fun st' _ => ?_) rounds
    · exact condition.test_fits env subCondition List.mem_cons_self rfl
    · exact fits_block subBody body st'
  case nil => exact fun st => failsOnlyBy_done st
  case cons =>
    intro s rest first others st
    rw [execAll_cons, phrasesAll_cons]
    refine FailsOnlyBy.thenRun ?_ fun _ => ?_
    · exact (first st).mono (Fault.Fits.mono (List.subset_append_left _ _))
    · exact (others _).mono (Fault.Fits.mono (List.subset_append_right _ _))

theorem execAll_fits (rounds : Nat) (ss : List Stmt) (st : State) :
    FailsOnlyBy (Fault.Fits (phrasesAll ss)) (execAll rounds ss st) :=
  (fits_of_run rounds).2 ss st

end Stmt

end Scriptlet
