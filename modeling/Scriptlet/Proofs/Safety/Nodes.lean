/-
Scriptlet.Proofs.Safety.Nodes — the phrases of a tree, as an outline lists them.

The depths of an outline are left out here: what the nodes of a tree are does
not depend on the depth that an outline starts from, so the phrases of a tree are
the tree itself and the phrases of its children.
-/
import Scriptlet.Proofs.Statements
import Scriptlet.Tree.Outline

namespace Scriptlet

def Expr.phrases (e : Expr) : List Phrase := (e.outline 0).map Node.phrase

def Stmt.phrases (s : Stmt) : List Phrase := (s.outline 0).map Node.phrase

def Stmt.phrasesAll (ss : List Stmt) : List Phrase := (Stmt.outlineAll 0 ss).map Node.phrase

/-! ## 1. Expressions -/

namespace Expr

/-- The depth at which a listing starts does not change what is listed. -/
@[simp] theorem phrase_outline (e : Expr) (depth : Nat) :
    (e.outline depth).map Node.phrase = e.phrases := by
  suffices shifted : ∀ depth depth',
      (e.outline depth).map Node.phrase = (e.outline depth').map Node.phrase from shifted depth 0
  induction e with
  | literal value token => exact fun _ _ => rfl
  | reference name token => exact fun _ _ => rfl
  | grouping opening inner closing ih =>
    intro depth depth'
    simp only [outline, List.map_cons, ih (depth + 1) (depth' + 1)]
  | unary op sign operand ih =>
    intro depth depth'
    simp only [outline, List.map_cons, ih (depth + 1) (depth' + 1)]
  | binary op left sign right ihLeft ihRight =>
    intro depth depth'
    simp only [outline, List.map_cons, List.map_append, ihLeft (depth + 1) (depth' + 1),
      ihRight (depth + 1) (depth' + 1)]
  | logical op left sign right ihLeft ihRight =>
    intro depth depth'
    simp only [outline, List.map_cons, List.map_append, ihLeft (depth + 1) (depth' + 1),
      ihRight (depth + 1) (depth' + 1)]
  | assign name target value ih =>
    intro depth depth'
    simp only [outline, List.map_cons, ih (depth + 1) (depth' + 1)]

/-- Each node comes before those below it, and these in the order of the script; one equation for
each sort. -/
theorem phrases_grouping (opening : Token) (inner : Expr) (closing : Token) :
    (grouping opening inner closing).phrases =
      .expr (grouping opening inner closing) :: inner.phrases :=
  congrArg (List.cons _) (inner.phrase_outline 1)

theorem phrases_unary (op : UnaryOp) (sign : Token) (operand : Expr) :
    (unary op sign operand).phrases = .expr (unary op sign operand) :: operand.phrases :=
  congrArg (List.cons _) (operand.phrase_outline 1)

theorem phrases_binary (op : BinaryOp) (left : Expr) (sign : Token) (right : Expr) :
    (binary op left sign right).phrases =
      .expr (binary op left sign right) :: (left.phrases ++ right.phrases) := by
  show _ :: (left.outline 1 ++ right.outline 1).map Node.phrase = _
  rw [List.map_append, phrase_outline, phrase_outline]

theorem phrases_logical (op : LogicalOp) (left : Expr) (sign : Token) (right : Expr) :
    (logical op left sign right).phrases =
      .expr (logical op left sign right) :: (left.phrases ++ right.phrases) := by
  show _ :: (left.outline 1 ++ right.outline 1).map Node.phrase = _
  rw [List.map_append, phrase_outline, phrase_outline]

theorem phrases_assign (name : String) (target : Token) (value : Expr) :
    (assign name target value).phrases = .expr (assign name target value) :: value.phrases :=
  congrArg (List.cons _) (value.phrase_outline 1)

theorem mem_phrases (e : Expr) : .expr e ∈ e.phrases := by
  cases e <;> exact List.mem_cons_self

end Expr

/-! ## 2. Statements -/

namespace Stmt

/-- A block in another statement is listed as a statement of its own. -/
theorem blockOutline_eq (depth : Nat) (b : Block Stmt) :
    blockOutline depth b =
      { depth, phrase := .stmt (.block b) } :: outlineAll (depth + 1) b.body := by
  cases b
  rfl

theorem phrase_outlines :
    (∀ s : Stmt, ∀ depth, (s.outline depth).map Node.phrase = s.phrases) ∧
      ∀ ss : List Stmt, ∀ depth, (outlineAll depth ss).map Node.phrase = phrasesAll ss := by
  suffices shifted : (∀ s : Stmt, ∀ depth depth',
      (s.outline depth).map Node.phrase = (s.outline depth').map Node.phrase) ∧
      ∀ ss : List Stmt, ∀ depth depth',
        (outlineAll depth ss).map Node.phrase = (outlineAll depth' ss).map Node.phrase from
    ⟨fun s depth => shifted.1 s depth 0, fun ss depth => shifted.2 ss depth 0⟩
  refine induction ?expr ?print ?declare ?block ?ifThen ?ifElse ?loop ?nil ?cons
  case expr =>
    intro e semicolon depth depth'
    simp only [outline, List.map_cons, Expr.phrase_outline]
  case print =>
    intro keyword e semicolon depth depth'
    simp only [outline, List.map_cons, Expr.phrase_outline]
  case declare =>
    intro keyword name target value semicolon depth depth'
    cases value <;> simp only [outline, List.map_cons, Expr.phrase_outline, List.map_nil]
  case block =>
    intro b body depth depth'
    simp only [outline, List.map_cons, body (depth + 1) (depth' + 1)]
  case ifThen =>
    intro keyword condition thenBlock body depth depth'
    simp only [outline, blockOutline_eq, List.map_cons, List.map_append, Expr.phrase_outline,
      body (depth + 1 + 1) (depth' + 1 + 1)]
  case ifElse =>
    intro keyword condition thenBlock elseBlock body other depth depth'
    simp only [outline, blockOutline_eq, List.map_cons, List.map_append, Expr.phrase_outline,
      body (depth + 1 + 1) (depth' + 1 + 1), other (depth + 1 + 1) (depth' + 1 + 1)]
  case loop =>
    intro keyword condition b body depth depth'
    simp only [outline, blockOutline_eq, List.map_cons, List.map_append, Expr.phrase_outline,
      body (depth + 1 + 1) (depth' + 1 + 1)]
  case nil => exact fun depth depth' => rfl
  case cons =>
    intro s rest first others depth depth'
    simp only [outlineAll, List.map_append, first depth depth', others depth depth']

@[simp] theorem phrase_outlineAll (ss : List Stmt) (depth : Nat) :
    (outlineAll depth ss).map Node.phrase = phrasesAll ss :=
  phrase_outlines.2 ss depth

theorem phrases_expr (e : Expr) (semicolon : Token) :
    phrases (.expr e semicolon) = .stmt (.expr e semicolon) :: e.phrases :=
  congrArg (List.cons _) (e.phrase_outline 1)

theorem phrases_print (keyword : Token) (e : Expr) (semicolon : Token) :
    phrases (.print keyword e semicolon) = .stmt (.print keyword e semicolon) :: e.phrases :=
  congrArg (List.cons _) (e.phrase_outline 1)

/-- A declaration with a value has the nodes of that value below it. -/
theorem phrases_declare (keyword : Token) (name : String) (target : Token) (e : Expr)
    (semicolon : Token) :
    phrases (.declare keyword name target (some e) semicolon) =
      .stmt (.declare keyword name target (some e) semicolon) :: e.phrases :=
  congrArg (List.cons _) (e.phrase_outline 1)

theorem phrases_block (b : Block Stmt) :
    phrases (.block b) = .stmt (.block b) :: phrasesAll b.body :=
  congrArg (List.cons _) (phrase_outlineAll b.body 1)

theorem phrase_blockOutline (depth : Nat) (b : Block Stmt) :
    (blockOutline depth b).map Node.phrase = phrases (.block b) := by
  rw [blockOutline_eq, List.map_cons, phrase_outlineAll, phrases_block]

theorem phrases_ifThen (keyword : Token) (condition : Expr) (b : Block Stmt) :
    phrases (.ifThen keyword condition b) =
      .stmt (.ifThen keyword condition b) :: (condition.phrases ++ phrases (.block b)) := by
  show _ :: (condition.outline 1 ++ blockOutline 1 b).map Node.phrase = _
  rw [List.map_append, Expr.phrase_outline, phrase_blockOutline]

theorem phrases_ifElse (keyword : Token) (condition : Expr) (b b' : Block Stmt) :
    phrases (.ifElse keyword condition b b') =
      .stmt (.ifElse keyword condition b b') ::
        (condition.phrases ++ phrases (.block b) ++ phrases (.block b')) := by
  show _ :: (condition.outline 1 ++ blockOutline 1 b ++ blockOutline 1 b').map Node.phrase = _
  rw [List.map_append, List.map_append, Expr.phrase_outline, phrase_blockOutline,
    phrase_blockOutline]

theorem phrases_loop (keyword : Token) (condition : Expr) (b : Block Stmt) :
    phrases (.loop keyword condition b) =
      .stmt (.loop keyword condition b) :: (condition.phrases ++ phrases (.block b)) := by
  show _ :: (condition.outline 1 ++ blockOutline 1 b).map Node.phrase = _
  rw [List.map_append, Expr.phrase_outline, phrase_blockOutline]

theorem phrasesAll_cons (s : Stmt) (rest : List Stmt) :
    phrasesAll (s :: rest) = s.phrases ++ phrasesAll rest :=
  List.map_append

theorem mem_phrases (s : Stmt) : .stmt s ∈ s.phrases := by
  cases s with
  | declare keyword name target value semicolon => cases value <;> exact List.mem_cons_self
  | _ => exact List.mem_cons_self

/-- What is in a statement of the list is in the list. -/
theorem phrases_subset {s : Stmt} {ss : List Stmt} (mem : s ∈ ss) : s.phrases ⊆ phrasesAll ss := by
  induction ss with
  | nil => cases mem
  | cons first rest ih =>
    rw [phrasesAll_cons]
    obtain rfl | later := List.mem_cons.mp mem
    · exact List.subset_append_left _ _
    · exact List.subset_append_of_subset_right _ (ih later)

theorem mem_phrasesAll {s : Stmt} {ss : List Stmt} (mem : s ∈ ss) : .stmt s ∈ phrasesAll ss :=
  phrases_subset mem s.mem_phrases

end Stmt

end Scriptlet
