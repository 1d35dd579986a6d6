/-
Scriptlet.Proofs.Span.Children — the nodes right below a node, and where their
tokens are.

The nodes of a tree are its root and the nodes of the root's children, so what is
to be said of all nodes is proved from a node to its children (`Phrase.induction`).
The tokens of a node that was read hold those of its children, one after the other
(`Phrase.Contained`). So each node of a tree is read from a stretch of the tokens
that the tree was read from.
-/
import Mathlib.Data.List.Basic
import Scriptlet.Proofs.Grammar.Inversion
import Scriptlet.Proofs.Safety.Nodes

namespace Scriptlet

namespace Phrase

/-! ## 1. Children -/

def children : Phrase → List Phrase
  | .expr (.literal _ _) => []
  | .expr (.reference _ _) => []
  | .expr (.grouping _ inner _) => [.expr inner]
  | .expr (.unary _ _ operand) => [.expr operand]
  | .expr (.binary _ left _ right) => [.expr left, .expr right]
  | .expr (.logical _ left _ right) => [.expr left, .expr right]
  | .expr (.assign _ _ value) => [.expr value]
  | .stmt (.expr e _) => [.expr e]
  | .stmt (.print _ e _) => [.expr e]
  | .stmt (.declare _ _ _ none _) => []
  | .stmt (.declare _ _ _ (some value) _) => [.expr value]
  | .stmt (.block b) => b.body.map .stmt
  | .stmt (.ifThen _ condition thenBlock) => [.expr condition, .stmt (.block thenBlock)]
  | .stmt (.ifElse _ condition thenBlock elseBlock) =>
    [.expr condition, .stmt (.block thenBlock), .stmt (.block elseBlock)]
  | .stmt (.loop _ condition body) => [.expr condition, .stmt (.block body)]

/-- What holds of a node as soon as it holds of its children holds of all nodes. -/
theorem induction {P : Phrase → Prop}
    (step : ∀ node : Phrase, (∀ child ∈ node.children, P child) → P node) (node : Phrase) :
    P node := by
  have exprs : ∀ e : Expr, P (.expr e) := by
    intro e
    induction e with
    | literal | reference => exact step _ (List.forall_mem_nil _)
    | grouping _ _ _ ih | unary _ _ _ ih | assign _ _ _ ih =>
      exact step _ (List.forall_mem_singleton.mpr ih)
    | binary _ _ _ _ ih ih' | logical _ _ _ _ ih ih' =>
      exact step _ (List.forall_mem_cons.mpr ⟨ih, List.forall_mem_singleton.mpr ih'⟩)
  have block : ∀ b : Block Stmt, (∀ s ∈ b.body, P (.stmt s)) → P (.stmt (.block b)) :=
    fun b body => step _ (List.forall_mem_map.mpr body)
  have stmts : (∀ s : Stmt, P (.stmt s)) ∧ ∀ ss : List Stmt, ∀ s ∈ ss, P (.stmt s) := by
    refine Stmt.induction ?expr ?print ?declare block ?ifThen ?ifElse ?loop ?nil ?cons
    case expr => exact fun e _ => step _ (List.forall_mem_singleton.mpr (exprs e))
    case print => exact fun _ e _ => step _ (List.forall_mem_singleton.mpr (exprs e))
    case declare =>
      intro keyword name target value semicolon
      cases value with
      | none => exact step _ (List.forall_mem_nil _)
      | some e => exact step _ (List.forall_mem_singleton.mpr (exprs e))
    case ifThen | loop =>
      intro keyword condition b body
      refine step _ (List.forall_mem_cons.mpr ⟨exprs condition, ?_⟩)
      exact List.forall_mem_singleton.mpr (block b body)
    case ifElse =>
      intro keyword condition b b' body body'
      refine step _ (List.forall_mem_cons.mpr ⟨exprs condition, List.forall_mem_cons.mpr ?_⟩)
      exact ⟨block b body, List.forall_mem_singleton.mpr (block b' body')⟩
    case nil => exact List.forall_mem_nil _
    case cons => exact fun s rest ih ihRest => List.forall_mem_cons.mpr ⟨ih, ihRest⟩
  cases node with
  | expr e => exact exprs e
  | stmt s => exact stmts.1 s

/-- A node and the nodes below it. -/
def phrases : Phrase → List Phrase
  | .expr e => e.phrases
  | .stmt s => s.phrases

end Phrase

/-- The nodes of statements in a row are those of each. -/
theorem Stmt.phrasesAll_eq (ss : List Stmt) :
    phrasesAll ss = (ss.map Phrase.stmt).flatMap Phrase.phrases := by
  induction ss with
  | nil => rfl
  | cons s rest ih =>
    rw [phrasesAll_cons, ih]
    rfl

namespace Phrase

/-- The nodes of a tree are its root, and the nodes of the trees below it. -/
theorem phrases_eq (node : Phrase) : node.phrases = node :: node.children.flatMap phrases := by
  cases node with
  | expr e =>
    cases e with
    | literal | reference => rfl
    | grouping opening inner closing => simp [phrases, children, Expr.phrases_grouping]
    | unary op sign operand => simp [phrases, children, Expr.phrases_unary]
    | binary op left sign right => simp [phrases, children, Expr.phrases_binary]
    | logical op left sign right => simp [phrases, children, Expr.phrases_logical]
    | assign name target value => simp [phrases, children, Expr.phrases_assign]
  | stmt s =>
    cases s with
    | expr e semicolon => simp [phrases, children, Stmt.phrases_expr]
    | print keyword e semicolon => simp [phrases, children, Stmt.phrases_print]
    | declare keyword name target value semicolon =>
      cases value with
      | none => rfl
      | some e => simp [phrases, children, Stmt.phrases_declare]
    | block b => rw [phrases, Stmt.phrases_block, Stmt.phrasesAll_eq, children]
    | ifThen keyword condition b => simp [phrases, children, Stmt.phrases_ifThen]
    | ifElse keyword condition b b' => simp [phrases, children, Stmt.phrases_ifElse]
    | loop keyword condition b => simp [phrases, children, Stmt.phrases_loop]

/-- What is done to each node, so to its children too, is done to all nodes of a tree, in order. -/
theorem phrases_map {g : Phrase → Phrase}
    (nodeWise : ∀ node, (g node).children = node.children.map g) (node : Phrase) :
    (g node).phrases = node.phrases.map g := by
  induction node using Phrase.induction with
  | step node ih =>
    rw [phrases_eq, phrases_eq node, nodeWise, List.flatMap_map, List.map_cons, List.map_flatMap]
    exact congrArg _ (List.flatMap_congr ih)

/-! ## 2. The tokens of the children -/

/-- The nodes are read from stretches of the tokens, one after the other. -/
inductive Contained : List Phrase → List Token → Prop
  | none (ts : List Token) : Contained [] ts
  | one (gap : List Token) {node : Phrase} {inside : List Token} {others : List Phrase}
      {rest : List Token} (read : node.ReadFrom inside) (contained : Contained others rest) :
      Contained (node :: others) (gap ++ inside ++ rest)

theorem Contained.after {nodes : List Phrase} {ts : List Token} (contained : Contained nodes ts)
    (before : List Token) : Contained nodes (before ++ ts) := by
  cases contained with
  | none ts => exact .none _
  | one gap read others =>
    rw [← List.append_assoc, ← List.append_assoc]
    exact .one _ read others

theorem Contained.before {nodes : List Phrase} {ts : List Token} (contained : Contained nodes ts)
    (after : List Token) : Contained nodes (ts ++ after) := by
  induction contained with
  | none ts => exact .none _
  | one gap read others ih =>
    rw [List.append_assoc]
    exact .one gap read ih

/-- Each statement of a row is read from its own stretch. -/
theorem contained_of_read {ss : List Stmt} {ts : List Token} (read : Stmt.ReadFrom ss ts) :
    Contained (ss.map .stmt) ts := by
  induction ss generalizing ts with
  | nil => exact .none ts
  | cons s rest ih =>
    obtain ⟨first, others, rfl, readFirst, readOthers⟩ := Stmt.readFrom_cons read
    exact .one [] readFirst (ih readOthers)

/-- A node holds its children. -/
theorem Made.contained {node : Phrase} {ts : List Token} (made : node.Made ts) :
    Contained node.children ts := by
  cases made with
  | literal | reference | declare => exact .none _
  | grouping opening closing read => exact .one [opening] read (.none [closing])
  | unary op sign read => simpa [children] using Contained.one [sign] read (.none [])
  | binary op sign read read' | logical op sign read read' =>
    simpa [children] using Contained.one [] read (.one [sign] read' (.none []))
  | assign name target equals read =>
    simpa [children] using Contained.one [target, equals] read (.none [])
  | effect semicolon read => exact .one [] read (.none [semicolon])
  | print keyword semicolon read => exact .one [keyword] read (.none [semicolon])
  | declareAs keyword name target equals semicolon read =>
    exact .one [keyword, target, equals] read (.none [semicolon])
  | block opening closing read => exact ((contained_of_read read).before [closing]).after [opening]
  | ifThen keyword opening closing read read' | loop keyword opening closing read read' =>
    simpa [children] using Contained.one [keyword, opening] read (.one [closing] read' (.none []))
  | ifElse keyword opening closing elseWord read read' read'' =>
    simpa [children] using Contained.one [keyword, opening] read
      (.one [closing] read' (.one [elseWord] read'' (.none [])))

/-- A node of the row has a stretch of the tokens to itself. -/
theorem Contained.of_mem {nodes : List Phrase} {ts : List Token} (contained : Contained nodes ts)
    {node : Phrase} (mem : node ∈ nodes) : ∃ inside, inside <:+: ts ∧ node.ReadFrom inside := by
  induction contained with
  | none ts => cases mem
  | one gap read others ih =>
    obtain rfl | mem := List.mem_cons.mp mem
    · exact ⟨_, List.infix_append _ _ _, read⟩
    · obtain ⟨inside, within, read⟩ := ih mem
      exact ⟨inside, within.trans (List.suffix_append _ _).isInfix, read⟩

/-- Each node of a tree is read from a stretch of the tokens that the tree is read from. -/
theorem ReadFrom.of_mem {root : Phrase} : ∀ {ts : List Token}, root.ReadFrom ts →
    ∀ node ∈ root.phrases, ∃ inside, inside <:+: ts ∧ node.ReadFrom inside := by
  induction root using Phrase.induction with
  | step root ih =>
    intro ts read node mem
    rw [phrases_eq] at mem
    obtain rfl | mem := List.mem_cons.mp mem
    · exact ⟨ts, List.infix_refl ts, read⟩
    · obtain ⟨child, isChild, mem⟩ := List.mem_flatMap.mp mem
      obtain ⟨within, part, read⟩ := read.made.contained.of_mem isChild
      obtain ⟨inside, part', read⟩ := ih child isChild read node mem
      exact ⟨inside, part'.trans part, read⟩

end Phrase

end Scriptlet
