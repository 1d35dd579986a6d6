/-
Scriptlet.Proofs.Span.Owned — the span of a node is exactly its own text.

The first and the last token of a node are the first and the last of the tokens it
was read from (`ReadFrom.head?`, `ReadFrom.getLast?`), whatever else its tree does
not keep. So the text between its start and its stop has these tokens and no others
(`Scan.stretch`), and the node is what this text is read as on its own.

The tokens of the two are the same but for their places. The tree of the text on its
own is therefore found from the node with every place moved back, and it is the node
again once every place is moved on.
-/
import Scriptlet.Proofs.Grammar.Mapped
import Scriptlet.Proofs.Grammar.Recognition
import Scriptlet.Proofs.Lexical.Stretch
import Scriptlet.Proofs.Session.Outcome
import Scriptlet.Proofs.Span.Children

namespace Scriptlet

open Grammar

/-! ## 1. Tokens in a row -/

/-- The tokens stand one after the other, and none is empty. -/
structure Token.Row (ts : List Token) : Prop where
  inOrder : ts.Pairwise fun t u => t.stop ≤ u.start
  filled : ∀ t ∈ ts, t.start < t.stop

namespace Token.Row

variable {ts : List Token}

theorem within (row : Row ts) {inside : List Token} (part : inside <:+: ts) : Row inside :=
  ⟨row.inOrder.sublist part.sublist, fun t mem => row.filled t (part.subset mem)⟩

/-- The first of a row starts before all others. -/
theorem start_le (row : Row ts) {first : Token} (head : ts.head? = some first) :
    ∀ t ∈ ts, first.start ≤ t.start := by
  obtain ⟨others, rfl⟩ := List.head?_eq_some_iff.mp head
  obtain ⟨before, -⟩ := List.pairwise_cons.mp row.inOrder
  refine List.forall_mem_cons.mpr ⟨Nat.le_refl _, fun t mem => ?_⟩
  exact Nat.le_trans (Nat.le_of_lt (row.filled first List.mem_cons_self)) (before t mem)

theorem stop_le (row : Row ts) {last : Token} (final : ts.getLast? = some last) :
    ∀ t ∈ ts, t.stop ≤ last.stop := by
  obtain ⟨others, rfl⟩ := List.getLast?_eq_some_iff.mp final
  obtain ⟨-, -, before⟩ := List.pairwise_append.mp row.inOrder
  refine List.forall_mem_append.mpr ⟨fun t mem => ?_, ?_⟩
  · have next := before t mem last List.mem_cons_self
    have filled := row.filled last (List.mem_append_right _ List.mem_cons_self)
    exact Nat.le_trans next (Nat.le_of_lt filled)
  · exact List.forall_mem_singleton.mpr (Nat.le_refl _)

end Token.Row

theorem Scan.row (source : String) : Token.Row (Scan.ofText source).body := by
  have cut : IsCut source.toList (Scan.placed source.toList) := isCut_iff.mpr rfl
  refine ⟨Scan.body_inOrder source, fun t mem => ?_⟩
  obtain ⟨p, among, found⟩ := Scan.mem_body.mp mem
  exact (cut.exact among found).inside.1

/-! ## 2. The first and the last token of a node -/

theorem getLast?_after (ts : List Token) {ts' : List Token} {last : Token}
    (final : ts'.getLast? = some last) :
    (ts ++ ts').getLast? = some last := by
  rw [List.getLast?_append, final]
  rfl

theorem head?_before {ts ts' : List Token} {first : Token} (head : ts.head? = some first) :
    (ts ++ ts').head? = some first := by
  rw [List.head?_append, head]
  rfl

namespace Phrase

/-- The first token of a node is the first one it is read from. -/
theorem ReadFrom.head? {node : Phrase} : ∀ {ts : List Token}, node.ReadFrom ts →
    ts.head? = some node.leftmost := by
  induction node using Phrase.induction with
  | step node ih =>
    intro ts read
    have made := read.made
    clear read
    cases made with
    | binary op sign read | logical op sign read | effect semicolon read =>
      exact head?_before (ih _ List.mem_cons_self read)
    | _ => rfl

theorem ReadFrom.getLast? {node : Phrase} : ∀ {ts : List Token}, node.ReadFrom ts →
    ts.getLast? = some node.rightmost := by
  induction node using Phrase.induction with
  | step node ih =>
    intro ts read
    have made := read.made
    clear read
    cases made with
    | literal | reference | declare => rfl
    | grouping opening closing read => exact getLast?_after (opening :: _) rfl
    | effect semicolon read => exact getLast?_after _ rfl
    | print keyword semicolon read => exact getLast?_after (keyword :: _) rfl
    | declareAs keyword name target equals semicolon read =>
      exact getLast?_after (keyword :: target :: equals :: _) rfl
    | block opening closing read => exact getLast?_after (opening :: _) rfl
    | unary op sign read =>
      exact getLast?_after [sign] (ih _ List.mem_cons_self read)
    | assign name target equals read =>
      exact getLast?_after [target, equals] (ih _ List.mem_cons_self read)
    | binary op sign read read' | logical op sign read read' =>
      have last := ih _ (List.mem_cons_of_mem _ List.mem_cons_self) read'
      exact getLast?_after _ (getLast?_after [sign] last)
    | ifThen keyword opening closing read read' | loop keyword opening closing read read' =>
      have last := ih _ (List.mem_cons_of_mem _ List.mem_cons_self) read'
      exact getLast?_after (keyword :: opening :: _) (getLast?_after [closing] last)
    | ifElse keyword opening closing elseWord read read' read'' =>
      have last := ih _ (List.mem_cons_of_mem _ (List.mem_cons_of_mem _ List.mem_cons_self)) read''
      exact getLast?_after (keyword :: opening :: _)
        (getLast?_after (closing :: _) (getLast?_after [elseWord] last))

end Phrase

/-! ## 3. The tree of a stretch -/

/-- The token as it stands when so many characters and lines before its text are left out. -/
def Token.back (offset lines : Nat) (t : Token) : Token :=
  { t with start := t.start - offset, line := t.line - lines }

theorem Token.back_moved (offset lines : Nat) (t : Token) :
    (t.moved offset lines).back offset lines = t := by
  have line : (lines : Int) + t.line - lines = t.line := by omega
  rw [back, moved, Nat.add_sub_cancel_left, line]

/-- A place is nothing that the grammar looks at. -/
theorem Token.keeps_moved (offset lines : Nat) : Keeps (moved offset lines) :=
  ⟨fun _ => rfl, fun _ => rfl, fun _ => rfl⟩

theorem Token.keeps_back (offset lines : Nat) : Keeps (back offset lines) :=
  ⟨fun _ => rfl, fun _ => rfl, fun _ => rfl⟩

/-- A derivation from tokens that were exchanged is one from the tokens as they were,
if the exchange can be taken back. -/
theorem Grammar.exists_unmapped {f g : Token → Token} (keeps : Token.Keeps f)
    (keepsBack : Token.Keeps g) (back : ∀ t, g (f t) = t) {n : Nonterminal} (d : Derivation n)
    {ts : List Token} (word : d.tokens = ts.map f) :
    ∃ d' : Derivation n, d'.tokens = ts ∧ n.mapTokens f d'.tree = d.tree := by
  have tokens : (d.map keepsBack).tokens = ts := by
    rw [tokens_map, word, List.map_map, show g ∘ f = id from funext back, List.map_id]
  have same : (d.map keepsBack).map keeps = d :=
    derivation_unique _ _ (by rw [tokens_map, tokens, word])
  refine ⟨d.map keepsBack, tokens, ?_⟩
  rw [← tree_map keeps, same]

namespace Phrase

/-- A node that is read from moved tokens is a moved node. -/
theorem ReadFrom.exists_unmapped {f g : Token → Token} (keeps : Token.Keeps f)
    (keepsBack : Token.Keeps g) (back : ∀ t, g (f t) = t) {node : Phrase} {ts : List Token}
    (read : node.ReadFrom (ts.map f)) :
    ∃ node' : Phrase, node'.ReadFrom ts ∧ node'.mapTokens f = node := by
  cases node with
  | expr e =>
    obtain ⟨d, word, rfl⟩ := read
    obtain ⟨d', word', tree⟩ := Grammar.exists_unmapped keeps keepsBack back d word
    exact ⟨.expr d'.tree, ⟨d', word', rfl⟩, congrArg _ tree⟩
  | stmt s =>
    obtain ⟨d, word, rfl⟩ := read
    obtain ⟨d', word', tree⟩ := Grammar.exists_unmapped keeps keepsBack back d word
    exact ⟨.stmt d'.tree, ⟨d', word', rfl⟩, congrArg _ tree⟩

/-- The text is accepted as this node: as the expression, or as a script of the statement
alone. -/
def AcceptedFrom (r : Report) (text : String) : Phrase → Prop
  | .expr e => (r.review Expr.ofStream text).outcome = .accepted e
  | .stmt s => (r.review Program.ofStream text).outcome = .accepted [s]

/-- What is read from all the tokens of a text is what the text is accepted as. -/
theorem ReadFrom.acceptedFrom {r : Report} {text : String} (takes : r.TakesScan text)
    {node : Phrase} (read : node.ReadFrom (Scan.ofText text).body) : node.AcceptedFrom r text := by
  cases node with
  | expr e => exact Report.review_accepted_iff.mpr ⟨takes, Expr.ofStream_eq_ok_iff.mpr read⟩
  | stmt s =>
    obtain ⟨d, word, rfl⟩ := read
    refine Report.review_accepted_iff.mpr ⟨takes, Program.ofStream_eq_ok_iff.mpr ?_⟩
    refine ⟨.oneMore d .noDeclaration, ?_, rfl⟩
    rw [Derivation.tokens, Derivation.tokens, List.append_nil]
    exact word

/-! ## 4. Spans -/

/-- The span of the node in the text is exactly its own text: it is a stretch of the
text that is not empty, this stretch is accepted on its own as the same node, with all
its tokens so many characters and lines earlier as come before the stretch, and the
children have spans within it, one after the other. -/
structure OwnsSpan (r : Report) (text : String) (node : Phrase) : Prop where
  bounds : node.start < node.stop ∧ node.stop ≤ text.toList.length
  alone : ∃ node' : Phrase,
    node'.AcceptedFrom r (String.ofList (slice text.toList node.start node.stop)) ∧
      node'.mapTokens
        (Token.moved node.start ((text.toList.take node.start).count '\n')) = node
  inside : ∀ child ∈ node.children, node.start ≤ child.start ∧ child.stop ≤ node.stop
  apart : node.children.Pairwise fun child next => child.stop ≤ next.start

theorem ReadFrom.leftmost_mem {node : Phrase} {ts : List Token} (read : node.ReadFrom ts) :
    node.leftmost ∈ ts := List.mem_of_head? read.head?

theorem ReadFrom.rightmost_mem {node : Phrase} {ts : List Token} (read : node.ReadFrom ts) :
    node.rightmost ∈ ts := List.mem_of_getLast? read.getLast?

/-- Nodes that are read from stretches one after the other do not overlap. -/
theorem Contained.apart {nodes : List Phrase} {ts : List Token} (contained : Contained nodes ts)
    (row : Token.Row ts) : nodes.Pairwise fun node next => node.stop ≤ next.start := by
  induction contained with
  | none ts => exact .nil
  | one gap read others ih =>
    refine .cons (fun next mem => ?_) (ih (row.within (List.suffix_append _ _).isInfix))
    obtain ⟨inside, part, read'⟩ := others.of_mem mem
    obtain ⟨-, -, before⟩ := List.pairwise_append.mp row.inOrder
    exact before _ (List.mem_append_right _ read.rightmost_mem) _ (part.subset read'.leftmost_mem)

/-- The slice from the first token of a node to its last is scanned as these tokens, moved, and so
is read as that node. -/
theorem ReadFrom.ownsSpan {r : Report} {text : String} (takes : r.TakesScan text)
    {node : Phrase} {ts : List Token} (part : ts <:+: (Scan.ofText text).body)
    (read : node.ReadFrom ts) : node.OwnsSpan r text := by
  have cut : IsCut text.toList (Scan.placed text.toList) := isCut_iff.mpr rfl
  have row := (Scan.row text).within part
  have contained := read.made.contained
  refine ⟨⟨?_, ?_⟩, ?_, ?_, contained.apart row⟩
  · have filled := row.filled _ read.leftmost_mem
    exact Nat.lt_of_lt_of_le filled (row.stop_le read.getLast? _ read.leftmost_mem)
  · obtain ⟨p, among, found⟩ := Scan.mem_body.mp (part.subset read.rightmost_mem)
    exact (cut.exact among found).inside.2
  · obtain ⟨before, after, whole⟩ := part
    obtain ⟨tokens, errors⟩ :=
      Scan.stretch whole.symm read.head? read.getLast?
    rw [← tokens] at read
    obtain ⟨node', read', same⟩ := read.exists_unmapped (Token.keeps_moved _ _)
      (Token.keeps_back _ _) (Token.back_moved _ _)
    refine ⟨node', read'.acceptedFrom ?_, same⟩
    obtain ⟨taken, filed⟩ := takes
    refine ⟨_, Report.fileAll_of_length_le rfl rfl filed ?_⟩
    rw [Scan.issues, Scan.issues, List.length_map, List.length_map, ← List.length_map, errors]
    exact List.length_filter_le _ _
  · intro child mem
    obtain ⟨inside, part', read'⟩ := contained.of_mem mem
    exact ⟨row.start_le read.head? _ (part'.subset read'.leftmost_mem),
      row.stop_le read.getLast? _ (part'.subset read'.rightmost_mem)⟩

end Phrase

/-- In the tree of an accepted text every node owns its span: the text there, scanned
and read on its own, is that node and nothing else, and the spans of its children lie
within it, in order and apart. -/
theorem spans_owned (r : Report) (text : String) :
    (∀ p : Program, (r.review Program.ofStream text).outcome = .accepted p →
      ∀ node ∈ Stmt.phrasesAll p, node.OwnsSpan r text) ∧
    ∀ e : Expr, (r.review Expr.ofStream text).outcome = .accepted e →
      ∀ node ∈ e.phrases, node.OwnsSpan r text := by
  constructor
  · intro p accepted node mem
    obtain ⟨takes, read⟩ := Report.review_accepted_iff.mp accepted
    have read : Stmt.ReadFrom p (Scan.ofText text).body := Program.ofStream_eq_ok_iff.mp read
    rw [Stmt.phrasesAll_eq] at mem
    obtain ⟨root, isRoot, mem⟩ := List.mem_flatMap.mp mem
    obtain ⟨within, part, read⟩ := (Phrase.contained_of_read read).of_mem isRoot
    obtain ⟨inside, part', read⟩ := read.of_mem node mem
    exact read.ownsSpan takes (part'.trans part)
  · intro e accepted node mem
    obtain ⟨takes, read⟩ := Report.review_accepted_iff.mp accepted
    have read : Phrase.ReadFrom (.expr e) (Scan.ofText text).body :=
      Expr.ofStream_eq_ok_iff.mp read
    obtain ⟨inside, part, read⟩ := read.of_mem node mem
    exact read.ownsSpan takes part

/-- The tokens of `-""` with a line break after the minus sign, and of a semicolon. -/
def brokenTokens : List Token :=
  [{ kind := .mark .minus, lexeme := "-", line := 1, start := 0 },
   { kind := .text, lexeme := "\"\"", line := 2, payload := .text "", start := 2 },
   { kind := .mark .semicolon, lexeme := ";", line := 2, start := 4 }]

def brokenOperand : Phrase := .expr (.literal (.text "") brokenTokens[1])

/-- The line break between them is no part of either token. -/
theorem segments_broken (rest : List Char) :
    Segment.segments ('-' :: '\n' :: '"' :: '"' :: rest) =
      .token (.mark .minus) ['-'] :: .blank '\n' :: .token .text ['"', '"'] ::
        Segment.segments rest := by
  rw [Segment.segments_cons]
  show _ :: Segment.segments ('\n' :: '"' :: '"' :: rest) = _
  rw [Segment.segments_cons]
  show _ :: _ :: Segment.segments ('"' :: '"' :: rest) = _
  rw [Segment.segments_cons]
  rfl

theorem scan_broken : (Scan.ofText "-\n\"\"").body = brokenTokens.take 2 ∧
    (Scan.ofText "-\n\"\"").errors = [] := by
  have segments : Segment.segments "-\n\"\"".toList = _ := segments_broken []
  rw [Scan.ofText_eq]
  simp only [Scan.placed, segments, Segment.segments_nil]
  exact ⟨rfl, rfl⟩

theorem scan_broken_statement : (Scan.ofText "-\n\"\";").body = brokenTokens ∧
    (Scan.ofText "-\n\"\";").errors = [] := by
  have segments : Segment.segments "-\n\"\";".toList = _ := segments_broken [';']
  have semicolon : Segment.segments [';'] = [.token (.mark .semicolon) [';']] := by
    rw [Segment.segments_cons]
    show _ :: Segment.segments [] = _
    rw [Segment.segments_nil]
    rfl
  rw [Scan.ofText_eq]
  simp only [Scan.placed, segments, semicolon]
  exact ⟨rfl, rfl⟩

/-- The operand on the second line owns the two characters it is written with, in a
script and in an expression. -/
theorem spans_owned_broken :
    (∃ p node, (Report.review {} Program.ofStream "-\n\"\";").outcome = .accepted p ∧
      node ∈ Stmt.phrasesAll p ∧ (node.start = 2 ∧ node.stop = 4 ∧ node.line = 2) ∧
      node.OwnsSpan {} "-\n\"\";") ∧
    ∃ e node, (Report.review {} Expr.ofStream "-\n\"\"").outcome = .accepted e ∧
      node ∈ e.phrases ∧ (node.start = 2 ∧ node.stop = 4 ∧ node.line = 2) ∧
      node.OwnsSpan {} "-\n\"\"" := by
  let e := Derivation.ofNegation ⟨brokenTokens[0], rfl⟩ ⟨brokenTokens[1], rfl⟩
  let p : Derivation .program :=
    .oneMore (.statement (.effect e ⟨brokenTokens[2], rfl⟩)) .noDeclaration
  constructor
  · obtain ⟨body, silent⟩ := scan_broken_statement
    have accepted : (Report.review {} Program.ofStream "-\n\"\";").outcome = .accepted p.tree :=
      Report.review_of_silent_scan {} silent (Program.ofStream_eq_ok_iff.mpr ⟨p, body.symm, rfl⟩)
    have mem : brokenOperand ∈ Stmt.phrasesAll p.tree :=
      List.mem_cons_of_mem _ (List.mem_cons_of_mem _ List.mem_cons_self)
    exact ⟨p.tree, brokenOperand, accepted, mem, ⟨rfl, rfl, rfl⟩,
      (spans_owned {} "-\n\"\";").1 p.tree accepted brokenOperand mem⟩
  · obtain ⟨body, silent⟩ := scan_broken
    have accepted : (Report.review {} Expr.ofStream "-\n\"\"").outcome = .accepted e.tree :=
      Report.review_of_silent_scan {} silent (Expr.ofStream_eq_ok_iff.mpr ⟨e, body.symm, rfl⟩)
    have mem : brokenOperand ∈ e.tree.phrases := List.mem_cons_of_mem _ List.mem_cons_self
    exact ⟨e.tree, brokenOperand, accepted, mem, ⟨rfl, rfl, rfl⟩,
      (spans_owned {} "-\n\"\"").2 e.tree accepted brokenOperand mem⟩

end Scriptlet
