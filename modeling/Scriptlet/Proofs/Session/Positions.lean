/-
Scriptlet.Proofs.Session.Positions — every place that is reported is right.

The scanner comes to the right line wherever it stands, whichever of its loops has taken
the line feeds before (`Scriptlet.Proofs.Lexical.Counting`), so a token or an error of the
scan, and the end marker, are on the line that their offset is on. Every other place that is
reported is taken from those: what is blamed is an error of the scan, the token that the
grammar cannot go on with, or the first token of the expression that a fault is about. Each
of them has at least one character to point at, but for the end marker.
-/
import Scriptlet.Proofs.Grammar.TrackingStatement
import Scriptlet.Proofs.Session.Outcome
import Scriptlet.Proofs.Span.Owned

namespace Scriptlet

open Grammar

/-- The issue points at this stretch of the text and at nothing else, and starts with the
number of the line that the stretch starts on. -/
structure Issue.PointsAt (cs : List Char) (start stop : Nat) (i : Issue) : Prop where
  alone : ∃ caption, i.evidence = [{ start, stop, caption }]
  inside : start ≤ stop ∧ stop ≤ cs.length
  line : ∃ message, i.description = "[line " ++ toString (lineAt cs start) ++ "] " ++ message

theorem Issue.onLine_lineAt (cs : List Char) (start : Nat) (message : String) :
    onLine (lineAt cs start) message =
      "[line " ++ toString (lineAt cs start) ++ "] " ++ message := rfl

/-! ## 1. Tokens -/

theorem Scan.mem_tokens {scan : Scan} {t : Token} :
    t ∈ scan.tokens ↔ t ∈ scan.body ∨ t = scan.finish := by
  rw [Scan.tokens, List.mem_append, List.mem_singleton]

/-- The tokens of the body are exact: the cut says where each of them stands. -/
theorem Scan.exact_of_mem {text : String} {t : Token} (mem : t ∈ (Scan.ofText text).body) :
    t.Exact text.toList := by
  have cut : IsCut text.toList (Scan.placed text.toList) := isCut_iff.mpr rfl
  obtain ⟨p, among, found⟩ := Scan.mem_body.mp mem
  exact cut.exact among found

/-- The end marker stands after all line feeds there are. -/
theorem Scan.line_finish (text : String) :
    (Scan.ofText text).finish.line = lineAt text.toList (Scan.ofText text).finish.start := by
  rw [Scan.finish_ofText, lineAt, List.take_length]
  rfl

/-- The line that a scanner had counted to when a token began is the line of the offset where it
begins. -/
theorem Scan.line_of_mem {text : String} {t : Token} (mem : t ∈ (Scan.ofText text).tokens) :
    t.line = lineAt text.toList t.start := by
  obtain mem | rfl := Scan.mem_tokens.mp mem
  · exact (Scan.exact_of_mem mem).line
  · exact Scan.line_finish text

/-! ## 2. Lexical errors -/

/-- What an error points at belongs to its segment. -/
theorem Placed.width_le {p : Placed} {after : List Char} (fits : p.segment.Fits after)
    {e : LexicalError} (found : p.error? = some e) :
    e.start = p.start ∧ e.line = p.line ∧ 0 < e.cause.width ∧ e.start + e.cause.width ≤ p.stop := by
  obtain ⟨start, line, segment⟩ := p
  cases fits <;> cases found <;>
    simp [Placed.stop, Segment.text, LexicalCause.width]

/-- A lexical error points at what it is about, or at the sign that opened it, and is on the line
of that. -/
theorem Scan.pointsAt_ofLexical {text : String} {e : LexicalError}
    (mem : e ∈ (Scan.ofText text).errors) :
    (Issue.ofLexical e).PointsAt text.toList e.start (e.start + e.cause.width) ∧
      e.start < e.start + e.cause.width := by
  have cut : IsCut text.toList (Scan.placed text.toList) := isCut_iff.mpr rfl
  obtain ⟨p, among, found⟩ := Scan.mem_errors.mp mem
  obtain ⟨-, fits, line⟩ := cut.stands p among
  obtain ⟨-, inside⟩ := cut.tile.bounds p among
  obtain ⟨start, sameLine, positive, within⟩ := Placed.width_le fits found
  refine ⟨⟨⟨_, rfl⟩, ⟨by omega, by omega⟩, e.cause.message, ?_⟩, by omega⟩
  rw [← Issue.onLine_lineAt, start, ← line, ← sameLine]
  rfl

/-! ## 3. Syntax errors -/

/-- A parse error is about a token of the script or about its end marker. -/
theorem ParseError.token_mem {stream : Stream} {e : ParseError}
    (refusal : Program.ofStream stream = .error e) :
    e.token ∈ stream.body ∨ e.token = stream.finish := by
  have refused := Loose.program_refused refusal
  cases e with
  | unexpected found wanted =>
    obtain ⟨read, left, -, body, rfl, -⟩ := refused
    cases left with
    | nil => exact .inr rfl
    | cons t rest => exact .inl (by simp [body, ParseError.token])
  | target equals target =>
    obtain ⟨before, after, -, left, sign, value, body, rfl, -⟩ := refused
    exact .inl (by simp [body, ParseError.token])

/-- A parse error points at the token that it found, which is empty only at the end. -/
theorem Scan.pointsAt_ofParse {text : String} {e : ParseError}
    (refusal : Program.ofStream (Scan.ofText text).stream = .error e) :
    (Issue.ofParse e).PointsAt text.toList e.token.start e.token.stop ∧
      (e.token.start < e.token.stop ∨ e.token = (Scan.ofText text).finish) := by
  have among := ParseError.token_mem refusal
  have line : e.token.line = lineAt text.toList e.token.start :=
    Scan.line_of_mem (Scan.mem_tokens.mpr among)
  have message : (Issue.ofParse e).description =
      "[line " ++ toString (lineAt text.toList e.token.start) ++ "] " ++ e.message := by
    rw [← Issue.onLine_lineAt, ← line]
    rfl
  obtain mem | marker := among
  · obtain ⟨filled, inside⟩ := (Scan.exact_of_mem mem).inside
    exact ⟨⟨⟨_, rfl⟩, ⟨Nat.le_of_lt filled, inside⟩, _, message⟩, .inl filled⟩
  · refine ⟨⟨⟨_, rfl⟩, ?_, _, message⟩, .inr marker⟩
    rw [marker]
    exact ⟨Nat.le_refl _, Nat.le_refl _⟩

/-! ## 4. Faults -/

/-- A node of a program that was read is read from some of the tokens of the text in a row. -/
theorem Scan.stretch_of_node {text : String} {p : Program}
    (read : Program.ofStream (Scan.ofText text).stream = .ok p) {node : Phrase}
    (mem : node ∈ Stmt.phrasesAll p) :
    ∃ inside, inside <:+: (Scan.ofText text).body ∧ node.ReadFrom inside := by
  have read : Stmt.ReadFrom p (Scan.ofText text).body := Program.ofStream_eq_ok_iff.mp read
  rw [Stmt.phrasesAll_eq] at mem
  obtain ⟨root, isRoot, mem⟩ := List.mem_flatMap.mp mem
  obtain ⟨within, part, readRoot⟩ := (Phrase.contained_of_read read).of_mem isRoot
  obtain ⟨inside, part', readNode⟩ := readRoot.of_mem node mem
  exact ⟨inside, part'.trans part, readNode⟩

/-- A node of a program that was read has a first and a last token, which the text has too. -/
theorem Scan.bounds_of_node {text : String} {p : Program}
    (read : Program.ofStream (Scan.ofText text).stream = .ok p) {node : Phrase}
    (mem : node ∈ Stmt.phrasesAll p) :
    node.start < node.stop ∧ node.stop ≤ text.toList.length ∧
      node.line = lineAt text.toList node.start := by
  obtain ⟨inside, sub, readNode⟩ := Scan.stretch_of_node read mem
  -- The tokens of the node are some of the script's in a row, so they stand in order.
  have row := (Scan.row text).within sub
  have leftmost := Scan.exact_of_mem (sub.subset readNode.leftmost_mem)
  have rightmost := Scan.exact_of_mem (sub.subset readNode.rightmost_mem)
  refine ⟨?_, rightmost.inside.2, leftmost.line⟩
  exact Nat.lt_of_lt_of_le leftmost.inside.1
    (row.stop_le readNode.getLast? _ readNode.leftmost_mem)

/-- A fault points at its node, from the first token of it to the last. -/
theorem Scan.pointsAt_ofFault {text : String} {p : Program} {rounds : Nat} {st st' : State}
    {fault : Fault} (read : Program.ofStream (Scan.ofText text).stream = .ok p)
    (run : Stmt.execAll rounds p st = (.failed fault, st')) :
    (Issue.ofFault fault).PointsAt text.toList fault.site.start fault.site.stop ∧
      fault.site.start < fault.site.stop := by
  obtain ⟨site, same, mem, -⟩ := Stmt.execAll_fits rounds p st fault (congrArg Prod.fst run)
  rw [← same] at mem
  obtain ⟨filled, inside, line⟩ := Scan.bounds_of_node read mem
  refine ⟨⟨⟨_, rfl⟩, ⟨Nat.le_of_lt filled, inside⟩, fault.cause.message, ?_⟩, filled⟩
  rw [← Issue.onLine_lineAt, ← line]
  rfl

/-! ## 5. All of them -/

/-- The issue points into the text with at least one character, or else it is a syntax error
at the end of the text. -/
def Issue.Points (text : String) (i : Issue) : Prop :=
  ∃ start stop, i.PointsAt text.toList start stop ∧
    (start < stop ∨ ∃ e, Program.ofStream (Scan.ofText text).stream = .error e ∧
      i = .ofParse e ∧ e.token = (Scan.ofText text).finish)

theorem Scan.points_of_mem {text : String} : ∀ i ∈ Scan.issues text, i.Points text := by
  intro i mem
  obtain ⟨e, isError, rfl⟩ := List.mem_map.mp mem
  obtain ⟨points, filled⟩ := Scan.pointsAt_ofLexical isError
  exact ⟨_, _, points, .inl filled⟩

theorem Run.Course.points {r : Report} {rounds : Nat} {text : String} {env : Environment}
    {filed : List Issue} {run : Run} (course : Run.Course r rounds text env filed run) :
    ∀ i ∈ filed, i.Points text := by
  cases course with
  | scanOverflow full some beginning =>
    exact fun i mem => Scan.points_of_mem i (beginning.subset mem)
  | @refused e notes verdict taken refusal stopped =>
    refine List.forall_mem_append.mpr ⟨Scan.points_of_mem, List.forall_mem_singleton.mpr ?_⟩
    obtain ⟨points, filled | marker⟩ := Scan.pointsAt_ofParse refusal
    · exact ⟨_, _, points, .inl filled⟩
    · exact ⟨_, _, points, .inr ⟨e, refusal, rfl, marker⟩⟩
  | notStarted read sick => exact Scan.points_of_mem
  | ran read ok run ends => exact List.forall_mem_nil _
  | faulted read ok run stopped =>
    obtain ⟨points, filled⟩ := Scan.pointsAt_ofFault read run
    exact List.forall_mem_singleton.mpr ⟨_, _, points, .inl filled⟩

/-- In every text each token is on the line that it says, the end marker included; and every
issue that a run files about the text, in whatever phase, points at one stretch of it and
starts with the line which that stretch starts on. -/
theorem positions_right (r : Report) (text : String) :
    (∀ t ∈ (Scan.ofText text).tokens, t.line = lineAt text.toList t.start) ∧
      ∀ rounds filename env, ∃ filed : List Issue,
        (r.run rounds text filename env).report.issues = r.issues ++ filed.toArray ∧
          ∀ i ∈ filed, i.Points text := by
  refine ⟨fun t mem => Scan.line_of_mem mem, fun rounds filename env => ?_⟩
  obtain ⟨filed, course⟩ := r.run_course rounds text filename env
  refine ⟨filed, ?_, course.points⟩
  rw [course.agrees.report]
  rfl

end Scriptlet
