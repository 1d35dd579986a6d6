/-
Scriptlet.Proofs.Cursor.Confined — no reading goes past the first end marker.

A list of tokens may hold end markers in its middle. By position it is read as far as the
first of them: the reading ends there as the grammar does on the stream of the list, and
what stands after the first marker decides nothing (`walks_confined`). In between every rule
does its part: called anywhere up to that marker, it ends there too, and what answers has
moved forward. For that the rules need not nest deeper than thirteen times the tokens up to
the marker.
-/
import Scriptlet.Proofs.Cursor.Agreement
import Scriptlet.Proofs.Grammar.Continued

namespace Scriptlet

open Grammar

namespace Walk

variable {α : Type} {stream : Stream} {tokens : List Token} {m : Walk α}

/-- Started anywhere up to `last`, the reading ends there too, and on its way the cursor has
stood nowhere else. It has moved forward if there is an answer, and never moves back. -/
def Advances (m : Walk α) (last : Nat) : Prop :=
  ∀ c : Cursor, c.Within last → ∃ c' : Cursor, c'.Within last ∧
    ((∃ value, m.Ends c (.ok value) c' ∧ c.position < c'.position) ∨
      ∃ e, m.Ends c (.error e) c' ∧ c.position ≤ c'.position)

/-! ## 1. Rules -/

/-- What reaches an answer that reads something moves forward. -/
theorem advances_of_reaches
    (reaches : ∀ ts, ts.length ≤ stream.body.length →
      ∃ read : Grammar.Reading α ts, m.Reaches stream ts read.plain) :
    m.Advances stream.body.length := by
  intro c within
  obtain ⟨read, reaches⟩ := reaches (stream.body.drop c.position) (by simp)
  obtain ⟨c', ends, le, within', left⟩ := reaches c within rfl
  refine ⟨c', within', ?_⟩
  cases answer : read.plain with
  | error e =>
    rw [answer] at ends
    exact .inr ⟨e, ends, le⟩
  | ok pair =>
    obtain ⟨value, rest⟩ := pair
    rw [answer] at ends
    refine .inl ⟨value, ends, ?_⟩
    have shorter := plain_shorter answer
    rw [← left value rest answer, List.length_drop, List.length_drop] at shorter
    omega

/-- A primary that is asked for by itself, of whatever is left. -/
theorem reaches_primary_rule (heads : stream.Heads tokens) (depth : Nat) (ts : List Token)
    (deep : 13 * ts.length + 1 ≤ depth) :
    ∃ read : Grammar.Reading Expr ts, (primary tokens depth).Reaches stream ts read.plain := by
  cases ts with
  | nil =>
    exact ⟨.error (.unexpected stream.finish .expression), reaches_primary_nil heads depth deep⟩
  | cons t after => exact ⟨_, reaches_primary heads depth t after deep⟩

/-! ## 2. Whole lists -/

theorem map_fst_whole (read : Except ParseError α) : (whole read).map Prod.fst = read := by
  cases read <;> rfl

/-- A reading of the whole stream ends within it. -/
theorem Reaches.ends_start {read : Except ParseError α}
    (reaches : m.Reaches stream stream.body (whole read)) :
    ∃ c, m.Ends .start read c ∧ c.Within stream.body.length := by
  obtain ⟨c, ends, -, within, -⟩ := reaches .start ⟨Nat.zero_le _, nofun⟩ rfl
  rw [map_fst_whole] at ends
  exact ⟨c, ends, within⟩

/-- A reading that ends has an outcome, and it is no matter of depth. -/
theorem Ends.outcome {read : Except ParseError α} {c : Cursor} (ends : m.Ends .start read c) :
    m.outcome = read.mapError .refused :=
  congrArg Prod.fst ends

end Walk

/-! ## 3. Where the first marker stands -/

/-- The first end marker is where the stream ends. -/
theorem Stream.Heads.findIdx {stream : Stream} {tokens : List Token}
    (heads : stream.Heads tokens) : tokens.findIdx Token.isFinish = stream.body.length := by
  obtain ⟨more, rfl⟩ := heads.cut
  rw [List.findIdx_append, if_neg, List.findIdx_cons, heads.marker]
  · simp
  · rw [List.findIdx_lt_length]
    rintro ⟨t, mem, marker⟩
    rw [heads.free t mem] at marker
    cases marker

/-- The stream stays the same whatever comes after its end marker. -/
theorem Stream.Heads.replace {stream : Stream} {tokens replaced : List Token}
    (heads : stream.Heads tokens) (same : tokens.take (stream.body.length + 1) <+: replaced) :
    stream.Heads replaced := by
  obtain ⟨others, rfl⟩ := same
  refine ⟨heads.marker, heads.free, others, ?_⟩
  obtain ⟨more, rfl⟩ := heads.cut
  rw [List.take_length_add_append, List.take_succ_cons, List.take_zero, List.append_assoc]
  rfl

/-- A list of tokens that makes a stream starts with it. -/
theorem Stream.heads_of_ofTokens? {stream : Stream} {tokens : List Token}
    (found : Stream.ofTokens? tokens = some stream) : stream.Heads tokens := by
  obtain ⟨marker, free, cut⟩ := Stream.splitAtFinish?_eq_some (Stream.ofTokens?_eq_some found)
  exact ⟨marker, free, cut⟩

theorem Stream.Heads.ofTokens? {stream : Stream} {tokens : List Token}
    (heads : stream.Heads tokens) (ends : ∃ last ∈ tokens.getLast?, last.isFinish = true) :
    Stream.ofTokens? tokens = some stream := by
  obtain ⟨last, final, isFinish⟩ := ends
  obtain ⟨more, rfl⟩ := heads.cut
  rw [Stream.ofTokens?, Option.mem_def.mp final]
  simp [isFinish, Stream.splitAtFinish?_append heads.free, Stream.splitAtFinish?, heads.marker]

/-! ## 4. The result -/

open Walk (advances_of_reaches reaches_program reaches_wholeExpression reaches_declaration
  reaches_expression reaches_operand reaches_unary reaches_primary_rule)

/-- A list of tokens that ends with an end marker is read by position within its first end
marker. As a program and as an expression it is read to the end that the grammar comes to on
its stream, and so it is whatever stands after that marker. Every declaration and every
expression that is read on the way moves the cursor forward, and nothing moves it past the
marker. -/
theorem walks_confined (tokens : List Token)
    (ends : ∃ last ∈ tokens.getLast?, last.isFinish = true) :
    ∃ stream marker, Stream.ofTokens? tokens = some stream ∧
      tokens.findIdx Token.isFinish = marker ∧
      ∀ depth, 13 * (marker + 1) ≤ depth →
        (∃ c, (Walk.program tokens depth).Ends .start (Program.ofStream stream) c ∧
          c.Within marker) ∧
        (∃ c, (Walk.wholeExpression tokens depth).Ends .start (Expr.ofStream stream) c ∧
          c.Within marker) ∧
        (Walk.declaration tokens depth).Advances marker ∧
        (Walk.expression tokens depth).Advances marker ∧
        (∀ level ≤ Operator.levels, (Walk.operand tokens depth level).Advances marker) ∧
        (Walk.unary tokens depth).Advances marker ∧
        (Walk.primary tokens depth).Advances marker ∧
        ∀ replaced, tokens.take (marker + 1) <+: replaced →
          (Walk.program replaced depth).outcome = (Walk.program tokens depth).outcome ∧
          (Walk.wholeExpression replaced depth).outcome =
            (Walk.wholeExpression tokens depth).outcome ∧
          ((∃ last ∈ replaced.getLast?, last.isFinish = true) →
            Stream.ofTokens? replaced = some stream) := by
  obtain ⟨last, final, isFinish⟩ := ends
  obtain ⟨stream, found, -⟩ := Stream.ofTokens?_of_finish final isFinish
  have heads := Stream.heads_of_ofTokens? found
  refine ⟨stream, stream.body.length, found, heads.findIdx, fun depth deep => ?_⟩
  have operands : Operator.levels = 6 := rfl
  have asProgram {list : List Token} (heads : stream.Heads list) :=
    (reaches_program heads depth stream.body (by omega)).ends_start
  have asExpression {list : List Token} (heads : stream.Heads list) :=
    (reaches_wholeExpression heads depth (by omega)).ends_start
  refine ⟨asProgram heads, asExpression heads, ?declaration, ?expression, fun level le => ?operand,
    ?unary, ?primary, fun replaced same => ?replaced⟩
  case declaration =>
    exact advances_of_reaches fun ts le => ⟨_, reaches_declaration heads depth ts (by omega)⟩
  case expression =>
    exact advances_of_reaches fun ts le => ⟨_, reaches_expression heads depth ts (by omega)⟩
  case operand =>
    exact advances_of_reaches fun ts le => ⟨_, reaches_operand heads depth level ts (by omega)⟩
  case unary =>
    exact advances_of_reaches fun ts le => ⟨_, reaches_unary heads depth ts (by omega)⟩
  case primary =>
    exact advances_of_reaches fun ts le => reaches_primary_rule heads depth ts (by omega)
  case replaced =>
    have heads' := heads.replace same
    obtain ⟨_, program', -⟩ := asProgram heads'
    obtain ⟨_, program, -⟩ := asProgram heads
    obtain ⟨_, expression', -⟩ := asExpression heads'
    obtain ⟨_, expression, -⟩ := asExpression heads
    exact ⟨program'.outcome.trans program.outcome.symm,
      expression'.outcome.trans expression.outcome.symm, heads'.ofTokens?⟩

/-- The tokens of `x; (` with their end marker, and those of `);` with another one. -/
def markedTokens : List Token :=
  [{ kind := .identifier, lexeme := "x", line := 1, start := 0 },
   { kind := .mark .semicolon, lexeme := ";", line := 1, start := 1 },
   { kind := .mark .leftParen, lexeme := "(", line := 1, start := 3 },
   { kind := .finish, lexeme := "", line := 1, start := 4 },
   { kind := .mark .rightParen, lexeme := ")", line := 1, start := 4 },
   { kind := .mark .semicolon, lexeme := ";", line := 1, start := 5 },
   { kind := .finish, lexeme := "", line := 1, start := 6 }]

/-- The first declaration is read up to the parenthesis. After that the first end marker is
refused, whether the other tokens follow it or not. -/
theorem walks_markedTokens :
    (∃ last ∈ markedTokens.getLast?, last.isFinish = true) ∧
      markedTokens.findIdx Token.isFinish = 3 ∧ 13 * (3 + 1) ≤ 52 ∧
      (∃ c, (Walk.program markedTokens 52).Ends .start
        (.error (.unexpected markedTokens[3] .expression)) c ∧ c.Within 3) ∧
      (∃ c, (Walk.declaration markedTokens 52).Ends .start
        (.ok (.expr (.reference "x" markedTokens[0]) markedTokens[1])) c ∧
          0 < c.position ∧ c.Within 3) ∧
      markedTokens.take (3 + 1) <+: markedTokens.take 4 ∧
      (Walk.program (markedTokens.take 4) 52).outcome = (Walk.program markedTokens 52).outcome := by
  have ends : ∃ last ∈ markedTokens.getLast?, last.isFinish = true := ⟨_, rfl, rfl⟩
  have index : markedTokens.findIdx Token.isFinish = 3 := by decide
  obtain ⟨stream, marker, -, atMarker, confined⟩ := walks_confined markedTokens ends
  obtain rfl : 3 = marker := index.symm.trans atMarker
  obtain ⟨⟨c, ended, within⟩, -, declarations, -, -, -, -, replaced⟩ :=
    confined 52 (Nat.le_refl _)
  have refused : (Walk.program markedTokens 52).Ends .start
      (.error (.unexpected markedTokens[3] .expression)) { position := 3, past := [2, 1, 0] } := rfl
  obtain rfl := (Prod.mk.inj (refused.symm.trans ended)).2
  have answered : (Walk.declaration markedTokens 52).Ends .start
      (.ok (.expr (.reference "x" markedTokens[0]) markedTokens[1]))
      { position := 2, past := [1, 0] } := rfl
  obtain ⟨c, within', ⟨value, ended, forward⟩ | ⟨e, ended, -⟩⟩ :=
    declarations .start ⟨Nat.zero_le _, nofun⟩
  · obtain rfl := (Prod.mk.inj (answered.symm.trans ended)).2
    exact ⟨ends, index, Nat.le_refl _, ⟨_, refused, within⟩, ⟨_, answered, forward, within'⟩,
      List.prefix_refl _, (replaced _ (List.prefix_refl _)).1⟩
  · cases (Prod.mk.inj (answered.symm.trans ended)).1

end Scriptlet
