/-
Scriptlet.Proofs.Layout.Reading — the grammar reads exchanged tokens as it reads those
that they are exchanged for.

Where tokens agree in what the grammar looks at (`Token.Keeps`), it takes the same
steps on them: it answers the tree with each token exchanged and leaves as many tokens,
or it refuses the token at the same place, and wants the same there. That the trees
correspond follows from the derivations already; the refusals have none, so this goes
through the rules themselves, with one lemma for each, by their own recursion.
-/
import Scriptlet.Proofs.Grammar.Completeness
import Scriptlet.Proofs.Grammar.Mapped

namespace Scriptlet

def ParseError.mapTokens (f : Token → Token) : ParseError → ParseError
  | .unexpected found wanted => .unexpected (f found) wanted
  | .target equals left => .target (f equals) (left.mapTokens f)

theorem ParseError.token_mapTokens (f : Token → Token) (e : ParseError) :
    (e.mapTokens f).token = f e.token := by
  cases e <;> rfl

theorem Token.Keeps.isFinish {f : Token → Token} (keeps : Token.Keeps f) (t : Token) :
    (f t).isFinish = t.isFinish := by
  rw [Token.isFinish, Token.isFinish, keeps.kind]

/-- The wording of an error depends on kinds and lexemes only. -/
theorem ParseError.message_mapTokens {f : Token → Token} (keeps : Token.Keeps f)
    (e : ParseError) : (e.mapTokens f).message = e.message := by
  cases e with
  | unexpected found wanted => simp only [mapTokens, message, keeps.isFinish, keeps.lexeme]
  | target equals left => rfl

/-- Whether a token writes out a value, and which one, is among what is kept. -/
theorem Value.ofToken?_of_keeps {f : Token → Token} (keeps : Token.Keeps f) (t : Token) :
    Value.ofToken? (f t) = Value.ofToken? t := by
  rw [Value.ofToken?, Value.ofToken?, keeps.kind, keeps.payload]

namespace Grammar

/-! ## 1. Answers -/

/-- The answer with each token exchanged, and with a change to its value. -/
def Answer.mapTokens {α : Type} (f : Token → Token) (g : α → α) : Answer α → Answer α
  | .ok (value, rest) => .ok (g value, rest.map f)
  | .error e => .error (e.mapTokens f)

/-- To exchange the tokens in two answers one after the other is to exchange them in both. -/
theorem Answer.andThen_mapTokens {α β : Type} {f : Token → Token} {g : α → α} {h : β → β}
    {a : Answer α} {next next' : α → List Token → Answer β}
    (same : ∀ value rest, a = .ok (value, rest) →
      next' (g value) (rest.map f) = (next value rest).mapTokens f h) :
    (a.mapTokens f g).andThen next' = Answer.mapTokens f h (a.andThen next) := by
  match a with
  | .ok (value, rest) => exact same value rest rfl
  | .error e => rfl

variable {f : Token → Token} {finish : Token}

/-- Whether a token is the expected one depends on its kind. -/
theorem expect_mapTokens (keeps : Token.Keeps f) (kind : Token.Kind) (wanted : Wanted)
    (ts : List Token) :
    (expect (f finish) kind wanted (ts.map f)).plain =
      (expect finish kind wanted ts).plain.mapTokens f f := by
  cases ts with
  | nil => rfl
  | cons t rest =>
    rw [List.map_cons, plain_expect_cons, plain_expect_cons, keeps.kind]
    split <;> rfl

/-! ## 2. Expressions -/

mutual

/-- Rule by rule: a rule on exchanged tokens answers what it answers on the tokens, exchanged. An
expression comes first, then what it is made of. -/
theorem expression_mapTokens (keeps : Token.Keeps f) (ts : List Token) :
    (expression (f finish) (ts.map f)).plain =
      (expression finish ts).plain.mapTokens f (Expr.mapTokens f) := by
  rw [plain_expression, plain_expression, ladder_mapTokens keeps]
  refine Answer.andThen_mapTokens fun left mid readLeft => ?_
  have shorter := plain_shorter readLeft
  cases mid with
  | nil => rfl
  | cons equals after =>
    have longer : after.length < ts.length := Nat.lt_of_succ_lt shorter
    simp only [List.map_cons, keeps.kind]
    split
    · rw [expression_mapTokens keeps after]
      refine Answer.andThen_mapTokens fun right rest _ => ?_
      cases left <;> rfl
    · rfl
termination_by (ts.length, Operator.levels + 2)
decreasing_by all_goals (rw [Prod.lex_def]; omega)

theorem ladder_mapTokens (keeps : Token.Keeps f) (level : Nat) (ts : List Token) :
    (ladder (f finish) level (ts.map f)).plain =
      (ladder finish level ts).plain.mapTokens f (Expr.mapTokens f) := by
  cases level with
  | zero =>
    rw [plain_ladder_zero, plain_ladder_zero]
    exact unary_mapTokens keeps ts
  | succ level =>
    rw [plain_ladder_succ, plain_ladder_succ, ladder_mapTokens keeps level ts]
    refine Answer.andThen_mapTokens fun first mid readFirst => ?_
    have shorter := plain_shorter readFirst
    exact chain_mapTokens keeps level first mid
termination_by (ts.length, level + 1)
decreasing_by all_goals (rw [Prod.lex_def]; omega)

/-- A repetition gets its left operand with the tokens exchanged too. -/
theorem chain_mapTokens (keeps : Token.Keeps f) (level : Nat) (left : Expr) (ts : List Token) :
    Extended.plain (chain (f finish) level (left.mapTokens f) (ts.map f)) =
      Answer.mapTokens f (Expr.mapTokens f) (Extended.plain (chain finish level left ts)) := by
  cases ts with
  | nil =>
    rw [List.map_nil, plain_chain_nil, plain_chain_nil]
    rfl
  | cons sign after =>
    rw [List.map_cons, plain_chain_cons, plain_chain_cons, keeps.kind]
    split
    · rfl
    · next op found =>
      rw [ladder_mapTokens keeps level after]
      refine Answer.andThen_mapTokens fun right mid readRight => ?_
      have shorter := plain_shorter readRight
      rw [← mapTokens_join]
      exact chain_mapTokens keeps level _ mid
termination_by (ts.length, 0)
decreasing_by all_goals (rw [Prod.lex_def, List.length_cons]; omega)

theorem unary_mapTokens (keeps : Token.Keeps f) (ts : List Token) :
    (unary (f finish) (ts.map f)).plain =
      (unary finish ts).plain.mapTokens f (Expr.mapTokens f) := by
  cases ts with
  | nil =>
    rw [List.map_nil, plain_unary_nil, plain_unary_nil]
    rfl
  | cons t after =>
    rw [List.map_cons, plain_unary_cons, plain_unary_cons, keeps.kind]
    split
    · rw [unary_mapTokens keeps after]
      exact Answer.andThen_mapTokens fun _ _ _ => rfl
    · exact primary_mapTokens keeps t after
termination_by (ts.length, 0)
decreasing_by all_goals (rw [Prod.lex_def, List.length_cons]; omega)

theorem primary_mapTokens (keeps : Token.Keeps f) (t : Token) (after : List Token) :
    (primary (f finish) (f t) (after.map f)).plain =
      (primary finish t after).plain.mapTokens f (Expr.mapTokens f) := by
  rw [plain_primary, plain_primary, Value.ofToken?_of_keeps keeps, keeps.kind, keeps.name]
  split
  · rfl
  · split
    · rfl
    · rw [expression_mapTokens keeps after]
      refine Answer.andThen_mapTokens fun inner mid _ => ?_
      rw [expect_mapTokens keeps]
      exact Answer.andThen_mapTokens fun _ _ _ => rfl
    · rfl
termination_by (after.length, Operator.levels + 3)
decreasing_by all_goals (rw [Prod.lex_def]; omega)

end

/-! ## 3. Statements -/

/-- The rules of declarations and statements, each by the rules it goes through. -/
theorem firstValue_mapTokens (keeps : Token.Keeps f) (ts : List Token) :
    Extended.plain (firstValue (f finish) (ts.map f)) =
      Answer.mapTokens f (Option.map (Expr.mapTokens f))
        (Extended.plain (firstValue finish ts)) := by
  cases ts with
  | nil => rfl
  | cons t after =>
    rw [List.map_cons, plain_firstValue_cons, plain_firstValue_cons, keeps.kind]
    split
    · rw [expression_mapTokens keeps]
      exact Answer.andThen_mapTokens fun _ _ _ => rfl
    · rfl

theorem afterVar_mapTokens (keeps : Token.Keeps f) (keyword : Token) (ts : List Token) :
    (afterVar (f finish) (f keyword) (ts.map f)).plain =
      (afterVar finish keyword ts).plain.mapTokens f (Stmt.mapTokens f) := by
  rw [plain_afterVar, plain_afterVar, expect_mapTokens keeps]
  refine Answer.andThen_mapTokens fun name mid _ => ?_
  rw [firstValue_mapTokens keeps]
  refine Answer.andThen_mapTokens fun value mid _ => ?_
  rw [expect_mapTokens keeps]
  refine Answer.andThen_mapTokens fun semicolon rest _ => ?_
  rw [keeps.name]
  rfl

theorem afterPrint_mapTokens (keeps : Token.Keeps f) (keyword : Token) (ts : List Token) :
    (afterPrint (f finish) (f keyword) (ts.map f)).plain =
      (afterPrint finish keyword ts).plain.mapTokens f (Stmt.mapTokens f) := by
  rw [plain_afterPrint, plain_afterPrint, expression_mapTokens keeps]
  refine Answer.andThen_mapTokens fun e mid _ => ?_
  rw [expect_mapTokens keeps]
  exact Answer.andThen_mapTokens fun _ _ _ => rfl

theorem expressionStatement_mapTokens (keeps : Token.Keeps f) (ts : List Token) :
    (expressionStatement (f finish) (ts.map f)).plain =
      (expressionStatement finish ts).plain.mapTokens f (Stmt.mapTokens f) := by
  rw [plain_expressionStatement, plain_expressionStatement, expression_mapTokens keeps]
  refine Answer.andThen_mapTokens fun e mid _ => ?_
  rw [expect_mapTokens keeps]
  exact Answer.andThen_mapTokens fun _ _ _ => rfl

/-- The message of a missing parenthesis names the keyword by its lexeme, which is kept. -/
theorem condition_mapTokens (keeps : Token.Keeps f) (keyword : Token) (ts : List Token) :
    (condition (f finish) (f keyword) (ts.map f)).plain =
      (condition finish keyword ts).plain.mapTokens f (Expr.mapTokens f) := by
  rw [plain_condition, plain_condition, keeps.lexeme, expect_mapTokens keeps]
  refine Answer.andThen_mapTokens fun opening mid _ => ?_
  rw [expression_mapTokens keeps]
  refine Answer.andThen_mapTokens fun e mid _ => ?_
  rw [expect_mapTokens keeps]
  exact Answer.andThen_mapTokens fun _ _ _ => rfl

theorem mapTokens_conditional (keyword : Token) (test : Expr) (thenBlock : Block Stmt)
    (otherwise : Option (Block Stmt)) :
    (conditional keyword test thenBlock otherwise).mapTokens f =
      conditional (f keyword) (test.mapTokens f) (Stmt.mapBlock f thenBlock)
        (otherwise.map (Stmt.mapBlock f)) := by
  cases otherwise <;> rfl

mutual

/-- The kind of the first token decides, and is kept. -/
theorem declaration_mapTokens (keeps : Token.Keeps f) (ts : List Token) :
    (declaration (f finish) (ts.map f)).plain =
      (declaration finish ts).plain.mapTokens f (Stmt.mapTokens f) := by
  cases ts with
  | nil =>
    rw [List.map_nil, plain_declaration_nil, plain_declaration_nil]
    exact expressionStatement_mapTokens keeps []
  | cons t after =>
    rw [List.map_cons, plain_declaration_cons, plain_declaration_cons, keeps.kind]
    split
    · exact afterVar_mapTokens keeps t after
    · exact afterPrint_mapTokens keeps t after
    · rw [condition_mapTokens keeps]
      refine Answer.andThen_mapTokens fun test mid readTest => ?_
      have shorter := plain_shorter readTest
      rw [block_mapTokens keeps mid]
      refine Answer.andThen_mapTokens fun thenBlock mid' readThen => ?_
      have shorterThen := plain_shorter readThen
      rw [elseBlock_mapTokens keeps mid']
      refine Answer.andThen_mapTokens fun otherwise rest _ => ?_
      rw [Answer.mapTokens, mapTokens_conditional]
    · rw [condition_mapTokens keeps]
      refine Answer.andThen_mapTokens fun test mid readTest => ?_
      have shorter := plain_shorter readTest
      rw [block_mapTokens keeps mid]
      exact Answer.andThen_mapTokens fun _ _ _ => rfl
    · rw [← List.map_cons, block_mapTokens keeps (t :: after)]
      exact Answer.andThen_mapTokens fun _ _ _ => rfl
    · exact expressionStatement_mapTokens keeps (t :: after)
termination_by (ts.length, 1)
decreasing_by all_goals (rw [Prod.lex_def, List.length_cons]; omega)

theorem block_mapTokens (keeps : Token.Keeps f) (ts : List Token) :
    (block (f finish) (ts.map f)).plain =
      (block finish ts).plain.mapTokens f (Stmt.mapBlock f) := by
  rw [plain_block, plain_block, expect_mapTokens keeps]
  refine Answer.andThen_mapTokens fun opening mid readOpening => ?_
  have shorter := plain_shorter readOpening
  rw [declarations_mapTokens keeps mid]
  exact Answer.andThen_mapTokens fun _ _ _ => rfl
termination_by (ts.length, 0)
decreasing_by all_goals (rw [Prod.lex_def]; omega)

theorem declarations_mapTokens (keeps : Token.Keeps f) (ts : List Token) :
    (declarations (f finish) (ts.map f)).plain =
      (declarations finish ts).plain.mapTokens f (Prod.map (Stmt.mapAll f) f) := by
  cases ts with
  | nil =>
    rw [List.map_nil, plain_declarations_nil, plain_declarations_nil]
    rfl
  | cons t after =>
    rw [List.map_cons, plain_declarations_cons, plain_declarations_cons, keeps.kind]
    split
    · rfl
    · rw [← List.map_cons, declaration_mapTokens keeps (t :: after)]
      refine Answer.andThen_mapTokens fun first mid readFirst => ?_
      have shorter := plain_shorter readFirst
      rw [declarations_mapTokens keeps mid]
      exact Answer.andThen_mapTokens fun _ _ _ => rfl
termination_by (ts.length, 2)
decreasing_by all_goals (rw [Prod.lex_def]; omega)

theorem elseBlock_mapTokens (keeps : Token.Keeps f) (ts : List Token) :
    Extended.plain (elseBlock (f finish) (ts.map f)) =
      Answer.mapTokens f (Option.map (Stmt.mapBlock f))
        (Extended.plain (elseBlock finish ts)) := by
  cases ts with
  | nil =>
    rw [List.map_nil, plain_elseBlock_nil, plain_elseBlock_nil]
    rfl
  | cons t after =>
    rw [List.map_cons, plain_elseBlock_cons, plain_elseBlock_cons, keeps.kind]
    split
    · rw [block_mapTokens keeps after]
      exact Answer.andThen_mapTokens fun _ _ _ => rfl
    · rfl
termination_by (ts.length, 0)
decreasing_by all_goals (rw [Prod.lex_def, List.length_cons]; omega)

end

/-! ## 4. Whole streams -/

theorem program_mapTokens (keeps : Token.Keeps f) (ts : List Token) :
    program (f finish) (ts.map f) =
      match program finish ts with
      | .ok p => .ok (Stmt.mapAll f p)
      | .error e => .error (e.mapTokens f) := by
  cases ts with
  | nil =>
    rw [List.map_nil, program_nil, program_nil]
    rfl
  | cons t after =>
    rw [List.map_cons, program_cons, program_cons, ← List.map_cons, declaration_mapTokens keeps]
    cases readFirst : (declaration finish (t :: after)).plain with
    | error e => rfl
    | ok answer =>
      obtain ⟨first, mid⟩ := answer
      have shorter := plain_shorter readFirst
      rw [Answer.mapTokens, Answer.andThen_ok, Answer.andThen_ok, program_mapTokens keeps mid]
      cases program finish mid <;> rfl
termination_by ts.length
decreasing_by exact shorter

end Grammar

def Stream.mapTokens (f : Token → Token) (stream : Stream) : Stream :=
  { body := stream.body.map f, finish := f stream.finish }

/-- An exchanged stream is read as the exchanged program, or refused with the exchanged error. -/
theorem Program.ofStream_mapTokens {f : Token → Token} (keeps : Token.Keeps f) (stream : Stream) :
    Program.ofStream (stream.mapTokens f) =
      match Program.ofStream stream with
      | .ok p => .ok (Stmt.mapAll f p)
      | .error e => .error (e.mapTokens f) :=
  Grammar.program_mapTokens keeps stream.body

end Scriptlet
