/-
Scriptlet.Proofs.Grammar.Rules — the rules of the grammar on plain lists of
tokens.

A rule answers with a proof that it has read something, which its recursion
needs and nothing else does. `Reading.plain` forgets that proof, and each rule
has an equation for its plain answer, in which no proof occurs any more. All
that is said about the grammar is said of plain answers, from these equations.

What the forgotten proof says is kept in one place, `plain_shorter`, for the
recursions of the proofs to come.
-/
import Scriptlet.Grammar.Statement

namespace Scriptlet.Grammar

abbrev Answer (α : Type) := Except ParseError (α × List Token)

/-- The answer of a rule that reads something. -/
def Reading.plain {α : Type} {ts : List Token} : Reading α ts → Answer α
  | .ok p => .ok (p.value, p.rest)
  | .error e => .error e

/-- The answer of a rule that may read nothing. -/
def Extended.plain {α : Type} {ts : List Token} : Except ParseError (Extended α ts) → Answer α
  | .ok p => .ok (p.value, p.rest)
  | .error e => .error e

def Answer.andThen {α β : Type} (a : Answer α) (next : α → List Token → Except ParseError β) :
    Except ParseError β :=
  match a with
  | .ok (value, rest) => next value rest
  | .error e => .error e

variable {α β : Type} {ts rest : List Token} {value : α} {finish : Token}

/-- A rule that reads something has fewer tokens left. -/
theorem plain_shorter {r : Reading α ts} (h : r.plain = .ok (value, rest)) :
    rest.length < ts.length := by
  cases r with
  | error e => simp [Reading.plain] at h
  | ok p =>
    simp only [Reading.plain, Except.ok.injEq, Prod.mk.injEq] at h
    obtain ⟨-, rfl⟩ := h
    exact p.shorter

/-- The right side is read before the left side is looked at, which must be a plain name. -/
theorem plain_expression (ts : List Token) :
    (expression finish ts).plain =
      (ladder finish Operator.levels ts).plain.andThen fun left rest =>
        match rest with
        | [] => .ok (left, [])
        | equals :: after =>
          if equals.kind = .mark .equal then
            (expression finish after).plain.andThen fun right rest =>
              match left with
              | .reference name token => .ok (.assign name token right, rest)
              | target => .error (.target equals target)
          else .ok (left, equals :: after) := by
  rw [expression]
  cases ladder finish Operator.levels ts with
  | error e => rfl
  | ok left =>
    obtain ⟨left, rest, shorter⟩ := left
    cases rest with
    | nil => rfl
    | cons equals after =>
      by_cases h : equals.kind = .mark .equal
      · simp only [bind, Except.bind, Reading.plain, Answer.andThen, h, if_true]
        cases expression finish after with
        | error e => rfl
        | ok right => cases left <;> rfl
      · simp only [bind, Except.bind, Reading.plain, Answer.andThen, h, if_false]
        rfl

/-- The ladder ends at the operand without an operator. -/
theorem plain_ladder_zero (ts : List Token) :
    (ladder finish 0 ts).plain = (unary finish ts).plain := by
  rw [ladder]

/-- One step up the ladder: an operand, and the operators of the level. -/
theorem plain_ladder_succ (level : Nat) (ts : List Token) :
    (ladder finish (level + 1) ts).plain =
      (ladder finish level ts).plain.andThen fun first rest =>
        Extended.plain (chain finish level first rest) := by
  rw [ladder]
  cases ladder finish level ts with
  | error e => rfl
  | ok first =>
    simp only [bind, Except.bind, Reading.plain, Answer.andThen]
    cases chain finish level first.value first.rest <;> rfl

theorem plain_chain_nil (level : Nat) (left : Expr) :
    Extended.plain (chain finish level left []) = .ok (left, []) := by
  rw [chain]
  rfl

/-- A chain goes on as long as operators of its level follow, and folds to the left. -/
theorem plain_chain_cons (level : Nat) (left : Expr) (sign : Token) (after : List Token) :
    Extended.plain (chain finish level left (sign :: after)) =
      match Operator.atLevel? level sign.kind with
      | none => .ok (left, sign :: after)
      | some op =>
        (ladder finish level after).plain.andThen fun right rest =>
          Extended.plain (chain finish level (op.join left sign right) rest) := by
  rw [chain]
  cases Operator.atLevel? level sign.kind with
  | none => rfl
  | some op =>
    cases ladder finish level after with
    | error e => rfl
    | ok right =>
      simp only [bind, Except.bind, Reading.plain, Answer.andThen]
      cases chain finish level (op.join left sign right.value) right.rest <;> rfl

theorem plain_unary_nil : (unary finish []).plain = .error (.unexpected finish .expression) := by
  rw [unary]
  rfl

/-- Signs before an operand nest to the right. -/
theorem plain_unary_cons (t : Token) (after : List Token) :
    (unary finish (t :: after)).plain =
      match UnaryOp.ofKind? t.kind with
      | some op =>
        (unary finish after).plain.andThen fun operand rest => .ok (.unary op t operand, rest)
      | none => (primary finish t after).plain := by
  rw [unary]
  cases UnaryOp.ofKind? t.kind with
  | none => rfl
  | some op => cases unary finish after <;> rfl

theorem plain_expect_cons (kind : Token.Kind) (wanted : Wanted) (t : Token) (rest : List Token) :
    (expect finish kind wanted (t :: rest)).plain =
      if t.kind = kind then .ok (t, rest) else .error (.unexpected t wanted) := by
  by_cases h : t.kind = kind <;> simp [expect, Reading.plain, h]

/-- A literal, a name, or an expression in parentheses. -/
theorem plain_primary (t : Token) (after : List Token) :
    (primary finish t after).plain =
      match Value.ofToken? t with
      | some value => .ok (.literal value t, after)
      | none =>
        match t.kind with
        | .identifier => .ok (.reference t.name t, after)
        | .mark .leftParen =>
          (expression finish after).plain.andThen fun inner rest =>
            (expect finish (.mark .rightParen) .closingAfterExpression rest).plain.andThen
              fun closing rest => .ok (.grouping t inner closing, rest)
        | _ => .error (.unexpected t .expression) := by
  rw [primary]
  cases Value.ofToken? t with
  | some value => rfl
  | none =>
    cases h : t.kind with
    | identifier => rfl
    | mark m =>
      cases m with
      | leftParen =>
        cases expression finish after with
        | error e => rfl
        | ok inner =>
          simp only [bind, Except.bind, Reading.plain, Answer.andThen]
          cases expect finish (.mark .rightParen) .closingAfterExpression inner.rest <;> rfl
      | _ => rfl
    | _ => rfl

/-- A declared variable has a first value exactly if an equals sign follows its name. -/
theorem plain_firstValue_cons (t : Token) (after : List Token) :
    Extended.plain (firstValue finish (t :: after)) =
      if t.kind = .mark .equal then
        (expression finish after).plain.andThen fun e rest => .ok (some e, rest)
      else .ok (none, t :: after) := by
  by_cases h : t.kind = .mark .equal
  · simp only [firstValue, h, if_true]
    cases expression finish after <;> rfl
  · simp only [firstValue, h, if_false]
    rfl

/-- The name, its first value if there is one, and the semicolon. -/
theorem plain_afterVar (keyword : Token) (ts : List Token) :
    (afterVar finish keyword ts).plain =
      (expect finish .identifier .variableName ts).plain.andThen fun name rest =>
        (Extended.plain (firstValue finish rest)).andThen fun value rest =>
          (expect finish (.mark .semicolon) .semicolonAfterDeclaration rest).plain.andThen
            fun semicolon rest => .ok (.declare keyword name.name name value semicolon, rest) := by
  unfold afterVar
  cases expect finish .identifier .variableName ts with
  | error e => rfl
  | ok name =>
    simp only [bind, Except.bind, Reading.plain, Answer.andThen]
    cases firstValue finish name.rest with
    | error e => rfl
    | ok value =>
      simp only [Extended.plain]
      cases expect finish (.mark .semicolon) .semicolonAfterDeclaration value.rest <;> rfl

theorem plain_afterPrint (keyword : Token) (ts : List Token) :
    (afterPrint finish keyword ts).plain =
      (expression finish ts).plain.andThen fun e rest =>
        (expect finish (.mark .semicolon) .semicolonAfterValue rest).plain.andThen
          fun semicolon rest => .ok (.print keyword e semicolon, rest) := by
  unfold afterPrint
  cases expression finish ts with
  | error e => rfl
  | ok e =>
    simp only [bind, Except.bind, Reading.plain, Answer.andThen]
    cases expect finish (.mark .semicolon) .semicolonAfterValue e.rest <;> rfl

theorem plain_expressionStatement (ts : List Token) :
    (expressionStatement finish ts).plain =
      (expression finish ts).plain.andThen fun e rest =>
        (expect finish (.mark .semicolon) .semicolonAfterExpression rest).plain.andThen
          fun semicolon rest => .ok (.expr e semicolon, rest) := by
  unfold expressionStatement
  cases expression finish ts with
  | error e => rfl
  | ok e =>
    simp only [bind, Except.bind, Reading.plain, Answer.andThen]
    cases expect finish (.mark .semicolon) .semicolonAfterExpression e.rest <;> rfl

/-- The message of a missing parenthesis names the keyword. -/
theorem plain_condition (keyword : Token) (ts : List Token) :
    (condition finish keyword ts).plain =
      (expect finish (.mark .leftParen) (.openingAfter keyword.lexeme) ts).plain.andThen
        fun _ rest =>
          (expression finish rest).plain.andThen fun e rest =>
            (expect finish (.mark .rightParen) .closingAfterCondition rest).plain.andThen
              fun _ rest => .ok (e, rest) := by
  unfold condition
  cases expect finish (.mark .leftParen) (.openingAfter keyword.lexeme) ts with
  | error e => rfl
  | ok opening =>
    simp only [bind, Except.bind, Reading.plain, Answer.andThen]
    cases expression finish opening.rest with
    | error e => rfl
    | ok e =>
      simp only
      cases expect finish (.mark .rightParen) .closingAfterCondition e.rest <;> rfl

theorem plain_block (ts : List Token) :
    (block finish ts).plain =
      (expect finish (.mark .leftBrace) .blockStart ts).plain.andThen fun opening rest =>
        (declarations finish rest).plain.andThen fun inside rest =>
          .ok ({ opening, body := inside.1, closing := inside.2 }, rest) := by
  rw [block]
  cases expect finish (.mark .leftBrace) .blockStart ts with
  | error e => rfl
  | ok opening =>
    simp only [bind, Except.bind, Reading.plain, Answer.andThen]
    cases declarations finish opening.rest <;> rfl

theorem plain_elseBlock_nil : Extended.plain (elseBlock finish []) = .ok (none, []) := by
  rw [elseBlock]
  rfl

/-- Only the word `else` goes on with an `if`. -/
theorem plain_elseBlock_cons (t : Token) (after : List Token) :
    Extended.plain (elseBlock finish (t :: after)) =
      if t.kind = .keyword .elseWord then
        (block finish after).plain.andThen fun b rest => .ok (some b, rest)
      else .ok (none, t :: after) := by
  rw [elseBlock]
  split
  · cases block finish after <;> rfl
  · rfl

theorem plain_declarations_nil :
    (declarations finish []).plain = .error (.unexpected finish .blockEnd) := by
  rw [declarations]
  rfl

/-- The closing brace is looked for before each declaration. -/
theorem plain_declarations_cons (t : Token) (after : List Token) :
    (declarations finish (t :: after)).plain =
      if t.kind = .mark .rightBrace then .ok (([], t), after)
      else
        (declaration finish (t :: after)).plain.andThen fun first rest =>
          (declarations finish rest).plain.andThen fun others rest =>
            .ok ((first :: others.1, others.2), rest) := by
  rw [declarations]
  split
  · rfl
  · cases declaration finish (t :: after) with
    | error e => rfl
    | ok first =>
      simp only [bind, Except.bind, Reading.plain, Answer.andThen]
      cases declarations finish first.rest <;> rfl

/-- The statement that an `if` is, with or without a block after `else`. -/
def conditional (keyword : Token) (test : Expr) (thenBlock : Block Stmt) :
    Option (Block Stmt) → Stmt
  | none => .ifThen keyword test thenBlock
  | some other => .ifElse keyword test thenBlock other

theorem plain_declaration_nil : (declaration finish []).plain =
    (expressionStatement finish []).plain := by
  rw [declaration]

/-- The first token decides which statement it is. -/
theorem plain_declaration_cons (t : Token) (after : List Token) :
    (declaration finish (t :: after)).plain =
      match t.kind with
      | .keyword .varWord => (afterVar finish t after).plain
      | .keyword .printWord => (afterPrint finish t after).plain
      | .keyword .ifWord =>
        (condition finish t after).plain.andThen fun test rest =>
          (block finish rest).plain.andThen fun thenBlock rest =>
            (Extended.plain (elseBlock finish rest)).andThen fun otherwise rest =>
              .ok (conditional t test thenBlock otherwise, rest)
      | .keyword .whileWord =>
        (condition finish t after).plain.andThen fun test rest =>
          (block finish rest).plain.andThen fun body rest => .ok (.loop t test body, rest)
      | .mark .leftBrace =>
        (block finish (t :: after)).plain.andThen fun b rest => .ok (.block b, rest)
      | _ => (expressionStatement finish (t :: after)).plain := by
  rw [declaration]
  cases h : t.kind with
  | keyword word =>
    cases word with
    | varWord => cases afterVar finish t after <;> rfl
    | printWord => cases afterPrint finish t after <;> rfl
    | ifWord =>
      cases condition finish t after with
      | error e => rfl
      | ok test =>
        simp only [bind, Except.bind, Reading.plain, Answer.andThen]
        cases block finish test.rest with
        | error e => rfl
        | ok thenBlock =>
          simp only
          cases elseBlock finish thenBlock.rest with
          | error e => rfl
          | ok otherwise =>
            obtain ⟨value, rest, noLonger⟩ := otherwise
            cases value <;> rfl
    | whileWord =>
      cases condition finish t after with
      | error e => rfl
      | ok test =>
        simp only [bind, Except.bind, Reading.plain, Answer.andThen]
        cases block finish test.rest <;> rfl
    | _ => rfl
  | mark m =>
    cases m with
    | leftBrace => cases block finish (t :: after) <;> rfl
    | _ => rfl
  | _ => rfl

theorem program_nil : program finish [] = .ok [] := by
  rw [program]
  rfl

theorem program_cons (t : Token) (after : List Token) :
    program finish (t :: after) =
      (declaration finish (t :: after)).plain.andThen fun first rest =>
        match program finish rest with
        | .ok others => .ok (first :: others)
        | .error e => .error e := by
  rw [program]
  cases declaration finish (t :: after) with
  | error e => rfl
  | ok first =>
    simp only [bind, Except.bind, Reading.plain, Answer.andThen]
    cases program finish first.rest <;> rfl

/-- Tokens left after an expression are refused, the first of them being to blame. -/
theorem ofStream_expr (stream : Stream) :
    Expr.ofStream stream =
      (expression stream.finish stream.body).plain.andThen fun e rest =>
        match rest with
        | [] => .ok e
        | t :: _ => .error (.unexpected t .endOfInput) := by
  unfold Expr.ofStream
  cases expression stream.finish stream.body with
  | error e => rfl
  | ok parsed =>
    obtain ⟨value, rest, shorter⟩ := parsed
    cases rest <;> rfl

end Scriptlet.Grammar
