/-
Scriptlet.Proofs.Grammar.FirstError — a syntax error is found at the first token that
cannot go on.

The grammar reads along the loose grammar, in which any operand may stand left of an
equals sign. So an unexpected token is the first one that no word of the loose grammar
goes on with. A wrong target is no such token: the words of the loose grammar do go on
with its equals sign, and the error comes when the whole value right of it is read.
What stands in that value is read before, so the value is free of such errors itself.
-/
import Scriptlet.Proofs.Grammar.Recognition
import Scriptlet.Proofs.Grammar.TrackingStatement

namespace Scriptlet

open Grammar Grammar.Loose

/-! ## 1. Where a list of tokens is cut -/

/-- The stream ends at the first end marker of the list, and there is none before it. -/
theorem Stream.splitAtFinish?_eq_some {tokens : List Token} {stream : Stream}
    (split : Stream.splitAtFinish? tokens = some stream) :
    stream.finish.isFinish = true ∧ (∀ t ∈ stream.body, t.isFinish = false) ∧
      ∃ more, tokens = stream.body ++ stream.finish :: more := by
  induction tokens generalizing stream with
  | nil => cases split
  | cons t rest ih =>
    rw [Stream.splitAtFinish?] at split
    by_cases marker : t.isFinish = true
    · rw [if_pos marker] at split
      cases split
      exact ⟨marker, by simp, rest, rfl⟩
    · rw [if_neg marker] at split
      cases deeper : Stream.splitAtFinish? rest with
      | none => simp [deeper] at split
      | some inner =>
        rw [deeper] at split
        cases split
        obtain ⟨isFinish, free, more, rfl⟩ := ih deeper
        refine ⟨isFinish, ?_, more, rfl⟩
        intro u mem
        obtain rfl | mem := List.mem_cons.1 mem
        · simpa using marker
        · exact free u mem

/-- The last token is only looked at, not taken. -/
theorem Stream.ofTokens?_eq_some {tokens : List Token} {stream : Stream}
    (found : Stream.ofTokens? tokens = some stream) :
    Stream.splitAtFinish? tokens = some stream := by
  unfold Stream.ofTokens? at found
  split at found
  · split at found
    · exact found
    · cases found
  · cases found

/-! ## 2. What an error says -/

namespace Grammar.Loose

/-- The tokens before `t` are the beginning of a word of the rule, and none starts with them
and `t`. If `t` marks the end, then what stands before it is no word. -/
def FirstWrong (rule : Rule) (tokens : List Token) (t : Token) : Prop :=
  ∃ before after, tokens = before ++ t :: after ∧ (∀ u ∈ before, u.isFinish = false) ∧
    Begins rule before ∧
      if t.isFinish then ¬Word rule before else ¬Begins rule (before ++ [t])

/-- Left of `equals` stands a whole operand that means `target` and is no lone name, where an
expression is wanted; right of it a whole value, which the strict grammar derives. Up to the
end of that value the tokens are the beginning of a word of the rule. -/
def WrongTarget (rule : Rule) (tokens : List Token) (equals : Token) (target : Expr) : Prop :=
  ∃ (before after : List Token) (below : List Part) (left : Derivation (.operand 6))
    (value : Derivation .expression),
    tokens = before ++ (left.tokens ++ equals :: (value.tokens ++ after)) ∧
      (∀ u ∈ before ++ (left.tokens ++ equals :: value.tokens), u.isFinish = false) ∧
      equals.kind = .mark .equal ∧ left.tree = target ∧
      (∀ t, t.kind = .identifier → left.tokens ≠ [t]) ∧
      Takes [.rule rule] before (.rule .expression :: below) ∧
      Nonterminal.expression.Stops after ∧
      Begins rule (before ++ (left.tokens ++ equals :: value.tokens))

/-- An error is where and what it can be at the earliest. -/
def Earliest (rule : Rule) (tokens : List Token) : ParseError → Prop
  | .unexpected t _ => FirstWrong rule tokens t
  | .target equals target => WrongTarget rule tokens equals target

/-- A lone name is a plain variable, of whatever level the operand is. -/
theorem tokens_ne_name {left : Derivation (.operand 6)}
    (plain : ∀ name token, left.tree ≠ .reference name token) {t : Token}
    (kind : t.kind = .identifier) : left.tokens ≠ [t] := by
  intro lone
  let name : Derivation (.operand 6) := .ofTerm (.chain (.ofName ⟨t, kind⟩) .noOperation)
  have same : left.tree = name.tree := tree_eq_of_tokens_eq left name not_false lone
  exact plain t.name t same

/-- The words of an expression with an equals sign in it. -/
theorem takes_assignment (left : Derivation (.operand 6)) (equals : TokenOf (.mark .equal))
    (value : Derivation .expression) (stack : List Part) :
    Takes (.rule .expression :: stack) (left.tokens ++ equals.val :: value.tokens) stack := by
  refine .expand List.mem_cons_self ((takes_tokens left _).trans ?_)
  exact .expand (.tail _ List.mem_cons_self) (.tokenOf equals.property (takes_tokens value stack))

variable {rule : Rule} {stream : Stream} {tokens more : List Token}

/-- Where the loose grammar is stuck, the tokens so far begin one of its words, and no word goes on
with the next token. -/
theorem firstWrong_of_stuck {found : Token} (isFinish : stream.finish.isFinish = true)
    (free : ∀ t ∈ stream.body, t.isFinish = false)
    (stuck : Stuck stream.finish [.rule rule] stream.body found) :
    FirstWrong rule (stream.body ++ stream.finish :: more) found := by
  obtain ⟨read, left, below, body, rfl, taken, stuck⟩ := stuck
  rw [body] at free ⊢
  have freeRead : ∀ u ∈ read, u.isFinish = false :=
    fun u mem => free u (List.mem_append_left left mem)
  cases left with
  | nil =>
    refine ⟨read, more, by simp, freeRead, taken.begins, ?_⟩
    rw [List.headD_nil, if_pos isFinish]
    intro word
    exact stuck [] rfl (by rwa [List.append_nil])
  | cons t after =>
    refine ⟨read, after ++ stream.finish :: more, by simp, freeRead, taken.begins, ?_⟩
    rw [List.headD_cons, if_neg (by simp [free t (by simp)])]
    rintro ⟨others, word⟩
    refine stuck (t :: others) rfl ?_
    rwa [List.append_assoc] at word

/-- A target that is no name, with its value up to the place where the loose grammar has come. -/
theorem wrongTarget_of_misassigned {equals : Token} {target : Expr}
    (isFinish : stream.finish.isFinish = true) (free : ∀ t ∈ stream.body, t.isFinish = false)
    (wrong : Misassigned [.rule rule] stream.body equals target) :
    WrongTarget rule (stream.body ++ stream.finish :: more) equals target := by
  obtain ⟨before, after, below, left, sign, value, body, rfl, rfl, plain, taken, stops⟩ := wrong
  refine ⟨before, after ++ stream.finish :: more, below, left, value, by simp [body], ?_,
    sign.property, rfl, fun t kind => tokens_ne_name plain kind, taken, ?_, ?_⟩
  · have cut : stream.body = (before ++ (left.tokens ++ sign.val :: value.tokens)) ++ after := by
      simp [body]
    exact fun u mem => free u (cut ▸ List.mem_append_left after mem)
  · cases after with
    | nil =>
      have kind : stream.finish.kind = .finish := by simpa [Token.isFinish] using isFinish
      exact stops_expression more (by rw [kind]; rfl) (by rw [kind]; decide)
    | cons t others => exact stops
  · exact (taken.trans (takes_assignment left sign value below)).begins

theorem earliest_of_refused {e : ParseError} (isFinish : stream.finish.isFinish = true)
    (free : ∀ t ∈ stream.body, t.isFinish = false)
    (refused : Refused stream.finish [.rule rule] stream.body e) :
    Earliest rule (stream.body ++ stream.finish :: more) e := by
  cases e with
  | unexpected t wanted => exact firstWrong_of_stuck isFinish free refused
  | target equals target => exact wrongTarget_of_misassigned isFinish free refused

end Grammar.Loose

/-- Whatever the value is, it is read before the target is looked at. -/
theorem Grammar.expression_of_target {finish : Token} (left : Derivation (.operand 6))
    (plain : ∀ name token, left.tree ≠ .reference name token) (equals : TokenOf (.mark .equal))
    (rest : List Token) :
    (expression finish (left.tokens ++ equals.val :: rest)).plain =
      (expression finish rest).plain.andThen fun _ _ => .error (.target equals.val left.tree) := by
  have read : (ladder finish Operator.levels (left.tokens ++ equals.val :: rest)).plain =
      .ok (left.tree, equals.val :: rest) :=
    reads_tokens left _ (stops_operand_equal _ equals rest)
  rw [plain_expression, read, Answer.andThen_ok]
  simp only [equals.property, if_true]

/-! ## 3. The result -/

/-- A list of tokens that ends with an end marker is refused, as a program or as an
expression, with the earliest error there is: the first token that the loose grammar does not
go on with, or an operand that is no plain variable left of an equals sign, once a right value
has been read after it. -/
theorem refused_earliest (tokens : List Token)
    (ends : ∃ last ∈ tokens.getLast?, last.isFinish = true) :
    ∃ stream, Stream.ofTokens? tokens = some stream ∧
      (∀ e, Program.ofStream stream = .error e → Earliest .program tokens e) ∧
      (∀ e, Expr.ofStream stream = .error e → Earliest .expression tokens e) := by
  obtain ⟨last, final, isFinish⟩ := ends
  obtain ⟨stream, found, -⟩ := Stream.ofTokens?_of_finish final isFinish
  obtain ⟨marker, free, more, rfl⟩ :=
    Stream.splitAtFinish?_eq_some (Stream.ofTokens?_eq_some found)
  refine ⟨stream, found, fun e read => ?_, fun e read => ?_⟩
  · exact earliest_of_refused marker free (program_refused read)
  · exact earliest_of_refused marker free (expression_refused read)

/-- The tokens of `1 = 2 = x;` with their end marker. -/
def mistakenTokens : List Token :=
  [{ kind := .number, lexeme := "1", line := 1, start := 0 },
   { kind := .mark .equal, lexeme := "=", line := 1, start := 2 },
   { kind := .number, lexeme := "2", line := 1, start := 4 },
   { kind := .mark .equal, lexeme := "=", line := 1, start := 6 },
   { kind := .identifier, lexeme := "x", line := 1, start := 8 },
   { kind := .mark .semicolon, lexeme := ";", line := 1, start := 9 },
   { kind := .finish, lexeme := "", line := 1, start := 10 }]

def Grammar.Derivation.ofNumber (number : TokenOf .number) : Derivation (.operand 6) :=
  .ofTerm (.chain (.chain (.primary (.numberLiteral number)) .noOperation) .noOperation)

theorem Grammar.expression_of_number {finish : Token} (number : TokenOf .number)
    (equals : TokenOf (.mark .equal)) (rest : List Token) :
    (expression finish (number.val :: equals.val :: rest)).plain =
      (expression finish rest).plain.andThen fun _ _ =>
        .error (.target equals.val (.literal number.val.payload number.val)) :=
  expression_of_target (.ofNumber number) (fun _ _ same => nomatch same) equals rest

/-- Of the two targets that are wrong the right one is found first. -/
theorem program_mistakenTokens (finish : Token) :
    program finish (mistakenTokens.take 6) =
      .error (.target mistakenTokens[3] (.literal .nil mistakenTokens[2])) := by
  let x : Derivation .expression :=
    .disjunction (.ofTerm (.chain (.ofName ⟨mistakenTokens[4], rfl⟩) .noOperation))
  have value : (expression finish [mistakenTokens[4], mistakenTokens[5]]).plain =
      .ok (x.tree, [mistakenTokens[5]]) :=
    reads_tokens x _ (stops_expression_semicolon ⟨_, rfl⟩ [])
  have whole : (expression finish (mistakenTokens.take 6)).plain =
      .error (.target mistakenTokens[3] (.literal .nil mistakenTokens[2])) := by
    rw [show mistakenTokens.take 6 = mistakenTokens[0] :: mistakenTokens[1] ::
        mistakenTokens[2] :: mistakenTokens[3] :: [mistakenTokens[4], mistakenTokens[5]] from rfl,
      expression_of_number ⟨mistakenTokens[0], rfl⟩ ⟨mistakenTokens[1], rfl⟩,
      expression_of_number ⟨mistakenTokens[2], rfl⟩ ⟨mistakenTokens[3], rfl⟩, value]
    rfl
  have statement : (declaration finish (mistakenTokens.take 6)).plain =
      .error (.target mistakenTokens[3] (.literal .nil mistakenTokens[2])) := by
    refine (plain_declaration_cons _ _).trans ?_
    show (expressionStatement finish (mistakenTokens.take 6)).plain = _
    rw [plain_expressionStatement, whole]
    rfl
  refine (program_cons _ _).trans ?_
  show (declaration finish (mistakenTokens.take 6)).plain.andThen _ = _
  rw [statement]
  rfl

/-- Both targets are wrong, and the one on the right is blamed. -/
theorem refused_mistakenTokens :
    (∃ last ∈ mistakenTokens.getLast?, last.isFinish = true) ∧
      ∃ stream, Stream.ofTokens? mistakenTokens = some stream ∧
        Program.ofStream stream =
          .error (.target mistakenTokens[3] (.literal .nil mistakenTokens[2])) ∧
        WrongTarget .program mistakenTokens mistakenTokens[3]
          (.literal .nil mistakenTokens[2]) := by
  have ends : ∃ last ∈ mistakenTokens.getLast?, last.isFinish = true := ⟨_, rfl, rfl⟩
  obtain ⟨stream, found, programs, -⟩ := refused_earliest mistakenTokens ends
  have cut : Stream.ofTokens? mistakenTokens =
      some { body := mistakenTokens.take 6, finish := mistakenTokens[6] } := rfl
  rw [cut] at found
  cases found
  exact ⟨ends, _, cut, program_mistakenTokens _, programs _ (program_mistakenTokens _)⟩

end Scriptlet
