/-
Scriptlet.Proofs.Cursor.Agreement — reading by position comes to what the grammar answers.

`Walk.Reaches` says it of one rule: wherever the cursor stands within a stream, the reading
by position ends as the rule of `Scriptlet.Grammar` answers on the tokens left there, and on
its way the cursor has stood on those tokens and on the end marker only. One lemma for each
way to put readings together carries this through a rule.

How deep the rules may nest is bounded by what the grammar counts down, the tokens left and the
rank of the rule, put into one number: `13 * tokens + rank`, where no rank is above 13.
-/
import Scriptlet.Proofs.Cursor.Reader
import Scriptlet.Proofs.Grammar.FirstError

namespace Scriptlet

open Grammar

/-- The list of tokens starts with the stream, its first end marker included. -/
structure Stream.Heads (stream : Stream) (tokens : List Token) : Prop where
  marker : stream.finish.isFinish = true
  free : ∀ t ∈ stream.body, t.isFinish = false
  cut : ∃ more, tokens = stream.body ++ stream.finish :: more

/-- The cursor neither stands nor has stood past a position. -/
structure Cursor.Within (c : Cursor) (last : Nat) : Prop where
  position : c.position ≤ last
  past : ∀ i ∈ c.past, i ≤ last

/-- A step to a position that is still allowed. -/
theorem Cursor.Within.next {c : Cursor} {last : Nat} (within : c.Within last)
    (lt : c.position < last) : c.next.Within last :=
  ⟨lt, List.forall_mem_cons.mpr ⟨within.position, within.past⟩⟩

/-- To go on with a reading and then change what it answers is to go on with both. -/
theorem Grammar.Answer.map_andThen {α β γ : Type} (a : Grammar.Answer α)
    (next : α → List Token → Except ParseError β) (f : β → γ) :
    (a.andThen next).map f = a.andThen fun value rest => (next value rest).map f := by
  cases a <;> rfl

namespace Walk

variable {α β : Type} {stream : Stream} {tokens ts : List Token}

/-- From one cursor on, the reading ends at another, with an answer or with a refusal. It
neither stands outside of the list nor goes too deep. -/
def Ends (m : Walk α) (c : Cursor) (outcome : Except ParseError α) (c' : Cursor) : Prop :=
  m.ending c = (outcome.mapError .refused, c')

/-- Wherever just the tokens `ts` of the stream are left, the reading ends with the answer
`a`, and leaves the tokens that `a` says. The cursor never moves back, and never past the
end marker of the stream. -/
def Reaches (m : Walk α) (stream : Stream) (ts : List Token) (a : Grammar.Answer α) : Prop :=
  ∀ c : Cursor, c.Within stream.body.length → stream.body.drop c.position = ts →
    ∃ c' : Cursor, m.Ends c (a.map Prod.fst) c' ∧ c.position ≤ c'.position ∧
      c'.Within stream.body.length ∧
      ∀ value rest, a = .ok (value, rest) → stream.body.drop c'.position = rest

/-! ## 1. Readings put together -/

/-- How two readings in a row end: the second starts where the first one has left the cursor. -/
theorem ending_bind (m : Walk α) (f : α → Walk β) (c : Cursor) :
    (m >>= f).ending c =
      match m.ending c with
      | (.ok value, c') => (f value).ending c'
      | (.error halt, c') => (.error halt, c') := by
  show (ExceptT.bindCont f (m.ending c).1 : StateM Cursor (Except Halt β)) (m.ending c).2 = _
  obtain ⟨outcome, c'⟩ := m.ending c
  cases outcome <;> rfl

theorem Reaches.pure (value : α) (ts : List Token) :
    Reaches (pure value) stream ts (.ok (value, ts)) := by
  intro c within left
  refine ⟨c, rfl, Nat.le_refl _, within, ?_⟩
  rintro _ _ ⟨⟩
  exact left

theorem Reaches.throw (e : ParseError) (ts : List Token) :
    Reaches (throw (.refused e) : Walk α) stream ts (.error e) :=
  fun c within _ => ⟨c, rfl, Nat.le_refl _, within, nofun⟩

/-- A reading after another starts on the tokens that the first has left. -/
theorem Reaches.bind {m : Walk α} {f : α → Walk β} {a : Grammar.Answer α}
    {g : α → List Token → Grammar.Answer β} (first : m.Reaches stream ts a)
    (next : ∀ value rest, a = .ok (value, rest) → (f value).Reaches stream rest (g value rest)) :
    (m >>= f).Reaches stream ts (a.andThen g) := by
  intro c within left
  obtain ⟨c₁, ends, le, within₁, left₁⟩ := first c within left
  cases a with
  | error e =>
    refine ⟨c₁, ?_, le, within₁, nofun⟩
    rw [Ends, ending_bind, ends]
    rfl
  | ok answer =>
    obtain ⟨value, rest⟩ := answer
    obtain ⟨c₂, ends₂, le₂, within₂, left₂⟩ :=
      next value rest rfl c₁ within₁ (left₁ value rest rfl)
    refine ⟨c₂, ?_, Nat.le_trans le le₂, within₂, left₂⟩
    rw [Ends, ending_bind, ends]
    exact ends₂

/-- A reading that answers is over, and the next one decides. -/
theorem Reaches.bind_ok {m : Walk α} {f : α → Walk β} {value : α} {rest : List Token}
    {b : Grammar.Answer β} (first : m.Reaches stream ts (.ok (value, rest)))
    (next : (f value).Reaches stream rest b) : (m >>= f).Reaches stream ts b := by
  refine first.bind (g := fun _ _ => b) ?_
  rintro _ _ ⟨⟩
  exact next

/-! ## 2. Tokens -/

/-- Looking moves nothing; past the end of the list there is nothing to look at. -/
theorem ending_peek (c : Cursor) :
    (peek tokens).ending c =
      match tokens[c.position]? with
      | some t => (.ok t, c)
      | none => (.error .outside, c) := by
  show Walk.ending (match tokens[c.position]? with
    | some t => Pure.pure t
    | none => MonadExcept.throw .outside) c = _
  cases tokens[c.position]? <;> rfl

section Tokens

variable (heads : stream.Heads tokens)

include heads

theorem kind_finish : stream.finish.kind = .finish := by
  simpa [Token.isFinish] using heads.marker

/-- The first token that is left stands at the position, and the end marker when none is. -/
theorem getElem?_position {c : Cursor} (within : c.Within stream.body.length)
    (left : stream.body.drop c.position = ts) :
    tokens[c.position]? = some (ts.headD stream.finish) := by
  obtain ⟨more, rfl⟩ := heads.cut
  rcases Nat.lt_or_eq_of_le within.position with lt | eq
  · rw [List.getElem?_append_left lt, ← left, List.drop_eq_getElem_cons lt,
      List.getElem?_eq_getElem lt, List.headD_cons]
  · rw [List.getElem?_append_right (Nat.le_of_eq eq.symm), ← left, eq]
    simp

/-- None of the tokens that are left marks the end. -/
theorem reaches_of_free {m : Walk α} {a : Grammar.Answer α}
    (reaches : (∀ t ∈ ts, t.isFinish = false) → m.Reaches stream ts a) :
    m.Reaches stream ts a :=
  fun c within left =>
    reaches (fun t mem => heads.free t (List.mem_of_mem_drop (left ▸ mem))) c within left

/-- What is looked at is the first token left, or the end marker if none is. -/
theorem reaches_peek (ts : List Token) :
    (peek tokens).Reaches stream ts (.ok (ts.headD stream.finish, ts)) := by
  intro c within left
  refine ⟨c, ?_, Nat.le_refl _, within, ?_⟩
  · rw [Ends, ending_peek, getElem?_position heads within left]
    rfl
  · rintro _ _ ⟨⟩
    exact left

/-- A token of the stream is left behind. -/
theorem reaches_advance_cons (t : Token) (after : List Token) :
    (advance tokens).Reaches stream (t :: after) (.ok (t, after)) := by
  refine reaches_of_free heads fun free => (reaches_peek heads _).bind_ok fun c within left => ?_
  have lt : c.position < stream.body.length := by
    have longer := congrArg List.length left
    simp only [List.length_drop, List.length_cons] at longer
    omega
  refine ⟨c.next, ?_, Nat.le_succ _, within.next lt, ?_⟩
  · rw [List.headD_cons, free t List.mem_cons_self]
    rfl
  · rintro _ _ ⟨⟩
    show stream.body.drop (c.position + 1) = after
    rw [← List.drop_drop, left, List.drop_one, List.tail_cons]

/-- The end marker is not left behind. -/
theorem reaches_advance_nil : (advance tokens).Reaches stream [] (.ok (stream.finish, [])) := by
  refine (reaches_peek heads _).bind_ok ?_
  rw [List.headD_nil, heads.marker]
  exact .pure _ _

/-- What asks for no end marker finds none at the end. -/
theorem reaches_accept_nil {asked : Token.Kind → Option β} (no : asked .finish = none) :
    (accept tokens asked).Reaches stream [] (.ok (none, [])) := by
  refine (reaches_peek heads []).bind_ok ?_
  rw [List.headD_nil, kind_finish heads, no]
  exact .pure _ _

theorem reaches_accept_none {asked : Token.Kind → Option β} {t : Token}
    (no : asked t.kind = none) (after : List Token) :
    (accept tokens asked).Reaches stream (t :: after) (.ok (none, t :: after)) := by
  refine (reaches_peek heads _).bind_ok ?_
  rw [List.headD_cons, no]
  exact .pure _ _

theorem reaches_accept_some {asked : Token.Kind → Option β} {t : Token} {found : β}
    (yes : asked t.kind = some found) (after : List Token) :
    (accept tokens asked).Reaches stream (t :: after) (.ok (some (found, t), after)) := by
  refine (reaches_peek heads _).bind_ok ?_
  rw [List.headD_cons, yes]
  exact (reaches_advance_cons heads t after).bind_ok (.pure _ _)

/-- A token of a kind that is no end marker. -/
theorem reaches_demand (kind : Token.Kind) (wanted : Wanted) (ts : List Token)
    (other : kind ≠ .finish := by nofun) :
    (demand tokens kind wanted).Reaches stream ts (expect stream.finish kind wanted ts).plain := by
  refine (reaches_peek heads ts).bind_ok ?_
  cases ts with
  | nil =>
    rw [List.headD_nil, if_neg (by rw [kind_finish heads]; exact other.symm)]
    exact .throw _ _
  | cons t after =>
    rw [List.headD_cons, plain_expect_cons]
    split
    · exact reaches_advance_cons heads t after
    · exact .throw _ _

/-- The end marker is found only where no token is left. -/
theorem reaches_demand_finish_nil (wanted : Wanted) :
    (demand tokens .finish wanted).Reaches stream [] (.ok (stream.finish, [])) := by
  refine (reaches_peek heads []).bind_ok ?_
  rw [List.headD_nil, if_pos (kind_finish heads)]
  exact reaches_advance_nil heads

/-- Where the end is demanded, any other token is refused. -/
theorem reaches_demand_finish_cons (wanted : Wanted) (t : Token) (after : List Token) :
    (demand tokens .finish wanted).Reaches stream (t :: after) (.error (.unexpected t wanted)) := by
  refine reaches_of_free heads fun free => (reaches_peek heads _).bind_ok ?_
  have noMarker : t.kind ≠ .finish := by simpa [Token.isFinish] using free t List.mem_cons_self
  rw [List.headD_cons, if_neg noMarker]
  exact .throw _ _

end Tokens

/-! ## 3. Expressions

The induction is on the depth. A rule that goes to another on the same tokens goes to one of a
lower rank, and a token less pays for any rank. That there are fewer tokens left after an
answer is `plain_shorter`. -/

/-- Nothing but an expression is wanted at the end marker. -/
theorem reaches_primary_nil (heads : stream.Heads tokens) :
    (depth : Nat) → 1 ≤ depth →
      (primary tokens depth).Reaches stream [] (.error (.unexpected stream.finish .expression))
  | depth + 1, _ => by
    have noValue : Value.ofToken? stream.finish = none := by
      rw [Value.ofToken?, kind_finish heads]
    rw [primary]
    refine (reaches_peek heads []).bind_ok ?_
    rw [List.headD_nil, noValue, kind_finish heads]
    exact .throw _ _

mutual

/-- The depth that does falls with the rank of the rules, from an expression down to a primary,
and by thirteen with each token. -/
theorem reaches_expression (heads : stream.Heads tokens) :
    (depth : Nat) → (ts : List Token) → 13 * ts.length + 10 ≤ depth →
      (expression tokens depth).Reaches stream ts (Grammar.expression stream.finish ts).plain
  | 0, _, deep => by omega
  | depth + 1, ts, deep => by
    have operands : Operator.levels = 6 := rfl
    rw [expression, plain_expression]
    refine (reaches_operand heads depth _ ts (by omega)).bind fun left rest read => ?_
    have shorter := plain_shorter read
    cases rest with
    | nil => exact (reaches_accept_nil heads rfl).bind_ok (.pure _ _)
    | cons equals after =>
      have fewer : after.length < ts.length := Nat.lt_of_succ_lt shorter
      by_cases equal : equals.kind = .mark .equal
      · simp only [equal, if_true]
        refine (reaches_accept_some heads (only_of_eq equal) after).bind_ok ?_
        refine (reaches_expression heads depth after (by omega)).bind fun right rest _ => ?_
        cases left with
        | reference name token => exact .pure _ _
        | _ => exact .throw _ _
      · simp only [equal, if_false]
        exact (reaches_accept_none heads (only_of_ne equal) after).bind_ok (.pure _ _)

theorem reaches_operand (heads : stream.Heads tokens) :
    (depth level : Nat) → (ts : List Token) → 13 * ts.length + (level + 3) ≤ depth →
      (operand tokens depth level).Reaches stream ts (ladder stream.finish level ts).plain
  | 0, _, _, deep => by omega
  | depth + 1, 0, ts, deep => by
    rw [operand, plain_ladder_zero]
    exact reaches_unary heads depth ts (by omega)
  | depth + 1, level + 1, ts, deep => by
    rw [operand, plain_ladder_succ]
    refine (reaches_operand heads depth level ts (by omega)).bind fun first rest read => ?_
    have shorter := plain_shorter read
    exact reaches_operations heads depth level first rest (by omega)

/-- A repetition goes one deeper with each round, and each round has read an operator. -/
theorem reaches_operations (heads : stream.Heads tokens) :
    (depth level : Nat) → (left : Expr) → (ts : List Token) → 13 * ts.length + 1 ≤ depth →
      (operations tokens depth level left).Reaches stream ts
        (Extended.plain (chain stream.finish level left ts))
  | 0, _, _, _, deep => by omega
  | depth + 1, level, left, [], _ => by
    rw [operations, plain_chain_nil]
    exact (reaches_accept_nil heads rfl).bind_ok (.pure _ _)
  | depth + 1, level, left, sign :: after, deep => by
    have longer : (sign :: after).length = after.length + 1 := rfl
    rw [operations, plain_chain_cons]
    cases found : Operator.atLevel? level sign.kind with
    | none => exact (reaches_accept_none heads found after).bind_ok (.pure _ _)
    | some op =>
      have lt : level < 6 := level_lt_of_mem (Operator.atLevel?_eq_some_iff.mp found).1
      refine (reaches_accept_some heads found after).bind_ok ?_
      refine (reaches_operand heads depth level after (by omega)).bind fun right rest read => ?_
      have shorter := plain_shorter read
      exact reaches_operations heads depth level (op.join left sign right) rest (by omega)

/-- A sign is left behind before the operand is read. -/
theorem reaches_unary (heads : stream.Heads tokens) :
    (depth : Nat) → (ts : List Token) → 13 * ts.length + 2 ≤ depth →
      (unary tokens depth).Reaches stream ts (Grammar.unary stream.finish ts).plain
  | 0, _, deep => by omega
  | depth + 1, [], deep => by
    rw [unary, plain_unary_nil]
    exact (reaches_accept_nil heads rfl).bind_ok (reaches_primary_nil heads depth (by omega))
  | depth + 1, t :: after, deep => by
    have longer : (t :: after).length = after.length + 1 := rfl
    rw [unary, plain_unary_cons]
    cases found : UnaryOp.ofKind? t.kind with
    | none =>
      refine (reaches_accept_none heads found after).bind_ok ?_
      exact reaches_primary heads depth t after (by omega)
    | some op =>
      refine (reaches_accept_some heads found after).bind_ok ?_
      exact (reaches_unary heads depth after (by omega)).bind fun operand rest _ => .pure _ _

theorem reaches_primary (heads : stream.Heads tokens) :
    (depth : Nat) → (t : Token) → (after : List Token) → 13 * (after.length + 1) + 1 ≤ depth →
      (primary tokens depth).Reaches stream (t :: after)
        (Grammar.primary stream.finish t after).plain
  | 0, _, _, deep => by omega
  | depth + 1, t, after, deep => by
    rw [primary, plain_primary]
    refine (reaches_peek heads _).bind_ok ?_
    rw [List.headD_cons]
    cases Value.ofToken? t with
    | some value => exact (reaches_advance_cons heads t after).bind_ok (.pure _ _)
    | none =>
      cases t.kind with
      | identifier => exact (reaches_advance_cons heads t after).bind_ok (.pure _ _)
      | mark m =>
        cases m with
        | leftParen =>
          refine (reaches_advance_cons heads t after).bind_ok ?_
          refine (reaches_expression heads depth after (by omega)).bind fun inner rest _ => ?_
          exact (reaches_demand heads _ _ rest).bind fun closing rest _ => .pure _ _
        | _ => exact .throw _ _
      | _ => exact .throw _ _

end

/-! ## 4. Statements -/

section Statements

variable (heads : stream.Heads tokens) {depth : Nat}

include heads

theorem reaches_firstValue (ts : List Token) (deep : 13 * ts.length + 10 ≤ depth) :
    (firstValue tokens depth).Reaches stream ts
      (Extended.plain (Grammar.firstValue stream.finish ts)) := by
  cases ts with
  | nil => exact (reaches_accept_nil heads rfl).bind_ok (.pure _ _)
  | cons t after =>
    have longer : (t :: after).length = after.length + 1 := rfl
    rw [plain_firstValue_cons]
    by_cases equal : t.kind = .mark .equal
    · rw [if_pos equal]
      refine (reaches_accept_some heads (only_of_eq equal) after).bind_ok ?_
      exact (reaches_expression heads depth after (by omega)).bind fun e rest _ => .pure _ _
    · rw [if_neg equal]
      exact (reaches_accept_none heads (only_of_ne equal) after).bind_ok (.pure _ _)

theorem reaches_afterVar (keyword : Token) (ts : List Token)
    (deep : 13 * ts.length + 10 ≤ depth) :
    (afterVar tokens depth keyword).Reaches stream ts
      (Grammar.afterVar stream.finish keyword ts).plain := by
  rw [plain_afterVar]
  refine (reaches_demand heads _ _ ts).bind fun name rest read => ?_
  have shorter := plain_shorter read
  refine (reaches_firstValue heads rest (by omega)).bind fun value rest _ => ?_
  exact (reaches_demand heads _ _ rest).bind fun semicolon rest _ => .pure _ _

theorem reaches_printStatement (t : Token) (after : List Token)
    (deep : 13 * after.length + 10 ≤ depth) :
    (printStatement tokens depth).Reaches stream (t :: after)
      (afterPrint stream.finish t after).plain := by
  rw [plain_afterPrint]
  refine (reaches_advance_cons heads t after).bind_ok ?_
  refine (reaches_expression heads depth after deep).bind fun e rest _ => ?_
  exact (reaches_demand heads _ _ rest).bind fun semicolon rest _ => .pure _ _

theorem reaches_expressionStatement (ts : List Token) (deep : 13 * ts.length + 10 ≤ depth) :
    (expressionStatement tokens depth).Reaches stream ts
      (Grammar.expressionStatement stream.finish ts).plain := by
  rw [plain_expressionStatement]
  refine (reaches_expression heads depth ts deep).bind fun e rest _ => ?_
  exact (reaches_demand heads _ _ rest).bind fun semicolon rest _ => .pure _ _

/-- The parentheses are demanded, and the condition between them is read. -/
theorem reaches_condition (keyword : Token) (ts : List Token)
    (deep : 13 * ts.length + 10 ≤ depth) :
    (condition tokens depth keyword).Reaches stream ts
      (Grammar.condition stream.finish keyword ts).plain := by
  rw [plain_condition]
  refine (reaches_demand heads _ _ ts).bind fun opening rest read => ?_
  have shorter := plain_shorter read
  refine (reaches_expression heads depth rest (by omega)).bind fun e rest _ => ?_
  exact (reaches_demand heads _ _ rest).bind fun closing rest _ => .pure _ _

end Statements

mutual

/-- A declaration that does not start with its keyword is a statement. -/
theorem reaches_declaration (heads : stream.Heads tokens) :
    (depth : Nat) → (ts : List Token) → 13 * ts.length + 12 ≤ depth →
      (declaration tokens depth).Reaches stream ts (Grammar.declaration stream.finish ts).plain
  | 0, _, deep => by omega
  | depth + 1, [], deep => by
    rw [declaration]
    refine (reaches_accept_nil heads rfl).bind_ok ?_
    exact reaches_statement heads depth [] nofun (by omega)
  | depth + 1, t :: after, deep => by
    have longer : (t :: after).length = after.length + 1 := rfl
    rw [declaration]
    by_cases var : t.kind = .keyword .varWord
    · refine (reaches_accept_some heads (only_of_eq var) after).bind_ok ?_
      rw [plain_declaration_cons, var]
      exact reaches_afterVar heads t after (by omega)
    · refine (reaches_accept_none heads (only_of_ne var) after).bind_ok ?_
      have noVar : ∀ u ∈ (t :: after).head?, u.kind ≠ .keyword .varWord := by
        rintro _ ⟨⟩
        exact var
      exact reaches_statement heads depth (t :: after) noVar (by omega)

/-- What declares nothing is a statement. -/
theorem reaches_statement (heads : stream.Heads tokens) :
    (depth : Nat) → (ts : List Token) → (∀ t ∈ ts.head?, t.kind ≠ .keyword .varWord) →
      13 * ts.length + 11 ≤ depth →
      (statement tokens depth).Reaches stream ts (Grammar.declaration stream.finish ts).plain
  | 0, _, _, deep => by omega
  | depth + 1, [], _, deep => by
    rw [statement, plain_declaration_nil]
    refine (reaches_peek heads []).bind_ok ?_
    rw [List.headD_nil, kind_finish heads]
    exact reaches_expressionStatement heads [] (by omega)
  | depth + 1, t :: after, noVar, deep => by
    have longer : (t :: after).length = after.length + 1 := rfl
    rw [statement, plain_declaration_cons]
    refine (reaches_peek heads (t :: after)).bind_ok ?_
    rw [List.headD_cons]
    have effect : (expressionStatement tokens depth).Reaches stream (t :: after) _ :=
      reaches_expressionStatement heads (t :: after) (by omega)
    cases kind : t.kind with
    | keyword word =>
      cases word with
      | varWord => exact absurd kind (noVar t rfl)
      | printWord => exact reaches_printStatement heads t after (by omega)
      | ifWord => exact reaches_ifStatement heads depth t after (by omega)
      | whileWord => exact reaches_whileStatement heads depth t after (by omega)
      | _ => exact effect
    | mark m =>
      cases m with
      | leftBrace =>
        exact (reaches_block heads depth (t :: after) (by omega)).bind fun b rest _ => .pure _ _
      | _ => exact effect
    | _ => exact effect

/-- The block after `else` belongs to the `if` that is being read. -/
theorem reaches_ifStatement (heads : stream.Heads tokens) :
    (depth : Nat) → (t : Token) → (after : List Token) → 13 * (after.length + 1) + 1 ≤ depth →
      (ifStatement tokens depth).Reaches stream (t :: after)
        ((Grammar.condition stream.finish t after).plain.andThen fun test rest =>
          (Grammar.block stream.finish rest).plain.andThen fun thenBlock rest =>
            (Extended.plain (Grammar.elseBlock stream.finish rest)).andThen fun otherwise rest =>
              .ok (conditional t test thenBlock otherwise, rest))
  | 0, _, _, deep => by omega
  | depth + 1, t, after, deep => by
    rw [ifStatement]
    refine (reaches_advance_cons heads t after).bind_ok ?_
    refine (reaches_condition heads t after (by omega)).bind fun test afterTest readTest => ?_
    have shorter := plain_shorter readTest
    refine (reaches_block heads depth afterTest (by omega)).bind fun thenBlock rest readThen => ?_
    have shorterThen := plain_shorter readThen
    refine (reaches_elseBlock heads depth rest (by omega)).bind fun otherwise rest _ => ?_
    cases otherwise <;> exact .pure _ _

theorem reaches_elseBlock (heads : stream.Heads tokens) :
    (depth : Nat) → (ts : List Token) → 13 * ts.length + 1 ≤ depth →
      (elseBlock tokens depth).Reaches stream ts
        (Extended.plain (Grammar.elseBlock stream.finish ts))
  | 0, _, deep => by omega
  | depth + 1, [], _ => by
    rw [elseBlock, plain_elseBlock_nil]
    exact (reaches_accept_nil heads rfl).bind_ok (.pure _ _)
  | depth + 1, t :: after, deep => by
    have longer : (t :: after).length = after.length + 1 := rfl
    rw [elseBlock, plain_elseBlock_cons]
    by_cases elseWord : t.kind = .keyword .elseWord
    · rw [if_pos elseWord]
      refine (reaches_accept_some heads (only_of_eq elseWord) after).bind_ok ?_
      exact (reaches_block heads depth after (by omega)).bind fun b rest _ => .pure _ _
    · rw [if_neg elseWord]
      exact (reaches_accept_none heads (only_of_ne elseWord) after).bind_ok (.pure _ _)

theorem reaches_whileStatement (heads : stream.Heads tokens) :
    (depth : Nat) → (t : Token) → (after : List Token) → 13 * (after.length + 1) + 1 ≤ depth →
      (whileStatement tokens depth).Reaches stream (t :: after)
        ((Grammar.condition stream.finish t after).plain.andThen fun test rest =>
          (Grammar.block stream.finish rest).plain.andThen fun body rest =>
            .ok (.loop t test body, rest))
  | 0, _, _, deep => by omega
  | depth + 1, t, after, deep => by
    rw [whileStatement]
    refine (reaches_advance_cons heads t after).bind_ok ?_
    refine (reaches_condition heads t after (by omega)).bind fun test rest readTest => ?_
    have shorter := plain_shorter readTest
    exact (reaches_block heads depth rest (by omega)).bind fun body rest _ => .pure _ _

theorem reaches_block (heads : stream.Heads tokens) :
    (depth : Nat) → (ts : List Token) → 13 * ts.length + 1 ≤ depth →
      (block tokens depth).Reaches stream ts (Grammar.block stream.finish ts).plain
  | 0, _, deep => by omega
  | depth + 1, ts, deep => by
    rw [block, plain_block]
    refine (reaches_demand heads _ _ ts).bind fun opening rest read => ?_
    have shorter := plain_shorter read
    exact (reaches_declarations heads depth rest (by omega)).bind fun inside rest _ => .pure _ _

/-- Inside a block the closing brace comes first, then the end of the stream, and only then another
declaration. -/
theorem reaches_declarations (heads : stream.Heads tokens) :
    (depth : Nat) → (ts : List Token) → 13 * ts.length + 13 ≤ depth →
      (declarations tokens depth).Reaches stream ts (Grammar.declarations stream.finish ts).plain
  | 0, _, deep => by omega
  | depth + 1, [], _ => by
    rw [declarations]
    refine (reaches_peek heads []).bind_ok ?_
    rw [List.headD_nil, if_neg (by rw [kind_finish heads]; nofun), if_pos heads.marker,
      plain_declarations_nil]
    exact .throw _ _
  | depth + 1, t :: after, deep => by
    rw [declarations]
    refine reaches_of_free heads fun free => (reaches_peek heads _).bind_ok ?_
    rw [List.headD_cons, plain_declarations_cons]
    by_cases brace : t.kind = .mark .rightBrace
    · rw [if_pos brace, if_pos brace]
      exact (reaches_advance_cons heads t after).bind_ok (.pure _ _)
    · rw [if_neg brace, if_neg brace, if_neg (by simp [free t List.mem_cons_self])]
      refine (reaches_declaration heads depth (t :: after) (by omega)).bind
        fun first rest read => ?_
      have shorter := plain_shorter read
      exact (reaches_declarations heads depth rest (by omega)).bind
        fun others rest _ => .pure _ _

end

/-! ## 5. Whole lists -/

def whole (read : Except ParseError α) : Grammar.Answer α :=
  read.map fun value => (value, [])

/-- Declarations are read up to the end marker, where a program ends. -/
theorem reaches_program (heads : stream.Heads tokens) :
    (depth : Nat) → (ts : List Token) → 13 * ts.length + 13 ≤ depth →
      (program tokens depth).Reaches stream ts (whole (Grammar.program stream.finish ts))
  | 0, _, deep => by omega
  | depth + 1, [], _ => by
    rw [program]
    refine (reaches_peek heads []).bind_ok ?_
    rw [List.headD_nil, if_pos heads.marker, program_nil]
    exact .pure _ _
  | depth + 1, t :: after, deep => by
    rw [program]
    refine reaches_of_free heads fun free => (reaches_peek heads _).bind_ok ?_
    rw [List.headD_cons, if_neg (by simp [free t List.mem_cons_self]), program_cons, whole,
      Grammar.Answer.map_andThen]
    refine (reaches_declaration heads depth (t :: after) (by omega)).bind fun first rest read => ?_
    have shorter := plain_shorter read
    have others := (reaches_program heads depth rest (by omega)).bind fun others rest _ =>
      Reaches.pure (first :: others) rest
    cases readOthers : Grammar.program stream.finish rest <;>
      · rw [readOthers] at others
        exact others

/-- After an expression the end marker is demanded. -/
theorem reaches_wholeExpression (heads : stream.Heads tokens) (depth : Nat)
    (deep : 13 * stream.body.length + 10 ≤ depth) :
    (wholeExpression tokens depth).Reaches stream stream.body (whole (Expr.ofStream stream)) := by
  rw [ofStream_expr, whole, Grammar.Answer.map_andThen]
  refine (reaches_expression heads depth stream.body deep).bind fun e rest _ => ?_
  cases rest with
  | nil => exact (reaches_demand_finish_nil heads .endOfInput).bind_ok (.pure e [])
  | cons t after =>
    exact (reaches_demand_finish_cons heads .endOfInput t after).bind fun _ rest _ => .pure e rest

end Walk

end Scriptlet
