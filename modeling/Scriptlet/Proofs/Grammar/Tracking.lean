/-
Scriptlet.Proofs.Grammar.Tracking — the grammar reads along the loose grammar.

A rule decides by the next token which production it follows, and in the loose
grammar that token decides as well. So a rule that answers has gone from the stack
that it stands for to the stack below it, and there was no other way to go on
(`Leads`); and a rule that refuses has come to a token that the stack it is then at
cannot go on with, or has read all of an assignment to something that is no plain
variable (`Refused`). `Tracks` says both of an answer.

The rules get one lemma each, by their own recursion. A rule that may end before a
token, such as a chain of operators, ends there only if what is below it on the
stack does not start with that token: that is what the `Follows` conditions are for.
-/
import Scriptlet.Proofs.Grammar.Loose
import Scriptlet.Proofs.Grammar.Soundness
import Scriptlet.Proofs.Grammar.Unambiguity
import Scriptlet.Proofs.Grammar.Inversion

namespace Scriptlet.Grammar

variable {finish : Token}

/-! ## 1. What stands behind an expression -/

mutual

/-- After an operand of a level no operator below that level is left. -/
theorem ladder_stops {level : Nat} {ts rest : List Token} {e : Expr}
    (read : (ladder finish level ts).plain = .ok (e, rest)) :
    (Nonterminal.operand level).Stops rest := by
  cases level with
  | zero =>
    rintro t - ⟨op, lower, -⟩
    exact Nat.not_lt_zero _ lower
  | succ level =>
    rw [plain_ladder_succ] at read
    obtain ⟨first, mid, readFirst, read⟩ := Answer.andThen_eq_ok read
    have shorter := plain_shorter readFirst
    exact chain_stops (ladder_stops readFirst) read
termination_by (ts.length, level + 1)
decreasing_by all_goals (rw [Prod.lex_def]; omega)

/-- After the operations of a level no operator of that level is left either. -/
theorem chain_stops {level : Nat} {left : Expr} {ts rest : List Token} {e : Expr}
    (stops : (Nonterminal.operand level).Stops ts)
    (read : Extended.plain (chain finish level left ts) = .ok (e, rest)) :
    (Nonterminal.operand (level + 1)).Stops rest := by
  cases whole : ts with
  | nil =>
    rw [whole, plain_chain_nil] at read
    cases read
    exact stops_nil _
  | cons sign after =>
    have longer : ts.length = after.length + 1 := congrArg List.length whole
    rw [whole, plain_chain_cons] at read
    split at read
    · next none =>
      cases read
      rw [whole, stops_cons] at stops
      rw [stops_cons]
      rintro ⟨op, lower, same⟩
      obtain at_level | lower := Nat.eq_or_lt_of_le (Nat.le_of_lt_succ lower)
      · exact Operator.atLevel?_eq_none_iff.1 none op (Operator.mem_ofLevel_iff.2 at_level) same
      · exact stops ⟨op, lower, same⟩
    · next op found =>
      obtain ⟨right, mid, readRight, read⟩ := Answer.andThen_eq_ok read
      have shorter := plain_shorter readRight
      exact chain_stops (ladder_stops readRight) read
termination_by (ts.length, 0)
decreasing_by all_goals (rw [Prod.lex_def]; omega)

end

/-- An expression is read up to the first token that cannot go on with it. -/
theorem expression_stops {ts rest : List Token} {e : Expr}
    (read : (expression finish ts).plain = .ok (e, rest)) :
    Nonterminal.expression.Stops rest := by
  rw [plain_expression] at read
  obtain ⟨left, mid, readLeft, read⟩ := Answer.andThen_eq_ok read
  have shorter := plain_shorter readLeft
  have stops := ladder_stops readLeft
  cases mid with
  | nil =>
    cases read
    exact stops_nil _
  | cons equals after =>
    have longer : after.length < ts.length := Nat.lt_of_succ_lt shorter
    simp only at read
    split at read
    · obtain ⟨right, rest', readRight, read⟩ := Answer.andThen_eq_ok read
      have stopsRight := expression_stops readRight
      cases left <;> cases read
      exact stopsRight
    · next other =>
      cases read
      rw [stops_cons] at stops ⊢
      rintro (equal | ⟨op, same⟩)
      · exact other equal
      · exact stops ⟨op, Operator.level_lt op, same⟩
termination_by ts.length

namespace Loose

/-! ## 2. Going on, and being refused -/

/-- With the tokens before `rest`, the stack has become `left`; and words of the stack that
start with them, and go on with the first token of `rest`, go on with a word of `left`. -/
def Leads (stack : List Part) (ts : List Token) (left : List Part) (rest : List Token) : Prop :=
  ∃ read, ts = read ++ rest ∧ Takes stack read left ∧
    ∀ more, more.head? = rest.head? → Takes stack (read ++ more) [] → Takes left more []

/-- The tokens before `found` are the beginning of a word of the stack, and no word of it starts
with them and `found`; where `found` is what stands at the end, they are no word themselves. -/
def Stuck (finish : Token) (stack : List Part) (ts : List Token) (found : Token) : Prop :=
  ∃ read left below, ts = read ++ left ∧ found = left.headD finish ∧ Takes stack read below ∧
    ∀ more, more.head? = left.head? → ¬Takes stack (read ++ more) []

/-- An expression is wanted after `before`, where an operand that is no plain variable stands
with an equals sign and a whole value right of it. The value is one of the strict grammar. -/
def Misassigned (stack : List Part) (ts : List Token) (sign : Token) (target : Expr) : Prop :=
  ∃ (before after : List Token) (below : List Part) (left : Derivation (.operand 6))
    (equals : TokenOf (.mark .equal)) (value : Derivation .expression),
    ts = before ++ (left.tokens ++ equals.val :: (value.tokens ++ after)) ∧
      sign = equals.val ∧ left.tree = target ∧ (∀ name token, target ≠ .reference name token) ∧
      Takes stack before (.rule .expression :: below) ∧ Nonterminal.expression.Stops after

def Refused (finish : Token) (stack : List Part) (ts : List Token) : ParseError → Prop
  | .unexpected found _ => Stuck finish stack ts found
  | .target equals target => Misassigned stack ts equals target

/-- What an answer says of the tokens that were to be read from `stack` down to `left`. -/
def Tracks {α : Type} (finish : Token) (stack : List Part) (ts : List Token) (a : Answer α)
    (left : List Part) : Prop :=
  match a with
  | .ok (_, rest) => Leads stack ts left rest
  | .error e => Refused finish stack ts e

section

variable {α β : Type} {stack mid left : List Part} {ts us rest : List Token} {e : ParseError}

theorem Leads.refl (stack : List Part) (ts : List Token) : Leads stack ts stack ts :=
  ⟨[], rfl, .none stack, fun _ _ taken => taken⟩

/-- From the stack to a part of it, and on from there. -/
theorem Leads.trans (first : Leads stack ts mid us) (second : Leads mid us left rest) :
    Leads stack ts left rest := by
  obtain ⟨read, rfl, taken, forced⟩ := first
  obtain ⟨read', rfl, taken', forced'⟩ := second
  refine ⟨read ++ read', by simp, taken.trans taken', fun more head word => ?_⟩
  rw [List.append_assoc] at word
  refine forced' more head (forced (read' ++ more) ?_ word)
  rw [List.head?_append, List.head?_append, head]

/-- A token on top of the stack has one continuation. -/
theorem Leads.token {kind : Token.Kind} {t : Token} (same : t.kind = kind) :
    Leads (.token kind :: stack) (t :: rest) stack rest := by
  refine ⟨[t], rfl, .tokenOf same (.none stack), fun more _ word => ?_⟩
  obtain ⟨t', us, whole, -, taken⟩ := takes_token word
  cases whole
  exact taken

/-- The next token leaves one production of a rule only. -/
theorem Leads.expand {rule : Rule} (production : List Part) (mem : production ∈ rule.productions)
    (only : ∀ other ∈ rule.productions, ∀ word, word.head? = ts.head? →
      Takes (other ++ stack) word [] → other = production) :
    Leads (.rule rule :: stack) ts (production ++ stack) ts := by
  refine ⟨[], rfl, .expand mem (.none _), fun more head word => ?_⟩
  obtain ⟨other, mem', taken⟩ := takes_rule word
  rw [← only other mem' more head taken]
  exact taken

/-- Of two alternatives, no word of the second starts as the tokens do. -/
theorem leads_first {rule : Rule} (production : List Part) {other : List Part}
    (two : rule.productions = [production, other])
    (unread : ∀ word, word.head? = ts.head? → ¬Takes (other ++ stack) word []) :
    Leads (.rule rule :: stack) ts (production ++ stack) ts := by
  refine Leads.expand production (by simp [two]) fun alternative mem word head taken => ?_
  simp only [two, List.mem_cons, List.not_mem_nil, or_false] at mem
  rcases mem with rfl | rfl
  · rfl
  · exact absurd taken (unread word head)

/-- Of two alternatives, no word of the first starts as the tokens do. -/
theorem leads_second {rule : Rule} (production : List Part) {other : List Part}
    (two : rule.productions = [other, production])
    (unread : ∀ word, word.head? = ts.head? → ¬Takes (other ++ stack) word []) :
    Leads (.rule rule :: stack) ts (production ++ stack) ts := by
  refine Leads.expand production (by simp [two]) fun alternative mem word head taken => ?_
  simp only [two, List.mem_cons, List.not_mem_nil, or_false] at mem
  rcases mem with rfl | rfl
  · exact absurd taken (unread word head)
  · rfl

/-- A rule with one production has no choice. -/
theorem leads_only {rule : Rule} (production : List Part)
    (lone : rule.productions = [production]) :
    Leads (.rule rule :: stack) ts (production ++ stack) ts := by
  refine Leads.expand production (by simp [lone]) fun other mem _ _ _ => ?_
  simpa [lone] using mem

/-- An error that is about a stack on the way is about the first stack. -/
theorem Leads.refused (leads : Leads stack ts left rest) (refused : Refused finish left rest e) :
    Refused finish stack ts e := by
  obtain ⟨read, rfl, taken, forced⟩ := leads
  cases e with
  | unexpected found wanted =>
    obtain ⟨read', left', below, rfl, rfl, taken', stuck⟩ := refused
    refine ⟨read ++ read', left', below, by simp, rfl, taken.trans taken', ?_⟩
    intro more head word
    rw [List.append_assoc] at word
    refine stuck more head (forced (read' ++ more) ?_ word)
    rw [List.head?_append, List.head?_append, head]
  | target equals target =>
    obtain ⟨before, after, below, d, sign, value, rfl, same, tree, plain, taken', stops⟩ := refused
    exact ⟨read ++ before, after, below, d, sign, value, by simp, same, tree, plain,
      taken.trans taken', stops⟩

/-- The first token of a word opens the stack. -/
theorem Opens.of_head {P : Token.Kind → Prop} {word : List Token} {t : Token}
    (opens : Opens stack P) (taken : Takes stack word []) (head : word.head? = some t) :
    P t.kind := by
  obtain ⟨t', first, known⟩ := opens word taken
  rw [head] at first
  cases first
  exact known

/-- With another first token the stack has no word. -/
theorem Opens.unread {P : Token.Kind → Prop} (opens : Opens stack P)
    (other : ∀ t ∈ ts.head?, ¬P t.kind) :
    ∀ word, word.head? = ts.head? → ¬Takes stack word [] := by
  intro word head taken
  obtain ⟨t, first, known⟩ := opens word taken
  rw [head] at first
  exact other t first known

/-- The next token is none that a word of the stack starts with. -/
theorem refused_here {P : Token.Kind → Prop} (opens : Opens stack P)
    (other : ∀ t ∈ ts.head?, ¬P t.kind) (wanted : Wanted) :
    Refused finish stack ts (.unexpected (ts.headD finish) wanted) :=
  ⟨[], ts, stack, rfl, rfl, .none stack, opens.unread other⟩

/-- What is said of the rest is said of the whole. -/
theorem Leads.tracks {a : Answer α} (leads : Leads stack ts mid us)
    (tracks : Tracks finish mid us a left) : Tracks finish stack ts a left := by
  cases a with
  | ok answer => exact leads.trans tracks
  | error e => exact leads.refused tracks

/-- An answer after an answer: what the second says is about the stack that the first one left. -/
theorem Tracks.andThen {a : Answer α} {next : α → List Token → Answer β}
    (first : Tracks finish stack ts a mid)
    (others : ∀ value us, a = .ok (value, us) → Tracks finish mid us (next value us) left) :
    Tracks finish stack ts (a.andThen next) left := by
  cases a with
  | ok answer => exact Leads.tracks first (others _ _ rfl)
  | error e => exact first

/-- A token that is expected is on top of the stack, and another one is the first that is wrong. -/
theorem expect_tracks (kind : Token.Kind) (wanted : Wanted) (stack : List Part)
    (ts : List Token) :
    Tracks finish (.token kind :: stack) ts (expect finish kind wanted ts).plain stack := by
  cases ts with
  | nil => exact refused_here (opens_token kind stack) (by simp) wanted
  | cons t rest =>
    rw [plain_expect_cons]
    split
    · next same => exact Leads.token same
    · next other => exact refused_here (opens_token kind stack) (by simpa using other) wanted

end

/-! ## 3. Options and repetitions -/

section

variable {stack : List Part} {ts : List Token}

/-- Without an equals sign the option of a value is left out. -/
theorem leads_noValue (other : ∀ t ∈ ts.head?, t.kind ≠ .mark .equal) :
    Leads (.rule .value :: stack) ts stack ts :=
  leads_first [] rfl ((opens_token _ _).unread other)

/-- An equals sign takes the option of a value: nothing else on the stack can start so. -/
theorem leads_value {t : Token} {after : List Token} (equal : t.kind = .mark .equal)
    (follows : Follows .expression stack) :
    Leads (.rule .value :: stack) (t :: after) (.rule .expression :: stack) after := by
  refine Leads.trans (leads_second [.mark .equal, .rule .expression] rfl
    fun word head taken => ?_) (Leads.token equal)
  exact follows word taken t head (.inl equal)

/-- No operator of the level follows, so the repetition is over. -/
theorem leads_noOperation {level : Nat}
    (other : ∀ t ∈ ts.head?, Operator.atLevel? level t.kind = none) :
    Leads (.rule (.operations level) :: stack) ts stack ts := by
  refine Leads.expand [] List.mem_cons_self fun production mem word head taken => ?_
  simp only [Rule.productions, List.mem_cons, List.mem_map] at mem
  rcases mem with rfl | ⟨op, mem, rfl⟩
  · rfl
  · refine absurd taken ((opens_token _ _).unread (fun t first same => ?_) word head)
    exact Operator.atLevel?_eq_none_iff.1 (other t first) op mem same.symm

/-- An operator of the level goes on with the repetition. -/
theorem leads_operation {level : Nat} {op : Operator} {t : Token} {after : List Token}
    (found : Operator.atLevel? level t.kind = some op)
    (follows : Follows (.operand (level + 1)) stack) :
    Leads (.rule (.operations level) :: stack) (t :: after)
      (.rule (.operand level) :: .rule (.operations level) :: stack) after := by
  obtain ⟨mem, kind⟩ := Operator.atLevel?_eq_some_iff.1 found
  refine Leads.trans ?_ (Leads.token kind.symm)
  refine Leads.expand [.token op.kind, .rule (.operand level), .rule (.operations level)]
    (.tail _ (List.mem_map.mpr ⟨op, mem, rfl⟩)) fun production mem' word head taken => ?_
  simp only [Rule.productions, List.mem_cons, List.mem_map] at mem'
  rcases mem' with rfl | ⟨other, -, rfl⟩
  · have lower : op.level < level + 1 := by
      rw [Operator.mem_ofLevel_iff.1 mem]
      exact Nat.lt_succ_self level
    exact absurd ⟨op, lower, kind⟩ (follows word taken t head)
  · have same : t.kind = other.kind := (opens_token _ _).of_head taken head
    rw [Operator.eq_of_kind_eq (kind.trans same)]

/-- What follows a chain does not go on with one of its operands. -/
theorem follows_operations {level : Nat} (follows : Follows (.operand (level + 1)) stack) :
    Follows (.operand level) (.rule (.operations level) :: stack) := by
  intro word taken t head
  rintro ⟨op, lower, kind⟩
  obtain ⟨production, mem, taken⟩ := takes_rule taken
  simp only [Rule.productions, List.mem_cons, List.mem_map] at mem
  rcases mem with rfl | ⟨other, mem, rfl⟩
  · exact follows word taken t head ⟨op, Nat.lt_succ_of_lt lower, kind⟩
  · have same : t.kind = other.kind := (opens_token _ _).of_head taken head
    rw [Operator.eq_of_kind_eq (kind.trans same)] at lower
    exact Nat.ne_of_lt lower (Operator.mem_ofLevel_iff.1 mem)

/-- What follows an expression does not go on with what may be a target. -/
theorem follows_value (follows : Follows .expression stack) :
    Follows (.operand Operator.levels) (.rule .value :: stack) := by
  intro word taken t head
  rintro ⟨op, -, kind⟩
  obtain ⟨production, mem, taken⟩ := takes_rule taken
  simp only [Rule.productions, List.mem_cons, List.not_mem_nil, or_false] at mem
  rcases mem with rfl | rfl
  · exact follows word taken t head (.inr ⟨op, kind⟩)
  · have same : t.kind = .mark .equal := (opens_token _ _).of_head taken head
    have found := Operator.ofKind?_eq_some_iff.2 (kind.trans same)
    cases found

/-- A sign that is no operator and no equals sign follows an expression. -/
theorem follows_mark {m : Mark} (noOperator : Operator.ofKind? (.mark m) = none)
    (noEquals : m ≠ .equal) (stack : List Part) : Follows .expression (.mark m :: stack) := by
  intro word taken t head
  have same : t.kind = .mark m := (opens_token _ _).of_head taken head
  rintro (equal | ⟨op, kind⟩)
  · rw [same] at equal
    exact noEquals (Token.Kind.mark.inj equal)
  · rw [same] at kind
    rw [Operator.ofKind?_eq_some_iff.2 kind] at noOperator
    cases noOperator

end

/-! ## 4. Expressions -/

/-- A sign before an operand has an operand after it. -/
theorem leads_sign {op : UnaryOp} {t : Token} {stack : List Part} {after : List Token}
    (found : UnaryOp.ofKind? t.kind = some op) :
    Leads (.rule (.operand 0) :: stack) (t :: after) (.rule (.operand 0) :: stack) after := by
  have kind := UnaryOp.ofKind?_eq_some_iff.1 found
  refine Leads.trans ?_ (Leads.token kind.symm)
  refine Leads.expand [.token op.kind, .rule (.operand 0)] ?_
    fun production mem word head taken => ?_
  · cases op <;> simp [Rule.productions, UnaryOp.kind]
  simp only [Rule.productions, List.mem_cons, List.not_mem_nil, or_false] at mem
  rcases mem with rfl | rfl | rfl
  · have same : t.kind = .mark .bang := (opens_token _ _).of_head taken head
    rw [kind, same]
  · have same : t.kind = .mark .minus := (opens_token _ _).of_head taken head
    rw [kind, same]
  · have starts := (opens_primary _).of_head taken head
    rw [← kind] at starts
    cases op <;> cases starts

theorem leads_noSign {t : Token} {stack : List Part} {after : List Token}
    (none : UnaryOp.ofKind? t.kind = none) :
    Leads (.rule (.operand 0) :: stack) (t :: after) (.rule .primary :: stack) (t :: after) := by
  refine Leads.expand [.rule .primary] (by simp [Rule.productions])
    fun production mem word head taken => ?_
  simp only [Rule.productions, List.mem_cons, List.not_mem_nil, or_false] at mem
  rcases mem with rfl | rfl | rfl
  · rw [(opens_token _ _).of_head taken head] at none
    cases none
  · rw [(opens_token _ _).of_head taken head] at none
    cases none
  · rfl

/-- The production of a primary that starts with the next token. -/
theorem leads_primary {t : Token} (others : List Part) {stack : List Part} {after : List Token}
    (mem : .token t.kind :: others ∈ Rule.primary.productions) :
    Leads (.rule .primary :: stack) (t :: after) (others ++ stack) after := by
  refine Leads.trans ?_ (Leads.token (t := t) rfl)
  refine Leads.expand _ mem fun production mem' word head taken => ?_
  simp only [Rule.productions, List.mem_cons, List.not_mem_nil, or_false] at mem mem'
  rcases mem' with rfl | rfl | rfl | rfl | rfl | rfl | rfl <;>
  · have same := (opens_token _ _).of_head taken head
    simpa [same, eq_comm] using mem

/-- Each sort of literal has its production in the loose grammar. -/
theorem mem_primary_of_value {t : Token} {value : Value} (found : Value.ofToken? t = some value) :
    [.token t.kind] ∈ Rule.primary.productions := by
  unfold Value.ofToken? at found
  split at found <;> simp_all [Rule.productions]

/-- Left of the equals sign stands a whole operand and right of it a whole value, and yet the
target is no name. -/
theorem misassigned {ts after rest : List Token} {left value : Expr} {equals : Token}
    (readLeft : (ladder finish Operator.levels ts).plain = .ok (left, equals :: after))
    (equal : equals.kind = .mark .equal)
    (readRight : (expression finish after).plain = .ok (value, rest))
    (plain : ∀ name token, left ≠ .reference name token) (stack : List Part) :
    Refused finish (.rule .expression :: stack) ts (.target equals left) := by
  obtain ⟨d, rfl, tree⟩ := ladder_derives readLeft
  obtain ⟨right, rfl, -⟩ := expression_derives readRight
  exact ⟨[], rest, stack, d, ⟨equals, equal⟩, right, rfl, rfl, tree, plain, .none _,
    expression_stops readRight⟩

mutual

/-- Rule by rule, what is answered says where in the words of the loose grammar the reading has
come: here for expressions, below for the rules they are made of. -/
theorem expression_tracks {stack : List Part} {ts : List Token}
    (follows : Follows .expression stack) :
    Tracks finish (.rule .expression :: stack) ts (expression finish ts).plain stack := by
  have start : Leads (.rule .expression :: stack) ts
      (.rule (.operand Operator.levels) :: .rule .value :: stack) ts :=
    leads_only [.rule (.operand Operator.levels), .rule .value] rfl
  have operand : Tracks finish _ ts (ladder finish Operator.levels ts).plain _ :=
    ladder_tracks (follows_value follows)
  have tracks := start.tracks operand
  rw [plain_expression]
  cases readLeft : (ladder finish Operator.levels ts).plain with
  | error e =>
    rw [readLeft] at tracks
    exact tracks
  | ok answer =>
    obtain ⟨left, mid⟩ := answer
    have shorter := plain_shorter readLeft
    rw [readLeft] at tracks
    have leads : Leads (.rule .expression :: stack) ts (.rule .value :: stack) mid := tracks
    cases mid with
    | nil => exact leads.trans (leads_noValue (by simp))
    | cons equals after =>
      have longer : after.length < ts.length := Nat.lt_of_succ_lt shorter
      simp only [Answer.andThen_ok]
      split
      · next equal =>
        -- The value is read before the left side is looked at, so an error in it comes first.
        have leads := leads.trans (leads_value equal follows)
        have right : Tracks finish (.rule .expression :: stack) after
            (expression finish after).plain stack := expression_tracks follows
        cases readRight : (expression finish after).plain with
        | error e =>
          rw [readRight] at right
          exact leads.refused right
        | ok answer =>
          obtain ⟨value, rest⟩ := answer
          rw [readRight] at right
          cases left with
          | reference name token => exact leads.trans right
          | _ => exact misassigned readLeft equal readRight (by simp) stack
      · next other => exact leads.trans (leads_noValue (by simpa using other))
termination_by (ts.length, Operator.levels + 2)
decreasing_by all_goals (rw [Prod.lex_def]; omega)

theorem ladder_tracks {level : Nat} {stack : List Part} {ts : List Token}
    (follows : Follows (.operand level) stack) :
    Tracks finish (.rule (.operand level) :: stack) ts (ladder finish level ts).plain stack := by
  cases level with
  | zero =>
    rw [plain_ladder_zero]
    exact unary_tracks
  | succ level =>
    rw [plain_ladder_succ]
    refine Leads.tracks (leads_only _ rfl) ?_
    refine (ladder_tracks (follows_operations follows)).andThen fun first mid readFirst => ?_
    have shorter := plain_shorter readFirst
    exact chain_tracks follows
termination_by (ts.length, level + 1)
decreasing_by all_goals (rw [Prod.lex_def]; omega)

/-- Each round of the repetition leads from the repetition to itself. -/
theorem chain_tracks {level : Nat} {left : Expr} {stack : List Part} {ts : List Token}
    (follows : Follows (.operand (level + 1)) stack) :
    Tracks finish (.rule (.operations level) :: stack) ts
      (Extended.plain (chain finish level left ts)) stack := by
  cases ts with
  | nil =>
    rw [plain_chain_nil]
    exact leads_noOperation (by simp)
  | cons sign after =>
    rw [plain_chain_cons]
    split
    · next none => exact leads_noOperation (by simpa using none)
    · next op found =>
      refine Leads.tracks (leads_operation found follows) ?_
      refine (ladder_tracks (follows_operations follows)).andThen fun right mid readRight => ?_
      have shorter := plain_shorter readRight
      exact chain_tracks follows
termination_by (ts.length, 0)
decreasing_by all_goals (rw [Prod.lex_def, List.length_cons]; omega)

theorem unary_tracks {stack : List Part} {ts : List Token} :
    Tracks finish (.rule (.operand 0) :: stack) ts (unary finish ts).plain stack := by
  cases ts with
  | nil =>
    rw [plain_unary_nil]
    exact refused_here (opens_operand 0 stack) (by simp) .expression
  | cons t after =>
    rw [plain_unary_cons]
    split
    · next op found =>
      refine Leads.tracks (leads_sign found) ?_
      exact unary_tracks.andThen fun _ _ _ => Leads.refl _ _
    · next none => exact Leads.tracks (leads_noSign none) primary_tracks
termination_by (ts.length, 0)
decreasing_by all_goals (rw [Prod.lex_def, List.length_cons]; omega)

theorem primary_tracks {t : Token} {stack : List Part} {after : List Token} :
    Tracks finish (.rule .primary :: stack) (t :: after) (primary finish t after).plain stack := by
  rw [plain_primary]
  split
  · next value found => exact leads_primary [] (mem_primary_of_value found)
  · next noValue =>
    split
    · next kind => exact leads_primary [] (by simp [Rule.productions, kind])
    · next kind =>
      refine Leads.tracks (leads_primary [.rule .expression, .mark .rightParen]
        (by simp [Rule.productions, kind])) ?_
      refine (expression_tracks (follows_mark rfl (by decide) stack)).andThen fun inner mid _ => ?_
      exact (expect_tracks _ _ _ _).andThen fun _ _ _ => Leads.refl _ _
    · next noName noParen =>
      refine refused_here (opens_primary stack) ?_ .expression
      rintro _ ⟨⟩ starts
      unfold startsPrimary at starts
      unfold Value.ofToken? at noValue
      split at starts <;> simp_all
termination_by (after.length, Operator.levels + 3)
decreasing_by all_goals (rw [Prod.lex_def]; omega)

end

end Loose

end Scriptlet.Grammar
