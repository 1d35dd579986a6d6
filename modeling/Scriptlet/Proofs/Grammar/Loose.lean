/-
Scriptlet.Proofs.Grammar.Loose — the grammar that allows any operand left of an
equals sign.

    program     := declaration*
    declaration := "var" name ( "=" expression )? ";" | statement
    statement   := "print" expression ";"
                 | "if" "(" expression ")" block ( "else" block )?
                 | "while" "(" expression ")" block
                 | block
                 | expression ";"
    block       := "{" declaration* "}"
    expression  := or ( "=" expression )?

and the rules from `or` down to `primary` as they are. A target is read like any
other operand and looked at later, so this is the grammar that decides how far a
script is read.

The rules are data here. What is still to be read is a stack of their parts, and
`Takes` is the derivation of tokens from a stack, with its leftmost part expanded
first. A stack that is left can always be read to its end (`exists_takes`), so
tokens that a stack takes are the beginning of one of its words.
-/
import Scriptlet.Proofs.Grammar.Completeness

namespace Scriptlet.Grammar.Loose

/-! ## 1. The rules -/

/-- What the loose grammar has rules for. Each option and each repetition is a rule
of its own. -/
inductive Rule
  /-- `declaration*` -/
  | declarations
  | declaration
  | statement
  /-- `( "else" block )?` -/
  | otherwise
  | block
  | expression
  /-- `( "=" expression )?` -/
  | value
  /-- An operand of the operators of a level: `unary`, …, `and`, and at last `or`. -/
  | operand (level : Nat)
  /-- Operators of a level, each with the operand right of it, as often as may be. -/
  | operations (level : Nat)
  | primary

abbrev Rule.program : Rule := .declarations

/-- What a rule is made of. -/
inductive Part
  | token (kind : Token.Kind)
  | rule (rule : Rule)

abbrev Part.mark (m : Mark) : Part := .token (.mark m)

abbrev Part.word (k : Keyword) : Part := .token (.keyword k)

def Rule.productions : Rule → List (List Part)
  | .declarations => [[], [.rule .declaration, .rule .declarations]]
  | .declaration =>
    [[.word .varWord, .token .identifier, .rule .value, .mark .semicolon],
     [.rule .statement]]
  | .statement =>
    [[.word .printWord, .rule .expression, .mark .semicolon],
     [.word .ifWord, .mark .leftParen, .rule .expression, .mark .rightParen, .rule .block,
      .rule .otherwise],
     [.word .whileWord, .mark .leftParen, .rule .expression, .mark .rightParen, .rule .block],
     [.rule .block],
     [.rule .expression, .mark .semicolon]]
  | .otherwise => [[], [.word .elseWord, .rule .block]]
  | .block => [[.mark .leftBrace, .rule .declarations, .mark .rightBrace]]
  | .expression => [[.rule (.operand Operator.levels), .rule .value]]
  | .value => [[], [.mark .equal, .rule .expression]]
  | .operand 0 =>
    [[.mark .bang, .rule (.operand 0)], [.mark .minus, .rule (.operand 0)], [.rule .primary]]
  | .operand (level + 1) => [[.rule (.operand level), .rule (.operations level)]]
  | .operations level =>
    [] :: (Operator.ofLevel level).map fun op =>
      [.token op.kind, .rule (.operand level), .rule (.operations level)]
  | .primary =>
    [[.token .number], [.token .text], [.word .trueWord], [.word .falseWord], [.word .nilWord],
     [.token .identifier], [.mark .leftParen, .rule .expression, .mark .rightParen]]

/-- From the stack the tokens can be read, and what is then still to be read is `left`. -/
inductive Takes : (stack : List Part) → List Token → (left : List Part) → Prop
  | none (stack : List Part) : Takes stack [] stack
  | token {t : Token} {stack left : List Part} {ts : List Token} (taken : Takes stack ts left) :
      Takes (.token t.kind :: stack) (t :: ts) left
  | expand {rule : Rule} {production stack left : List Part} {ts : List Token}
      (mem : production ∈ rule.productions) (taken : Takes (production ++ stack) ts left) :
      Takes (.rule rule :: stack) ts left

def Word (rule : Rule) (ts : List Token) : Prop := Takes [.rule rule] ts []

/-- The tokens are the beginning of a word of the rule. -/
def Begins (rule : Rule) (ts : List Token) : Prop := ∃ more, Word rule (ts ++ more)

/-! ## 2. Stacks -/

section

variable {stack mid left : List Part} {ts us : List Token}

/-- What is still to be read after the one part is read by the other. -/
theorem Takes.trans (first : Takes stack ts mid) (second : Takes mid us left) :
    Takes stack (ts ++ us) left := by
  induction first with
  | none => exact second
  | token _ ih => exact .token (ih second)
  | expand mem _ ih => exact .expand mem (ih second)

theorem Takes.tokenOf {kind : Token.Kind} {t : Token} (same : t.kind = kind)
    (taken : Takes stack ts left) : Takes (.token kind :: stack) (t :: ts) left := by
  subst same
  exact .token taken

/-- Nothing is left to read, so nothing is read. -/
theorem takes_nil (taken : Takes [] ts []) : ts = [] := by
  cases taken
  rfl

/-- A token on top takes one token, and the stack below takes the rest. -/
theorem takes_token {kind : Token.Kind} (taken : Takes (.token kind :: stack) ts []) :
    ∃ t us, ts = t :: us ∧ t.kind = kind ∧ Takes stack us [] := by
  cases taken with
  | token taken => exact ⟨_, _, rfl, rfl, taken⟩

/-- A rule on top is replaced by one of its productions. -/
theorem takes_rule {rule : Rule} (taken : Takes (.rule rule :: stack) ts []) :
    ∃ production ∈ rule.productions, Takes (production ++ stack) ts [] := by
  cases taken with
  | expand mem taken => exact ⟨_, mem, taken⟩

end

theorem takes_empty (rule : Rule) (mem : [] ∈ rule.productions) (stack : List Part) :
    Takes (.rule rule :: stack) [] stack :=
  .expand mem (.none stack)

/-! ## 3. Every stack can be read to its end -/

def sample (kind : Token.Kind) : Token := { kind, lexeme := kind.name, line := 1, start := 0 }

theorem takes_sample (kind : Token.Kind) (stack : List Part) :
    Takes (.token kind :: stack) [sample kind] stack :=
  .tokenOf rfl (.none stack)

/-- A token that is an expression by itself is an operand of every level. -/
theorem takes_operand {t : Token} (mem : [.token t.kind] ∈ Rule.primary.productions) (level : Nat)
    (stack : List Part) : Takes (.rule (.operand level) :: stack) [t] stack := by
  induction level generalizing stack with
  | zero =>
    have alone : [.rule .primary] ∈ (Rule.operand 0).productions := by simp [Rule.productions]
    exact .expand alone (.expand mem (.token (.none stack)))
  | succ level ih =>
    exact .expand List.mem_cons_self ((ih _).trans (takes_empty _ List.mem_cons_self stack))

def sampleValue : Token := sample (.keyword .nilWord)

theorem sampleValue_mem : [.token sampleValue.kind] ∈ Rule.primary.productions := by
  simp [Rule.productions, sampleValue, sample]

/-- An expression can always be had for one token. -/
theorem takes_expression (stack : List Part) :
    Takes (.rule .expression :: stack) [sampleValue] stack :=
  .expand List.mem_cons_self
    ((takes_operand sampleValue_mem _ _).trans (takes_empty _ List.mem_cons_self stack))

/-- A statement can always be had for two tokens, the second a semicolon. -/
theorem takes_statement (stack : List Part) :
    Takes (.rule .statement :: stack) [sampleValue, sample (.mark .semicolon)] stack := by
  have mem : [.rule .expression, .mark .semicolon] ∈ Rule.statement.productions := by
    simp [Rule.productions]
  exact .expand mem ((takes_expression _).trans (takes_sample _ stack))

/-- Every rule has a word, so every stack can be read to its end. -/
theorem exists_takes_rule (rule : Rule) : ∃ ts, ∀ stack, Takes (.rule rule :: stack) ts stack := by
  cases rule with
  | declarations | otherwise | value | operations => exact ⟨[], takes_empty _ List.mem_cons_self⟩
  | declaration =>
    have mem : [.rule .statement] ∈ Rule.declaration.productions := by simp [Rule.productions]
    exact ⟨_, fun stack => .expand mem (takes_statement stack)⟩
  | statement => exact ⟨_, takes_statement⟩
  | block =>
    refine ⟨[sample (.mark .leftBrace)] ++ [] ++ [sample (.mark .rightBrace)], fun stack => ?_⟩
    refine .expand List.mem_cons_self (((takes_sample _ _).trans ?_).trans (takes_sample _ stack))
    exact takes_empty _ List.mem_cons_self _
  | expression => exact ⟨_, takes_expression⟩
  | operand level => exact ⟨_, takes_operand sampleValue_mem level⟩
  | primary => exact ⟨[sampleValue], fun stack => .expand sampleValue_mem (.token (.none stack))⟩

/-- Whatever is still to be read, there are tokens to read it from. -/
theorem exists_takes (stack : List Part) : ∃ ts, Takes stack ts [] := by
  induction stack with
  | nil => exact ⟨[], .none []⟩
  | cons part stack ih =>
    obtain ⟨more, rest⟩ := ih
    cases part with
    | token kind => exact ⟨_, (takes_sample kind stack).trans rest⟩
    | rule rule =>
      obtain ⟨ts, first⟩ := exists_takes_rule rule
      exact ⟨_, (first stack).trans rest⟩

/-- What a stack has taken can be completed to a word of the rule. -/
theorem Takes.begins {rule : Rule} {ts : List Token} {left : List Part}
    (taken : Takes [.rule rule] ts left) : Begins rule ts := by
  obtain ⟨more, rest⟩ := exists_takes left
  exact ⟨more, taken.trans rest⟩

/-! ## 4. First tokens -/

/-- Each word that can be read from the stack starts with a token of one of these kinds. -/
def Opens (stack : List Part) (P : Token.Kind → Prop) : Prop :=
  ∀ word, Takes stack word [] → ∃ t ∈ word.head?, P t.kind

/-- No word that can be read from the stack goes on with a word of the nonterminal. -/
def Follows (n : Nonterminal) (stack : List Part) : Prop :=
  ∀ word, Takes stack word [] → n.Stops word

theorem opens_token (kind : Token.Kind) (stack : List Part) :
    Opens (.token kind :: stack) (· = kind) := by
  intro word taken
  obtain ⟨t, us, rfl, same, -⟩ := takes_token taken
  exact ⟨t, rfl, same⟩

theorem Opens.mono {stack : List Part} {P Q : Token.Kind → Prop} (opens : Opens stack P)
    (sub : ∀ kind, P kind → Q kind) : Opens stack Q := by
  intro word taken
  obtain ⟨t, head, known⟩ := opens word taken
  exact ⟨t, head, sub _ known⟩

/-- What the alternatives of a rule start with is what the rule starts with. -/
theorem opens_rule {rule : Rule} {stack : List Part} {P : Token.Kind → Prop}
    (each : ∀ production ∈ rule.productions, Opens (production ++ stack) P) :
    Opens (.rule rule :: stack) P := by
  intro word taken
  obtain ⟨production, mem, taken⟩ := takes_rule taken
  exact each production mem word taken

/-- The loose rules start as the nonterminals do: first a primary, then what is built of it. -/
theorem opens_primary (stack : List Part) :
    Opens (.rule .primary :: stack) (startsPrimary · = true) := by
  refine opens_rule fun production mem => ?_
  simp only [Rule.productions, List.mem_cons, List.not_mem_nil, or_false] at mem
  rcases mem with rfl | rfl | rfl | rfl | rfl | rfl | rfl <;>
    exact (opens_token _ _).mono (by rintro _ rfl; rfl)

theorem opens_operand (level : Nat) (stack : List Part) :
    Opens (.rule (.operand level) :: stack) (startsExpression · = true) := by
  induction level generalizing stack with
  | zero =>
    refine opens_rule fun production mem => ?_
    simp only [Rule.productions, List.mem_cons, List.not_mem_nil, or_false] at mem
    rcases mem with rfl | rfl | rfl
    · exact (opens_token _ _).mono (by rintro _ rfl; rfl)
    · exact (opens_token _ _).mono (by rintro _ rfl; rfl)
    · exact (opens_primary _).mono fun _ => startsExpression_of_primary
  | succ level ih =>
    refine opens_rule fun production mem => ?_
    simp only [Rule.productions, List.mem_singleton] at mem
    subst mem
    exact ih _

/-- Also the loose target of an assignment starts like an expression. -/
theorem opens_expression (stack : List Part) :
    Opens (.rule .expression :: stack) (startsExpression · = true) := by
  refine opens_rule fun production mem => ?_
  simp only [Rule.productions, List.mem_singleton] at mem
  subst mem
  exact opens_operand _ _

theorem opens_block (stack : List Part) :
    Opens (.rule .block :: stack) (· = .mark .leftBrace) := by
  refine opens_rule fun production mem => ?_
  simp only [Rule.productions, List.mem_singleton] at mem
  subst mem
  exact opens_token _ _

theorem opens_statement (stack : List Part) :
    Opens (.rule .statement :: stack) (startsStatement · = true) := by
  refine opens_rule fun production mem => ?_
  simp only [Rule.productions, List.mem_cons, List.not_mem_nil, or_false] at mem
  rcases mem with rfl | rfl | rfl | rfl | rfl
  · exact (opens_token _ _).mono (by rintro _ rfl; rfl)
  · exact (opens_token _ _).mono (by rintro _ rfl; rfl)
  · exact (opens_token _ _).mono (by rintro _ rfl; rfl)
  · exact (opens_block _).mono (by rintro _ rfl; rfl)
  · exact (opens_expression _).mono fun _ => startsStatement_of_expression

/-- A declaration starts with its keyword or like a statement. -/
theorem opens_declaration (stack : List Part) :
    Opens (.rule .declaration :: stack)
      fun kind => startsStatement kind = true ∨ kind = .keyword .varWord := by
  refine opens_rule fun production mem => ?_
  simp only [Rule.productions, List.mem_cons, List.not_mem_nil, or_false] at mem
  rcases mem with rfl | rfl
  · exact (opens_token _ _).mono fun _ => .inr
  · exact (opens_statement _).mono fun _ => .inl

/-! ## 5. Every word of the grammar is a word of the loose one -/

def ruleOf : Nonterminal → Rule
  | .declarations => .declarations
  | .declaration => .declaration
  | .statement => .statement
  | .block => .block
  | .expression => .expression
  | .operand level => .operand level
  | .operations level => .operations level
  | .primary => .primary

/-- The loose grammar derives all that the grammar does. -/
theorem takes_tokens {n : Nonterminal} (d : Derivation n) (stack : List Part) :
    Takes (.rule (ruleOf n) :: stack) d.tokens stack := by
  induction d generalizing stack with
  | noDeclaration => exact takes_empty _ List.mem_cons_self stack
  | oneMore first others ihFirst ihOthers =>
    exact .expand (.tail _ List.mem_cons_self) ((ihFirst _).trans (ihOthers stack))
  | declare keyword name semicolon =>
    refine .expand List.mem_cons_self (.tokenOf keyword.property (.tokenOf name.property ?_))
    exact (takes_empty _ List.mem_cons_self _).trans (.tokenOf semicolon.property (.none stack))
  | declareAs keyword name equals value semicolon ih =>
    refine .expand List.mem_cons_self (.tokenOf keyword.property (.tokenOf name.property ?_))
    refine .expand (.tail _ List.mem_cons_self) (.tokenOf equals.property ?_)
    exact (ih _).trans (.tokenOf semicolon.property (.none stack))
  | statement s ih => exact .expand (.tail _ List.mem_cons_self) (ih stack)
  | print keyword e semicolon ih =>
    refine .expand List.mem_cons_self (.tokenOf keyword.property ?_)
    exact (ih _).trans (.tokenOf semicolon.property (.none stack))
  | ifThen keyword opening condition closing thenBlock ihCondition ihThen =>
    refine .expand (.tail _ List.mem_cons_self)
      (.tokenOf keyword.property (.tokenOf opening.property ?_))
    refine (ihCondition _).trans (.tokenOf closing.property ?_)
    have taken := (ihThen _).trans (takes_empty .otherwise List.mem_cons_self stack)
    rw [List.append_nil] at taken
    exact taken
  | ifElse keyword opening condition closing thenBlock elseWord elseBlock ihCondition ihThen
      ihElse =>
    refine .expand (.tail _ List.mem_cons_self)
      (.tokenOf keyword.property (.tokenOf opening.property ?_))
    refine (ihCondition _).trans (.tokenOf closing.property ((ihThen _).trans ?_))
    exact .expand (.tail _ List.mem_cons_self) (.tokenOf elseWord.property (ihElse stack))
  | loop keyword opening condition closing body ihCondition ihBody =>
    refine .expand (.tail _ (.tail _ List.mem_cons_self))
      (.tokenOf keyword.property (.tokenOf opening.property ?_))
    exact (ihCondition _).trans (.tokenOf closing.property (ihBody stack))
  | nested b ih =>
    exact .expand (.tail _ (.tail _ (.tail _ List.mem_cons_self))) (ih stack)
  | effect e semicolon ih =>
    refine .expand (.tail _ (.tail _ (.tail _ (.tail _ List.mem_cons_self)))) ?_
    exact (ih _).trans (.tokenOf semicolon.property (.none stack))
  | block opening body closing ih =>
    refine .expand List.mem_cons_self (.tokenOf opening.property ?_)
    exact (ih _).trans (.tokenOf closing.property (.none stack))
  | assign name equals value ih =>
    have alone : [.token name.val.kind] ∈ Rule.primary.productions := by
      simp [Rule.productions, name.property]
    refine .expand List.mem_cons_self ((takes_operand alone _ _).trans ?_)
    exact .expand (.tail _ List.mem_cons_self) (.tokenOf equals.property (ih stack))
  | disjunction e ih =>
    have taken := (ih _).trans (takes_empty .value List.mem_cons_self stack)
    rw [List.append_nil] at taken
    exact .expand List.mem_cons_self taken
  | chain first operations ihFirst ihOperations =>
    exact .expand List.mem_cons_self ((ihFirst _).trans (ihOperations stack))
  | signed op sign operand ih =>
    cases op with
    | invert => exact .expand List.mem_cons_self (.tokenOf sign.property (ih stack))
    | negate =>
      exact .expand (.tail _ List.mem_cons_self) (.tokenOf sign.property (ih stack))
  | primary e ih =>
    exact .expand (.tail _ (.tail _ List.mem_cons_self)) (ih stack)
  | noOperation => exact takes_empty _ List.mem_cons_self stack
  | operation op mem sign right others ihRight ihOthers =>
    refine .expand (.tail _ (List.mem_map.mpr ⟨op, mem, rfl⟩)) (.tokenOf sign.property ?_)
    exact (ihRight _).trans (ihOthers stack)
  | numberLiteral t | textLiteral t | trueLiteral t | falseLiteral t | nilLiteral t
  | reference t =>
    have alone : [.token t.val.kind] ∈ Rule.primary.productions := by
      simp [Rule.productions, t.property]
    exact .expand alone (.token (.none stack))
  | parentheses opening inner closing ih =>
    have mem : [.mark .leftParen, .rule .expression, .mark .rightParen] ∈
        Rule.primary.productions := by simp [Rule.productions]
    refine .expand mem (.tokenOf opening.property ?_)
    exact (ih _).trans (.tokenOf closing.property (.none stack))

end Scriptlet.Grammar.Loose
