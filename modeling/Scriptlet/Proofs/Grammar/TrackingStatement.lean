/-
Scriptlet.Proofs.Grammar.TrackingStatement — statements are read along the loose
grammar.

The first token of a declaration or statement decides which production it follows,
here as in the loose grammar, so each rule is one lemma for that choice and then the
rules that it goes to. What an `if` may end before, a word that starts with `else`,
stands behind no declaration (`follows_declarations`).

At the end stand programs and expressions as whole streams: an error of either is
one of those that `Refused` allows.
-/
import Scriptlet.Proofs.Grammar.Tracking

namespace Scriptlet.Grammar.Loose

variable {finish : Token}

/-! ## 1. Which production is followed -/

section

variable {stack : List Part} {ts : List Token} {t : Token} {after : List Token}

/-- Without the word `else` the option is left out. -/
theorem leads_noElse (other : ∀ t ∈ ts.head?, t.kind ≠ .keyword .elseWord) :
    Leads (.rule .otherwise :: stack) ts stack ts :=
  leads_first [] rfl ((opens_token _ _).unread other)

/-- The word `else` takes the option, and a block is still to come. -/
theorem leads_else (kind : t.kind = .keyword .elseWord) (follows : Follows .declaration stack) :
    Leads (.rule .otherwise :: stack) (t :: after) (.rule .block :: stack) after := by
  refine Leads.trans (leads_second [.word .elseWord, .rule .block] rfl
    fun word head taken => ?_) (Leads.token kind)
  exact follows word taken t head kind

/-- The keyword leads to the one production that starts with it. -/
theorem leads_var (kind : t.kind = .keyword .varWord) :
    Leads (.rule .declaration :: stack) (t :: after)
      (.token .identifier :: .rule .value :: .mark .semicolon :: stack) after := by
  refine Leads.trans (leads_first
    [.word .varWord, .token .identifier, .rule .value, .mark .semicolon] rfl
    ((opens_statement stack).unread ?_)) (Leads.token kind)
  rintro _ ⟨⟩
  rw [kind]
  decide

/-- Without the keyword a declaration is a statement. -/
theorem leads_noVar (other : ∀ t ∈ ts.head?, t.kind ≠ .keyword .varWord) :
    Leads (.rule .declaration :: stack) ts (.rule .statement :: stack) ts :=
  leads_second [.rule .statement] rfl ((opens_token _ _).unread other)

/-- A statement that starts with a word of its own. -/
theorem leads_keyword {k : Keyword} {others : List Part} (kind : t.kind = .keyword k)
    (mem : .word k :: others ∈ Rule.statement.productions) :
    Leads (.rule .statement :: stack) (t :: after) (others ++ stack) after := by
  refine Leads.trans ?_ (Leads.token kind)
  refine Leads.expand _ mem fun production mem' word head taken => ?_
  simp only [Rule.productions, List.mem_cons, List.not_mem_nil, or_false] at mem mem'
  rcases mem' with rfl | rfl | rfl | rfl | rfl
  · have same := (opens_token _ _).of_head taken head
    cases kind.symm.trans same
    simpa [eq_comm] using mem
  · have same := (opens_token _ _).of_head taken head
    cases kind.symm.trans same
    simpa [eq_comm] using mem
  · have same := (opens_token _ _).of_head taken head
    cases kind.symm.trans same
    simpa [eq_comm] using mem
  · cases kind.symm.trans ((opens_block _).of_head taken head)
  · have starts := (opens_expression _).of_head taken head
    rw [kind] at starts
    rcases mem with mem | mem | mem | mem | mem <;> cases mem <;> cases starts

/-- An opening brace leads to a block, and is not taken yet. -/
theorem leads_block (kind : t.kind = .mark .leftBrace) :
    Leads (.rule .statement :: stack) (t :: after) (.rule .block :: stack) (t :: after) := by
  refine Leads.expand [.rule .block] (by simp [Rule.productions])
    fun production mem word head taken => ?_
  simp only [Rule.productions, List.mem_cons, List.not_mem_nil, or_false] at mem
  rcases mem with rfl | rfl | rfl | rfl | rfl
  · cases kind.symm.trans ((opens_token _ _).of_head taken head)
  · cases kind.symm.trans ((opens_token _ _).of_head taken head)
  · cases kind.symm.trans ((opens_token _ _).of_head taken head)
  · rfl
  · have starts := (opens_expression _).of_head taken head
    rw [kind] at starts
    cases starts

def startsOwn : Token.Kind → Bool
  | .keyword .printWord => true
  | .keyword .ifWord => true
  | .keyword .whileWord => true
  | .mark .leftBrace => true
  | _ => false

/-- Any other token leads to an expression statement, also one that cannot start an expression. -/
theorem leads_effect (other : ∀ t ∈ ts.head?, ¬startsOwn t.kind = true) :
    Leads (.rule .statement :: stack) ts (.rule .expression :: .mark .semicolon :: stack) ts := by
  refine Leads.expand [.rule .expression, .mark .semicolon] (by simp [Rule.productions])
    fun production mem word head taken => ?_
  have excluded {P : Token.Kind → Prop} (opens : Opens (production ++ stack) P)
      (own : ∀ kind, P kind → startsOwn kind = true) : False :=
    (opens.mono own).unread other word head taken
  simp only [Rule.productions, List.mem_cons, List.not_mem_nil, or_false] at mem
  rcases mem with rfl | rfl | rfl | rfl | rfl
  · exact (excluded (opens_token _ _) (by rintro _ rfl; rfl)).elim
  · exact (excluded (opens_token _ _) (by rintro _ rfl; rfl)).elim
  · exact (excluded (opens_token _ _) (by rintro _ rfl; rfl)).elim
  · exact (excluded (opens_block _) (by rintro _ rfl; rfl)).elim
  · rfl

end

/-- Neither the end of a list of declarations nor one more of them starts with `else`. -/
theorem follows_declarations {stack : List Part} (follows : Follows .declaration stack) :
    Follows .declaration (.rule .declarations :: stack) := by
  intro word taken t head
  obtain ⟨production, mem, taken⟩ := takes_rule taken
  simp only [Rule.productions, List.mem_cons, List.not_mem_nil, or_false] at mem
  rcases mem with rfl | rfl
  · exact follows word taken t head
  · rintro (kind : t.kind = .keyword .elseWord)
    have starts := (opens_declaration _).of_head taken head
    rw [kind] at starts
    obtain starts | starts := starts <;> cases starts

/-- A closing brace does not go on with a declaration. -/
theorem follows_rightBrace (stack : List Part) :
    Follows .declaration (.mark .rightBrace :: stack) := by
  rintro word taken t head (kind : t.kind = .keyword .elseWord)
  have same := (opens_token _ _).of_head taken head
  rw [kind] at same
  cases same

theorem follows_nothing (n : Nonterminal) : Follows n [] := by
  intro word taken
  rw [takes_nil taken]
  exact stops_nil n

/-- One more declaration, unless the list may end before the next token. -/
theorem leads_declaration {t : Token} {after : List Token} {stack : List Part}
    (more : ∀ word, Takes stack word [] → word.head? ≠ some t) :
    Leads (.rule .declarations :: stack) (t :: after)
      (.rule .declaration :: .rule .declarations :: stack) (t :: after) :=
  leads_second [.rule .declaration, .rule .declarations] rfl
    fun word head taken => more word taken head

/-- The closing brace ends the repetition and its block. -/
theorem leads_rightBrace {t : Token} {after : List Token} {stack : List Part}
    (kind : t.kind = .mark .rightBrace) :
    Leads (.rule .declarations :: .mark .rightBrace :: stack) (t :: after) stack after := by
  refine Leads.trans (leads_first [] rfl ((opens_declaration _).unread ?_)) (Leads.token kind)
  rintro _ ⟨⟩
  rw [kind]
  decide

/-- Inside of a block any token may come, if only to be refused. -/
theorem opens_inside (stack : List Part) :
    Opens (.rule .declarations :: .mark .rightBrace :: stack) fun _ => True := by
  refine opens_rule fun production mem => ?_
  simp only [Rule.productions, List.mem_cons, List.not_mem_nil, or_false] at mem
  rcases mem with rfl | rfl
  · exact (opens_token _ _).mono fun _ _ => trivial
  · exact (opens_declaration _).mono fun _ _ => trivial

/-! ## 2. The rules -/

section

variable {stack : List Part} {ts : List Token}

/-- The option of a first value is taken or left out. -/
theorem firstValue_tracks (follows : Follows .expression stack) :
    Tracks finish (.rule .value :: stack) ts (Extended.plain (firstValue finish ts)) stack := by
  cases ts with
  | nil => exact leads_noValue (by simp)
  | cons t after =>
    rw [plain_firstValue_cons]
    split
    · next equal =>
      refine Leads.tracks (leads_value equal follows) ?_
      exact (expression_tracks follows).andThen fun _ _ _ => Leads.refl _ _
    · next other => exact leads_noValue (by simpa using other)

theorem afterVar_tracks (keyword : Token) :
    Tracks finish (.token .identifier :: .rule .value :: .mark .semicolon :: stack) ts
      (afterVar finish keyword ts).plain stack := by
  rw [plain_afterVar]
  refine (expect_tracks _ _ _ _).andThen fun name us _ => ?_
  refine (firstValue_tracks (follows_mark rfl (by decide) stack)).andThen fun value us _ => ?_
  exact (expect_tracks _ _ _ _).andThen fun _ _ _ => Leads.refl _ _

theorem afterPrint_tracks (keyword : Token) :
    Tracks finish (.rule .expression :: .mark .semicolon :: stack) ts
      (afterPrint finish keyword ts).plain stack := by
  rw [plain_afterPrint]
  refine (expression_tracks (follows_mark rfl (by decide) stack)).andThen fun e us _ => ?_
  exact (expect_tracks _ _ _ _).andThen fun _ _ _ => Leads.refl _ _

theorem expressionStatement_tracks :
    Tracks finish (.rule .expression :: .mark .semicolon :: stack) ts
      (expressionStatement finish ts).plain stack := by
  rw [plain_expressionStatement]
  refine (expression_tracks (follows_mark rfl (by decide) stack)).andThen fun e us _ => ?_
  exact (expect_tracks _ _ _ _).andThen fun _ _ _ => Leads.refl _ _

theorem condition_tracks (keyword : Token) :
    Tracks finish (.mark .leftParen :: .rule .expression :: .mark .rightParen :: stack) ts
      (condition finish keyword ts).plain stack := by
  rw [plain_condition]
  refine (expect_tracks _ _ _ _).andThen fun opening us _ => ?_
  refine (expression_tracks (follows_mark rfl (by decide) stack)).andThen fun e us _ => ?_
  exact (expect_tracks _ _ _ _).andThen fun _ _ _ => Leads.refl _ _

end

mutual

/-- Declarations, statements and blocks in turn: the stack holds what is still demanded of those
that were begun. -/
theorem declaration_tracks {stack : List Part} {ts : List Token}
    (follows : Follows .declaration stack) :
    Tracks finish (.rule .declaration :: stack) ts (declaration finish ts).plain stack := by
  cases ts with
  | nil =>
    rw [plain_declaration_nil]
    refine Leads.tracks (leads_noVar (by simp)) ?_
    exact Leads.tracks (leads_effect (by simp)) expressionStatement_tracks
  | cons t after =>
    rw [plain_declaration_cons]
    split
    · next kind => exact Leads.tracks (leads_var kind) (afterVar_tracks t)
    · next kind =>
      refine Leads.tracks (leads_noVar (by simp [kind])) ?_
      exact Leads.tracks (leads_keyword kind List.mem_cons_self) (afterPrint_tracks t)
    · next kind =>
      refine Leads.tracks (leads_noVar (by simp [kind])) ?_
      refine Leads.tracks (leads_keyword kind (.tail _ List.mem_cons_self)) ?_
      refine (condition_tracks t).andThen fun test us readTest => ?_
      have shorter := plain_shorter readTest
      refine block_tracks.andThen fun thenBlock us' readThen => ?_
      have shorterThen := plain_shorter readThen
      exact (elseBlock_tracks follows).andThen fun _ _ _ => Leads.refl _ _
    · next kind =>
      refine Leads.tracks (leads_noVar (by simp [kind])) ?_
      refine Leads.tracks (leads_keyword kind (.tail _ (.tail _ List.mem_cons_self))) ?_
      refine (condition_tracks t).andThen fun test us readTest => ?_
      have shorter := plain_shorter readTest
      exact block_tracks.andThen fun _ _ _ => Leads.refl _ _
    · next kind =>
      refine Leads.tracks (leads_noVar (by simp [kind])) ?_
      refine Leads.tracks (leads_block kind) ?_
      exact block_tracks.andThen fun _ _ _ => Leads.refl _ _
    · next noVar noPrint noIf noWhile noBlock =>
      refine Leads.tracks (leads_noVar (by simpa using noVar)) ?_
      refine Leads.tracks (leads_effect ?_) expressionStatement_tracks
      rintro _ ⟨⟩ own
      unfold startsOwn at own
      split at own <;> simp_all
termination_by (ts.length, 1)
decreasing_by all_goals (rw [Prod.lex_def, List.length_cons]; omega)

theorem block_tracks {stack : List Part} {ts : List Token} :
    Tracks finish (.rule .block :: stack) ts (block finish ts).plain stack := by
  rw [plain_block]
  refine Leads.tracks (leads_only _ rfl) ?_
  refine (expect_tracks _ _ _ _).andThen fun opening us readOpening => ?_
  have shorter := plain_shorter readOpening
  exact declarations_tracks.andThen fun _ _ _ => Leads.refl _ _
termination_by (ts.length, 0)
decreasing_by all_goals (rw [Prod.lex_def]; omega)

/-- In a block the declarations go on to the brace, and a refusal comes from one of them or from
the end of the stream. -/
theorem declarations_tracks {stack : List Part} {ts : List Token} :
    Tracks finish (.rule .declarations :: .mark .rightBrace :: stack) ts
      (declarations finish ts).plain stack := by
  cases ts with
  | nil =>
    rw [plain_declarations_nil]
    exact refused_here (opens_inside stack) (by simp) .blockEnd
  | cons t after =>
    rw [plain_declarations_cons]
    split
    · next brace => exact leads_rightBrace brace
    · next other =>
      refine Leads.tracks (leads_declaration fun word taken head => ?_) ?_
      · exact other ((opens_token _ _).of_head taken head)
      have follows := follows_declarations (follows_rightBrace stack)
      refine (declaration_tracks follows).andThen fun first us readFirst => ?_
      have shorter := plain_shorter readFirst
      exact declarations_tracks.andThen fun _ _ _ => Leads.refl _ _
termination_by (ts.length, 2)
decreasing_by all_goals (rw [Prod.lex_def]; omega)

theorem elseBlock_tracks {stack : List Part} {ts : List Token}
    (follows : Follows .declaration stack) :
    Tracks finish (.rule .otherwise :: stack) ts (Extended.plain (elseBlock finish ts)) stack := by
  cases ts with
  | nil =>
    rw [plain_elseBlock_nil]
    exact leads_noElse (by simp)
  | cons t after =>
    rw [plain_elseBlock_cons]
    split
    · next kind =>
      refine Leads.tracks (leads_else kind follows) ?_
      exact block_tracks.andThen fun _ _ _ => Leads.refl _ _
    · next other => exact leads_noElse (by simpa using other)
termination_by (ts.length, 0)
decreasing_by all_goals (rw [Prod.lex_def, List.length_cons]; omega)

end

/-! ## 3. Whole streams -/

/-- A refused program says which token is wrong. -/
theorem program_refused {ts : List Token} {e : ParseError} (read : program finish ts = .error e) :
    Refused finish [.rule .program] ts e := by
  cases ts with
  | nil =>
    rw [program_nil] at read
    cases read
  | cons t after =>
    have leads : Leads [.rule .program] (t :: after) [.rule .declaration, .rule .program]
        (t :: after) := by
      refine leads_declaration fun word taken head => ?_
      rw [takes_nil taken] at head
      cases head
    have tracks : Tracks finish [.rule .declaration, .rule .program] (t :: after)
        (declaration finish (t :: after)).plain [.rule .program] :=
      declaration_tracks (follows_declarations (follows_nothing _))
    rw [program_cons] at read
    cases readFirst : (declaration finish (t :: after)).plain with
    | error e' =>
      rw [readFirst] at read tracks
      cases read
      exact leads.refused tracks
    | ok answer =>
      obtain ⟨first, rest⟩ := answer
      have shorter := plain_shorter readFirst
      rw [readFirst] at read tracks
      rw [Answer.andThen_ok] at read
      split at read
      · cases read
      · next e' readOthers =>
        cases read
        exact (leads.trans tracks).refused (program_refused readOthers)
termination_by ts.length

/-- For an expression the end marker may be that token. -/
theorem expression_refused {stream : Stream} {e : ParseError}
    (read : Expr.ofStream stream = .error e) :
    Refused stream.finish [.rule .expression] stream.body e := by
  have tracks : Tracks stream.finish [.rule .expression] stream.body
      (expression stream.finish stream.body).plain [] :=
    expression_tracks (follows_nothing _)
  rw [ofStream_expr] at read
  cases readAll : (expression stream.finish stream.body).plain with
  | error e' =>
    rw [readAll] at read tracks
    cases read
    exact tracks
  | ok answer =>
    obtain ⟨value, rest⟩ := answer
    rw [readAll] at read tracks
    cases rest with
    | nil => cases read
    | cons t after =>
      -- The stack is empty here, so no token goes on with what was read.
      cases read
      obtain ⟨ts, word, taken, forced⟩ := tracks
      refine ⟨ts, t :: after, [], word, rfl, taken, fun more head whole => ?_⟩
      rw [takes_nil (forced more head whole)] at head
      cases head

end Scriptlet.Grammar.Loose
