/-
Scriptlet.Proofs.Grammar.Continued — a program, and more tokens after it.

No declaration looks at the token after it but an `if` without `else`, and that one only
for the word `else`. So when the tokens of a program come first, the grammar reads them as
that program and then goes on as from the beginning, to a program or to an error
(`program_continued`). The end marker to blame for what is missing is the last one anyway.
-/
import Scriptlet.Proofs.Grammar.FirstError

namespace Scriptlet

open Grammar

/-- The program ends with an `if` that has no `else` branch yet. -/
def Program.OpenEnded (p : Program) : Prop :=
  ∃ keyword test thenBlock, p.getLast? = some (.ifThen keyword test thenBlock)

namespace Grammar

variable {finish : Token}

/-! ## 1. Declarations -/

/-- A declaration that is no `if` without `else` is read as such, whatever comes after it. -/
theorem reads_declaration (d : Derivation .declaration) {rest : List Token}
    (stops : Program.OpenEnded [d.tree] → Nonterminal.declaration.Stops rest) :
    (declaration finish (d.tokens ++ rest)).plain = .ok (d.tree, rest) := by
  match d with
  | .declare keyword name semicolon => exact reads_declare keyword name semicolon rest
  | .declareAs keyword name equals value semicolon =>
    exact reads_declareAs keyword name equals (reads_tokens value) semicolon rest
  | .statement s =>
    match s with
    | .print keyword e semicolon => exact reads_print keyword (reads_tokens e) semicolon rest
    | .ifThen keyword opening condition closing thenBlock =>
      exact reads_ifThen keyword opening (reads_tokens condition) closing (reads_tokens thenBlock)
        (stops ⟨_, _, _, rfl⟩)
    | .ifElse keyword opening condition closing thenBlock elseWord elseBlock =>
      exact reads_ifElse keyword opening (reads_tokens condition) closing (reads_tokens thenBlock)
        elseWord (reads_tokens elseBlock) rest
    | .loop keyword opening condition closing body =>
      exact reads_loop keyword opening (reads_tokens condition) closing (reads_tokens body) rest
    | .nested b => exact reads_nested (reads_tokens b) rest
    | .effect e semicolon => exact reads_effect (reads_tokens e) semicolon rest

/-- The next declaration stops the one before it, and the last one is stopped by what comes
after them all. -/
theorem stops_others (first : Stmt) (others : Derivation .declarations) {more : List Token}
    (stops : Program.OpenEnded (first :: others.tree) → Nonterminal.declaration.Stops more) :
    Program.OpenEnded [first] → Nonterminal.declaration.Stops (others.tokens ++ more) := by
  intro openEnded
  match others with
  | .noDeclaration => exact stops openEnded
  | .oneMore second others =>
    obtain ⟨t, u, word, starts⟩ := tokens_eq_cons second not_false
    rw [Derivation.tokens, word, List.append_assoc, List.cons_append, stops_cons]
    intro isElse
    rw [isElse] at starts
    obtain starts | starts := starts <;> cases starts

/-- After the tokens of a program the grammar goes on as from the beginning. -/
theorem program_append : (d : Derivation .program) → {more : List Token} →
    (Program.OpenEnded d.tree → Nonterminal.declaration.Stops more) →
    program finish (d.tokens ++ more) = (program finish more).map (d.tree ++ ·)
  | .noDeclaration, more, _ => by
    show program finish more = _
    cases program finish more <;> rfl
  | .oneMore first others, more, stops => by
    have readFirst : (declaration finish (first.tokens ++ (others.tokens ++ more))).plain =
        .ok (first.tree, others.tokens ++ more) :=
      reads_declaration first (stops_others first.tree others stops)
    have readOthers : program finish (others.tokens ++ more) =
        (program finish more).map (others.tree ++ ·) := by
      refine program_append others fun openEnded => stops ?_
      obtain ⟨keyword, test, thenBlock, last⟩ := openEnded
      refine ⟨keyword, test, thenBlock, ?_⟩
      rw [Derivation.tree, List.getLast?_cons, last]
      rfl
    obtain ⟨t, u, word, -⟩ := tokens_eq_cons first not_false
    rw [word, List.cons_append] at readFirst
    rw [Derivation.tokens, word, List.append_assoc, List.cons_append, program_cons, readFirst,
      Answer.andThen_ok, readOthers]
    cases program finish more <;> rfl

end Grammar

/-! ## 2. Lists of tokens -/

/-- Tokens in front of the first end marker only make the body longer. -/
theorem Stream.splitAtFinish?_append {ts : List Token} (free : ∀ t ∈ ts, t.isFinish = false)
    (ts' : List Token) :
    splitAtFinish? (ts ++ ts') =
      (splitAtFinish? ts').map fun s => { s with body := ts ++ s.body } := by
  induction ts with
  | nil => simp
  | cons t rest ih =>
    obtain ⟨noMarker, free⟩ := List.forall_mem_cons.mp free
    rw [List.cons_append, splitAtFinish?, if_neg (by simp [noMarker]), ih free]
    cases splitAtFinish? ts' <;> rfl

/-- The last token is the same, so a stream with more in front is a stream. -/
theorem Stream.ofTokens?_append {ts ts' : List Token} (free : ∀ t ∈ ts, t.isFinish = false)
    (some : ts' ≠ []) :
    ofTokens? (ts ++ ts') = (ofTokens? ts').map fun s => { s with body := ts ++ s.body } := by
  obtain ⟨last, final⟩ := Option.isSome_iff_exists.mp (List.getLast?_isSome.mpr some)
  rw [ofTokens?, ofTokens?, List.getLast?_append, final, splitAtFinish?_append free]
  by_cases marker : last.isFinish = true <;> simp [marker]

/-- Tokens that make a program by themselves make it in front of others, too. The others are
read as on their own, to a program that goes on with the first or to the same error. An `if`
without `else` at the end of the first must not be followed by that word. -/
theorem program_continued (ts ts' : List Token) (free : ∀ t ∈ ts, t.isFinish = false)
    (finish : Token) (marker : finish.isFinish = true) (p : Program)
    (read : ∃ stream, Stream.ofTokens? (ts ++ [finish]) = some stream ∧
      Program.ofStream stream = .ok p)
    (ends : ∃ last ∈ ts'.getLast?, last.isFinish = true)
    (apart : ¬(p.OpenEnded ∧ ∃ t ∈ ts'.head?, t.kind = .keyword .elseWord)) :
    ∃ stream' joined, Stream.ofTokens? ts' = some stream' ∧
      Stream.ofTokens? (ts ++ ts') = some joined ∧
      Program.ofStream joined = (Program.ofStream stream').map (p ++ ·) := by
  obtain ⟨stream, found, read⟩ := read
  have alone : Stream.ofTokens? (ts ++ [finish]) = some { body := ts, finish } := by
    rw [Stream.ofTokens?_append free (List.cons_ne_nil _ _)]
    simp [Stream.ofTokens?, Stream.splitAtFinish?, marker]
  rw [alone] at found
  cases found
  obtain ⟨d, word, rfl⟩ := Program.ofStream_eq_ok_iff.mp read
  have word : d.tokens = ts := word
  obtain ⟨last, final, isFinish⟩ := ends
  obtain ⟨stream', found', -⟩ := Stream.ofTokens?_of_finish final isFinish
  obtain ⟨-, -, more, rfl⟩ := Stream.splitAtFinish?_eq_some (Stream.ofTokens?_eq_some found')
  refine ⟨stream', { stream' with body := ts ++ stream'.body }, found', ?_, ?_⟩
  · rw [Stream.ofTokens?_append free (by simp), found']
    rfl
  · have stops : Program.OpenEnded d.tree → Nonterminal.declaration.Stops stream'.body := by
      intro openEnded t head isElse
      refine apart ⟨openEnded, t, ?_, isElse⟩
      rw [List.head?_append, Option.mem_def.mp head]
      rfl
    show program stream'.finish (ts ++ stream'.body) = _
    rw [← word]
    exact program_append d stops

/-- The tokens of `if (x) {}`. -/
def openEndedTokens : List Token :=
  [{ kind := .keyword .ifWord, lexeme := "if", line := 1, start := 0 },
   { kind := .mark .leftParen, lexeme := "(", line := 1, start := 3 },
   { kind := .identifier, lexeme := "x", line := 1, start := 4 },
   { kind := .mark .rightParen, lexeme := ")", line := 1, start := 5 },
   { kind := .mark .leftBrace, lexeme := "\x7b", line := 1, start := 7 },
   { kind := .mark .rightBrace, lexeme := "\x7d", line := 1, start := 8 }]

def Token.finishAt (start : Nat) : Token := { kind := .finish, lexeme := "", line := 1, start }

/-- A lone `var` after an `if` is refused at the end marker after it, as on its own. -/
theorem program_continued_refused :
    let keyword : Token := { kind := .keyword .varWord, lexeme := "var", line := 1, start := 9 }
    (∀ t ∈ openEndedTokens, t.isFinish = false) ∧ (Token.finishAt 9).isFinish = true ∧
      (∃ p stream, Stream.ofTokens? (openEndedTokens ++ [.finishAt 9]) = some stream ∧
        Program.ofStream stream = .ok p ∧
          ¬(p.OpenEnded ∧ ∃ t ∈ [keyword, .finishAt 12].head?, t.kind = .keyword .elseWord)) ∧
      (∃ last ∈ [keyword, .finishAt 12].getLast?, last.isFinish = true) ∧
      ∃ joined, Stream.ofTokens? (openEndedTokens ++ [keyword, .finishAt 12]) = some joined ∧
        Program.ofStream joined = .error (.unexpected (.finishAt 12) .variableName) := by
  let keyword : Token := { kind := .keyword .varWord, lexeme := "var", line := 1, start := 9 }
  let x : Derivation .expression :=
    .disjunction (.ofTerm (.chain (.ofName ⟨openEndedTokens[2], rfl⟩) .noOperation))
  let d : Derivation .program :=
    .oneMore
      (.statement (.ifThen ⟨openEndedTokens[0], rfl⟩ ⟨openEndedTokens[1], rfl⟩ x
        ⟨openEndedTokens[3], rfl⟩
        (.block ⟨openEndedTokens[4], rfl⟩ .noDeclaration ⟨openEndedTokens[5], rfl⟩)))
      .noDeclaration
  have free : ∀ t ∈ openEndedTokens, t.isFinish = false := by decide
  have marker : (Token.finishAt 9).isFinish = true := rfl
  have found : Stream.ofTokens? (openEndedTokens ++ [.finishAt 9]) =
      some { body := openEndedTokens, finish := .finishAt 9 } := rfl
  have read : Program.ofStream { body := openEndedTokens, finish := .finishAt 9 } = .ok d.tree :=
    Program.ofStream_eq_ok_iff.mpr ⟨d, rfl, rfl⟩
  have ends : ∃ last ∈ [keyword, .finishAt 12].getLast?, last.isFinish = true := ⟨_, rfl, rfl⟩
  have apart : ¬(Program.OpenEnded d.tree ∧
      ∃ t ∈ [keyword, .finishAt 12].head?, t.kind = .keyword .elseWord) := by
    rintro ⟨-, t, head, isElse⟩
    cases head
    cases isElse
  have refused : Program.ofStream { body := [keyword], finish := .finishAt 12 } =
      .error (.unexpected (.finishAt 12) .variableName) := by
    refine (program_cons _ _).trans ?_
    rw [plain_declaration_var ⟨keyword, rfl⟩, plain_afterVar]
    rfl
  obtain ⟨stream', joined, found', foundBoth, both⟩ :=
    program_continued _ _ free _ marker _ ⟨_, found, read⟩ ends apart
  cases found'
  refine ⟨free, marker, ⟨_, _, found, read, apart⟩, ends, joined, foundBoth, ?_⟩
  rw [both, refused]
  rfl

end Scriptlet
