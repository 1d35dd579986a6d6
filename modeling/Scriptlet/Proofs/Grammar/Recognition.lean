/-
Scriptlet.Proofs.Grammar.Recognition — the grammar reads exactly what it
derives, and reads it in the only way there is.

Three results come together here. What is read is derived (Soundness), what is
derived is read (Completeness), and no word is derived twice (Unambiguity). The
statement is about whole lists of tokens as they are handed in: the word is
what stands before the first end marker, and anything between that marker and
the last one makes no difference.
-/
import Scriptlet.Proofs.Grammar.Soundness
import Scriptlet.Proofs.Grammar.Unambiguity

namespace Scriptlet

abbrev Grammar.Nonterminal.program : Grammar.Nonterminal := .declarations

open Grammar

/-- Everything before the first end marker is the body of the stream. -/
theorem Stream.splitAtFinish?_of_mem {tokens : List Token} {last : Token} (mem : last ∈ tokens)
    (isFinish : last.isFinish = true) :
    ∃ stream, Stream.splitAtFinish? tokens = some stream ∧
      stream.body = tokens.takeWhile fun t => !t.isFinish := by
  induction tokens with
  | nil => cases mem
  | cons t rest ih =>
    by_cases marker : t.isFinish = true
    · refine ⟨{ body := [], finish := t }, ?_, ?_⟩
      · rw [Stream.splitAtFinish?, if_pos marker]
      · rw [List.takeWhile_cons_of_neg (by simp [marker])]
    · have mem : last ∈ rest := by
        obtain rfl | mem := List.mem_cons.1 mem
        · exact absurd isFinish marker
        · exact mem
      obtain ⟨stream, split, body⟩ := ih mem
      refine ⟨{ stream with body := t :: stream.body }, ?_, ?_⟩
      · rw [Stream.splitAtFinish?, if_neg marker, split]
      · rw [List.takeWhile_cons_of_pos (by simp [marker]), body]

/-- A list of tokens that ends with an end marker is a stream, and the stream
holds what stands before the first marker. -/
theorem Stream.ofTokens?_of_finish {tokens : List Token} {last : Token}
    (final : last ∈ tokens.getLast?) (isFinish : last.isFinish = true) :
    ∃ stream, Stream.ofTokens? tokens = some stream ∧
      stream.body = tokens.takeWhile fun t => !t.isFinish := by
  have final : tokens.getLast? = some last := final
  obtain ⟨stream, split, body⟩ :=
    Stream.splitAtFinish?_of_mem (List.mem_of_getLast? final) isFinish
  refine ⟨stream, ?_, body⟩
  rw [Stream.ofTokens?, final]
  simp only [isFinish, if_true]
  exact split

/-- What is read as a program is derived, and the other way round. -/
theorem Program.ofStream_eq_ok_iff {stream : Stream} {p : Program} :
    Program.ofStream stream = .ok p ↔
      ∃ d : Derivation .program, d.tokens = stream.body ∧ d.tree = p := by
  constructor
  · exact program_derives
  · rintro ⟨d, word, rfl⟩
    have read : program stream.finish (d.tokens ++ []) = .ok d.tree :=
      reads_tokens d [] (stops_nil _)
    rw [List.append_nil, word] at read
    exact read

/-- An expression is read to the end of the stream. -/
theorem Expr.ofStream_eq_ok_iff {stream : Stream} {e : Expr} :
    Expr.ofStream stream = .ok e ↔
      ∃ d : Derivation .expression, d.tokens = stream.body ∧ d.tree = e := by
  rw [ofStream_expr]
  constructor
  · intro read
    obtain ⟨e', rest, readAll, read⟩ := Answer.andThen_eq_ok read
    cases rest with
    | nil =>
      cases read
      obtain ⟨d, word, tree⟩ := expression_derives readAll
      exact ⟨d, by rw [← word, List.append_nil], tree⟩
    | cons t after => cases read
  · rintro ⟨d, word, rfl⟩
    have read : (expression stream.finish (d.tokens ++ [])).plain = .ok (d.tree, []) :=
      reads_tokens d [] (stops_nil _)
    rw [List.append_nil, word] at read
    rw [read, Answer.andThen_ok]

namespace Grammar

/-- The answer to a word is the tree of its derivation from `n`, if it has one. -/
structure Recognizes (n : Nonterminal) (word : List Token) (answer : Except ParseError n.Meaning) :
    Prop where
  /-- Nothing is read that is not derived. -/
  sound : ∀ m, answer = .ok m → ∃ d : Derivation n, d.tokens = word ∧ d.tree = m
  /-- What is derived is read, and as the derivation says. -/
  complete : ∀ d : Derivation n, d.tokens = word → answer = .ok d.tree
  /-- There is no other derivation. -/
  unambiguous : ∀ d d' : Derivation n, d.tokens = word → d'.tokens = word → d = d'

/-- Soundness and completeness are one equivalence, and unambiguity is a fact about derivations
alone. -/
theorem recognizes_of_iff {n : Nonterminal} {word : List Token}
    {answer : Except ParseError n.Meaning}
    (read : ∀ m, answer = .ok m ↔ ∃ d : Derivation n, d.tokens = word ∧ d.tree = m) :
    Recognizes n word answer where
  sound m := (read m).mp
  complete d derives := (read d.tree).mpr ⟨d, derives, rfl⟩
  unambiguous d d' derives derives' := derivation_unique d d' (derives.trans derives'.symm)

end Grammar

/-- A list of tokens that ends with an end marker is read as a program exactly when the tokens
before its first end marker are derived from `program`, and then as the tree of their
derivation, and they have no second one. With `expression` in place of `program` it is the same. -/
theorem read_iff_derived (tokens : List Token)
    (ends : ∃ last ∈ tokens.getLast?, last.isFinish = true) :
    let word := tokens.takeWhile fun t => !t.isFinish
    ∃ stream, Stream.ofTokens? tokens = some stream ∧
      Recognizes .program word (Program.ofStream stream) ∧
      Recognizes .expression word (Expr.ofStream stream) := by
  intro word
  obtain ⟨last, final, isFinish⟩ := ends
  obtain ⟨stream, found, body⟩ : ∃ stream : Stream, _ ∧ stream.body = word :=
    Stream.ofTokens?_of_finish final isFinish
  refine ⟨stream, found, recognizes_of_iff fun p => ?_, recognizes_of_iff fun e => ?_⟩
  · rw [← body]
    exact Program.ofStream_eq_ok_iff
  · rw [← body]
    exact Expr.ofStream_eq_ok_iff

/-- The tokens of `x = y = x - y - x;` with their end marker, and two more after it. -/
def chainedTokens : List Token :=
  [{ kind := .identifier, lexeme := "x", line := 1, start := 0 },
   { kind := .mark .equal, lexeme := "=", line := 1, start := 2 },
   { kind := .identifier, lexeme := "y", line := 1, start := 4 },
   { kind := .mark .equal, lexeme := "=", line := 1, start := 6 },
   { kind := .identifier, lexeme := "x", line := 1, start := 8 },
   { kind := .mark .minus, lexeme := "-", line := 1, start := 10 },
   { kind := .identifier, lexeme := "y", line := 1, start := 12 },
   { kind := .mark .minus, lexeme := "-", line := 1, start := 14 },
   { kind := .identifier, lexeme := "x", line := 1, start := 16 },
   { kind := .mark .semicolon, lexeme := ";", line := 1, start := 17 },
   { kind := .finish, lexeme := "", line := 1, start := 18 },
   { kind := .mark .rightParen, lexeme := ")", line := 1, start := 18 },
   { kind := .finish, lexeme := "", line := 1, start := 19 }]

def Grammar.Derivation.ofTerm (term : Derivation (.operand 2)) : Derivation (.operand 6) :=
  .chain (.chain (.chain (.chain term .noOperation) .noOperation) .noOperation) .noOperation

def Grammar.Derivation.ofName (name : TokenOf .identifier) : Derivation (.operand 1) :=
  .chain (.primary (.reference name)) .noOperation

/-- The first two assignments nest to the right and the subtractions to the
left, and nothing after the first end marker is read. -/
theorem read_chainedTokens :
    (∃ last ∈ chainedTokens.getLast?, last.isFinish = true) ∧
      ∃ stream x₁ y₁ x₂ y₂ x₃ first second semicolon,
        Stream.ofTokens? chainedTokens = some stream ∧
          Program.ofStream stream = .ok
            [.expr
              (.assign "x" x₁ (.assign "y" y₁
                (.binary (.arithmetic .subtract)
                  (.binary (.arithmetic .subtract) (.reference "x" x₂) first (.reference "y" y₂))
                  second (.reference "x" x₃))))
              semicolon] := by
  have ends : ∃ last ∈ chainedTokens.getLast?, last.isFinish = true := ⟨_, rfl, rfl⟩
  obtain ⟨stream, found, programs, -⟩ := read_iff_derived chainedTokens ends
  let difference : Derivation (.operand 2) :=
    .chain (.ofName ⟨chainedTokens[4], rfl⟩)
      (.operation (.binary (.arithmetic .subtract)) (by decide) ⟨chainedTokens[5], rfl⟩
        (.ofName ⟨chainedTokens[6], rfl⟩)
        (.operation (.binary (.arithmetic .subtract)) (by decide) ⟨chainedTokens[7], rfl⟩
          (.ofName ⟨chainedTokens[8], rfl⟩) .noOperation))
  let d : Derivation .program :=
    .oneMore
      (.statement (.effect
        (.assign ⟨chainedTokens[0], rfl⟩ ⟨chainedTokens[1], rfl⟩
          (.assign ⟨chainedTokens[2], rfl⟩ ⟨chainedTokens[3], rfl⟩
            (.disjunction (.ofTerm difference))))
        ⟨chainedTokens[9], rfl⟩))
      .noDeclaration
  exact ⟨ends, stream, chainedTokens[0], chainedTokens[2], chainedTokens[4], chainedTokens[6],
    chainedTokens[8], chainedTokens[5], chainedTokens[7], chainedTokens[9], found,
    programs.complete d rfl⟩

end Scriptlet
