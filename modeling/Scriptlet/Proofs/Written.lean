/-
Scriptlet.Proofs.Written — values survive being written and read back.

The text of a value is one token, or a minus sign and a number, with nothing before,
between and after. So the scan of it is known as soon as it is known that its parts
are tokens; the grammar reads a lone token as the literal that it is, and a minus sign
before one as a negation. What the literal carries is what was written: for a text
since its quotes are cut off, for a number since its digits have the double as their
nearest, and for a negative number since a negation turns the sign bit and nothing
else.
-/
import Scriptlet.Proofs.Grammar.Inversion
import Scriptlet.Proofs.Grammar.Recognition
import Scriptlet.Proofs.Number.Numeral
import Scriptlet.Proofs.Number.Sign
import Scriptlet.Proofs.Session.Outcome

namespace Scriptlet

open Grammar

/-- The text that a script writes the value with, for a value that has one: an infinite
or an undefined number has none, and neither has a text with a quote in it. -/
def Value.source? : Value → Option String
  | .nil => some "nil"
  | .boolean b => some (Value.boolean b).display
  | .number x => if Double.classOf x = .finite then some (Value.number x).display else none
  | .text s => if '"' ∈ s.toList then none else some ("\"" ++ s ++ "\"")

/-- The value, written out: a literal that carries it, or a minus sign before a number
for a number with its sign bit set. -/
def Value.WrittenAs : Value → Expr → Prop
  | .number x, e =>
    if Double.isNegative x then
      ∃ sign size token, e = .unary .negate sign (.literal (.number size) token)
    else ∃ token, e = .literal (.number x) token
  | v, e => ∃ token, e = .literal v token

/-! ## 1. The numbers -/

/-- The digits that a finite number is displayed with are read as its magnitude. -/
theorem Double.ofNumeral_positional {x : Float} (finite : classOf x = .finite) :
    (Decimal.ofNumeral (Decimal.shortest (magnitude x)).positional).toFloat =
      ofMagnitude (magnitude x) := by
  have value := (Decimal.shortest (magnitude x)).positional_reads.2
  rw [Decimal.toFloat, Decimal.nearest_congr value,
    Decimal.nearest_shortest (classOf_eq_finite finite)]

/-! ## 2. Scans of what is written -/

/-- A token of the first line, with what a token carries that is written so. -/
def Token.written (kind : Token.Kind) (lexeme : List Char) (start : Nat) : Token :=
  { kind, lexeme := String.ofList lexeme, line := 1, payload := kind.payload lexeme, start }

theorem Segment.segments_lexeme {kind : Token.Kind} {lexeme : List Char}
    (isLexeme : Lexeme kind lexeme) : segments lexeme = [.token kind lexeme] := by
  have cut := segments_token isLexeme (Lexeme.endsBefore_nil kind lexeme)
  rwa [List.append_nil, segments_nil] at cut

/-- A minus sign joins nothing that follows it, so it is a piece of its own. -/
theorem Segment.segments_minus {kind : Token.Kind} {lexeme : List Char}
    (isLexeme : Lexeme kind lexeme) :
    segments ('-' :: lexeme) = [.token (.mark .minus) ['-'], .token kind lexeme] := by
  have cut : segments (['-'] ++ lexeme) = .token (.mark .minus) ['-'] :: segments lexeme :=
    segments_token (.mark .minus) fun _ _ => id
  rwa [segments_lexeme isLexeme] at cut

/-- A lexeme on its own is scanned as the one token. -/
theorem scan_lexeme {kind : Token.Kind} {lexeme : List Char} (isLexeme : Lexeme kind lexeme) :
    (Scan.ofText (String.ofList lexeme)).body = [.written kind lexeme 0] ∧
      (Scan.ofText (String.ofList lexeme)).errors = [] := by
  rw [Scan.ofText_eq]
  simp only [Scan.placed, String.toList_ofList, Segment.segments_lexeme isLexeme]
  exact ⟨rfl, rfl⟩

/-- With a minus sign in front, the token is one place further. -/
theorem scan_minus {kind : Token.Kind} {lexeme : List Char} (isLexeme : Lexeme kind lexeme) :
    (Scan.ofText (String.ofList ('-' :: lexeme))).body =
        [.written (.mark .minus) ['-'] 0, .written kind lexeme 1] ∧
      (Scan.ofText (String.ofList ('-' :: lexeme))).errors = [] := by
  rw [Scan.ofText_eq]
  simp only [Scan.placed, String.toList_ofList, Segment.segments_minus isLexeme]
  exact ⟨rfl, rfl⟩

/-! ## 3. What is read -/

/-- The text is read as this expression, and nothing is filed. -/
def Report.ReadsAs (r : Report) (text : String) (e : Expr) : Prop :=
  (r.review Expr.ofStream text).report = r ∧
    (r.review Expr.ofStream text).outcome = .accepted e

/-- Tokens that are read as an expression, and a scan without errors: nothing is left to complain
about. -/
theorem Report.readsAs {text : String} {ts : List Token} {e : Expr}
    (scan : (Scan.ofText text).body = ts ∧ (Scan.ofText text).errors = [])
    (read : Phrase.ReadFrom (.expr e) ts) (r : Report) : r.ReadsAs text e := by
  obtain ⟨body, silent⟩ := scan
  rw [← body] at read
  have parsed : Expr.ofStream (Scan.ofText text).stream = .ok e := Expr.ofStream_eq_ok_iff.mpr read
  rw [ReadsAs, review_eq, Scan.issues, silent, parsed]
  exact ⟨rfl, rfl⟩

/-- A token that is a literal by itself is read as that literal. -/
theorem readsAs_lexeme {kind : Token.Kind} {lexeme : List Char} (isLexeme : Lexeme kind lexeme)
    (d : Derivation .primary) (word : d.tokens = [.written kind lexeme 0]) (r : Report) :
    r.ReadsAs (String.ofList lexeme) d.tree := by
  have read : Phrase.ReadFrom (.expr d.tree) d.tokens :=
    read_operand (Nat.zero_le _) (.primary d)
  rw [word] at read
  exact Report.readsAs (scan_lexeme isLexeme) read r

/-- With a minus sign before it, it is read as the negation of that literal. -/
theorem readsAs_minus {kind : Token.Kind} {lexeme : List Char} (isLexeme : Lexeme kind lexeme)
    (d : Derivation .primary) (word : d.tokens = [.written kind lexeme 1]) (r : Report) :
    r.ReadsAs (String.ofList ('-' :: lexeme))
      (.unary .negate (.written (.mark .minus) ['-'] 0) d.tree) := by
  let sign : TokenOf (.mark .minus) := ⟨.written (.mark .minus) ['-'] 0, rfl⟩
  have read : Phrase.ReadFrom (.expr (.unary .negate sign.val d.tree)) (sign.val :: d.tokens) :=
    read_operand (Nat.zero_le _) (.signed .negate sign (.primary d))
  rw [word] at read
  exact Report.readsAs (scan_minus isLexeme) read r

/-- A finite number shows its sign, if it has one, and the digits of its magnitude. -/
theorem displayed_finite {x : Float} (finite : Double.classOf x = .finite) :
    (Value.number x).display = String.ofList
      ((if Double.isNegative x then ['-'] else []) ++
        (Decimal.shortest (Double.magnitude x)).positional) := by
  rw [Value.display, Number.display, Number.written, finite]

/-- The shortest digits of a magnitude are read as that magnitude, and the minus sign in front
restores the sign. -/
theorem number_reads_back {x : Float} (finite : Double.classOf x = .finite) (r : Report) :
    ∃ e, r.ReadsAs (Value.number x).display e ∧ (Value.number x).WrittenAs e ∧
      ∀ env, e.eval env = (.ok (.number x), env) := by
  have isLexeme := (Decimal.shortest (Double.magnitude x)).positional_reads.1
  have read := Double.ofNumeral_positional finite
  have whole := Double.signed_magnitude finite
  rw [displayed_finite finite]
  generalize (Decimal.shortest (Double.magnitude x)).positional = digits at isLexeme read
  by_cases negative : Double.isNegative x = true
  · rw [if_pos negative] at whole ⊢
    have reads := readsAs_minus isLexeme (.numberLiteral ⟨.written .number digits 1, rfl⟩) rfl r
    refine ⟨_, reads, ?_, fun env => ?_⟩
    · rw [Value.WrittenAs, if_pos negative]
      exact ⟨_, _, _, rfl⟩
    · show (Except.ok (Value.number (-(Decimal.ofNumeral digits).toFloat)), env) = _
      rw [read, whole]
  · rw [if_neg negative] at whole ⊢
    have reads := readsAs_lexeme isLexeme (.numberLiteral ⟨.written .number digits 0, rfl⟩) rfl r
    have literal : Value.number (Decimal.ofNumeral digits).toFloat = .number x := by
      rw [read, whole]
    refine ⟨_, reads, ?_, fun env => ?_⟩
    · rw [Value.WrittenAs, if_neg negative, ← literal]
      exact ⟨_, rfl⟩
    · show (Except.ok (Value.number (Decimal.ofNumeral digits).toFloat), env) = _
      rw [literal]

/-- A value whose text is a token that carries it is read back as that literal. -/
theorem literal_reads_back {kind : Token.Kind} {lexeme : List Char} (isLexeme : Lexeme kind lexeme)
    {v : Value} (d : Derivation .primary) (word : d.tokens = [.written kind lexeme 0])
    (tree : d.tree = .literal v (.written kind lexeme 0)) (r : Report) :
    ∃ e, r.ReadsAs (String.ofList lexeme) e ∧ (∃ token, e = .literal v token) ∧
      ∀ env, e.eval env = (.ok v, env) := by
  have reads := readsAs_lexeme isLexeme d word r
  rw [tree] at reads
  exact ⟨_, reads, ⟨_, rfl⟩, fun _ => rfl⟩

def Keyword.token (k : Keyword) : TokenOf (.keyword k) :=
  ⟨.written (.keyword k) k.spelling.toList 0, rfl⟩

/-- A reserved word for a value is read as the literal of it. -/
theorem word_reads_back (k : Keyword) {v : Value} (d : Derivation .primary)
    (word : d.tokens = [k.token.val]) (tree : d.tree = .literal v k.token.val) (r : Report) :
    ∃ e, r.ReadsAs k.spelling e ∧ (∃ token, e = .literal v token) ∧
      ∀ env, e.eval env = (.ok v, env) := by
  have back := literal_reads_back (.keyword k) d word tree r
  rwa [String.ofList_toList] at back

/-- Between quotes a text may hold anything but a quote, and it is read as it stands. -/
theorem text_reads_back {s : String} (noQuote : '"' ∉ s.toList) (r : Report) :
    ∃ e, r.ReadsAs ("\"" ++ s ++ "\"") e ∧ (∃ token, e = .literal (.text s) token) ∧
      ∀ env, e.eval env = (.ok (.text s), env) := by
  have form : "\"" ++ s ++ "\"" = String.ofList ('"' :: (s.toList ++ ['"'])) := by
    rw [← String.toList_inj]
    simp
  let t : TokenOf .text := ⟨.written .text ('"' :: (s.toList ++ ['"'])) 0, rfl⟩
  have carried : t.val.payload = .text s := by
    show Value.text (String.ofList (s.toList ++ ['"']).dropLast) = _
    rw [List.dropLast_concat, String.ofList_toList]
  rw [form]
  exact literal_reads_back (.text noQuote) (.textLiteral t) rfl (by rw [Derivation.tree, carried]) r

/-- Every value that a script can write out is read back: the report takes nothing from
the text, the expression is the value written out, and it has that value in every
environment. -/
theorem written_reads_back (v : Value) (form : String) (written : v.source? = some form)
    (r : Report) :
    ∃ e, r.ReadsAs form e ∧ v.WrittenAs e ∧ ∀ env, e.eval env = (.ok v, env) := by
  cases v with
  | nil =>
    cases written
    exact word_reads_back .nilWord (.nilLiteral (Keyword.token .nilWord)) rfl rfl r
  | boolean b =>
    cases written
    cases b with
    | true =>
      exact word_reads_back .trueWord (.trueLiteral (Keyword.token .trueWord)) rfl rfl r
    | false =>
      exact word_reads_back .falseWord (.falseLiteral (Keyword.token .falseWord)) rfl rfl r
  | number x =>
    rw [Value.source?] at written
    split at written
    · next finite =>
      cases written
      exact number_reads_back finite r
    · cases written
  | text s =>
    rw [Value.source?] at written
    split at written
    · cases written
    · next noQuote =>
      cases written
      exact text_reads_back noQuote r

/-- The negative zero is written `-0`, and comes back with its sign. -/
theorem written_reads_back_zero :
    (Value.number (-Double.ofMagnitude 0)).source? = some "-0" ∧
      ∃ e, Report.ReadsAs {} "-0" e ∧ (Value.number (-Double.ofMagnitude 0)).WrittenAs e ∧
        ∀ env, e.eval env = (.ok (.number (-Double.ofMagnitude 0)), env) := by
  have written : (Value.number (-Double.ofMagnitude 0)).source? = some "-0" := by decide +kernel
  exact ⟨written, written_reads_back _ _ written {}⟩

/-- The least positive number has no exponent in its text either. -/
example : (Value.number (Double.ofMagnitude 1)).source? =
    some ("0." ++ String.ofList (List.replicate 323 '0') ++ "5") := by decide +kernel

end Scriptlet
