/-
Scriptlet.Proofs.Printed.Legible — what the nodes of a script that was read are printed with.

A node is printed with what its tokens show: a sign, a name or a value. In the tree of a text
that was scanned a sign is spelled as its operator is, a name is spelled as a name may be, and
a number is not negative, since a minus sign is a node of its own. So all that is printed is
words, and of each word it can be said what it is: a number by its first character, `nil` and
the truth values since they are reserved.
-/
import Scriptlet.Proofs.Printed.Form
import Scriptlet.Proofs.Session.Positions
import Scriptlet.Proofs.Written

namespace Scriptlet

open Scanner (startsWord continuesWord)

/-! ## 1. Words -/

/-- The marks between words are in no word and in no number. -/
theorem marks_apart {c : Char} (mark : c ∈ Form.marks) :
    continuesWord c = false ∧ Text.isDigit c = false ∧ c ≠ '.' := by
  simp only [Form.marks, List.mem_cons, List.not_mem_nil, or_false] at mark
  obtain rfl | rfl | rfl | rfl := mark <;> exact ⟨by decide, by decide, by decide⟩

theorem Scanner.continuesWord_of_startsWord {c : Char} (starts : startsWord c = true) :
    continuesWord c = true := by
  rw [startsWord, Bool.or_eq_true] at starts
  obtain letter | underscore := starts
  · simp [continuesWord, letter]
  · simp [continuesWord, underscore]

/-- A name or a number is a word. -/
theorem Lexeme.word_of_plain {kind : Token.Kind} {text : String}
    (isLexeme : Lexeme kind text.toList) (plain : kind = .identifier ∨ kind = .number) :
    Form.Word text := by
  intro c mem mark
  obtain ⟨noWord, noDigit, noPoint⟩ := marks_apart mark
  generalize text.toList = cs at isLexeme mem
  have digits : ∀ {ds : List Char}, Digits ds → c ∉ ds := fun isDigits mem => by
    have digit := isDigits.2 c mem
    rw [noDigit] at digit
    cases digit
  cases isLexeme with
  | mark | keyword | text => simp at plain
  | @name d tail starts continues unreserved =>
    have all : ∀ e ∈ d :: tail, continuesWord e = true :=
      List.forall_mem_cons.mpr ⟨Scanner.continuesWord_of_startsWord starts, continues⟩
    rw [all c mem] at noWord
    cases noWord
  | whole isDigits => exact digits isDigits mem
  | fraction isDigits isPlaces =>
    obtain mem | mem := List.mem_append.mp mem
    · exact digits isDigits mem
    · obtain point | mem := List.mem_cons.mp mem
      · exact noPoint point
      · exact digits isPlaces mem

/-- How a token of the kind is written, if all of them are written alike. -/
def Token.Kind.spelling : Token.Kind → String
  | .mark m => m.spelling
  | .keyword k => k.spelling
  | _ => ""

/-- A token of a kind that is written in one way is written in that way. -/
theorem Token.Exact.spelled {cs : List Char} {t : Token} (isExact : t.Exact cs)
    (fixed : t.kind.spelling ≠ "") : t.lexeme = t.kind.spelling := by
  have isLexeme := isExact.isLexeme
  rw [← String.toList_inj]
  generalize t.kind = kind at isLexeme fixed
  generalize t.lexeme.toList = lexeme at isLexeme
  cases isLexeme with
  | mark | keyword => rfl
  | _ => exact absurd rfl fixed

/-- A token that is a name is spelled like one. -/
theorem Token.Exact.isName {cs : List Char} {t : Token} (isExact : t.Exact cs) {name : String}
    (names : t.Names name) : Lexeme .identifier name.toList := by
  obtain ⟨kind, payload⟩ := names
  have isLexeme := isExact.isLexeme
  have carried := isExact.payload
  rw [kind] at isLexeme carried
  rw [payload] at carried
  obtain rfl : name = t.lexeme := by
    injection carried with same
    rw [same, String.ofList_toList]
  exact isLexeme

/-! ## 2. Numbers -/

theorem Ratio.nearest_le (r : Ratio) : r.nearest ≤ infinityBits := by
  rw [nearest]
  split
  · exact Nat.zero_le _
  · exact Nat.min_le_right _ _

/-- The double of a numeral is positive, and it is finite unless it is infinite. -/
theorem Decimal.toFloat_finite {d : Decimal} (notInfinite : Double.classOf d.toFloat ≠ .infinite) :
    Double.classOf d.toFloat = .finite ∧ Double.isNegative d.toFloat = false := by
  rw [toFloat] at notInfinite ⊢
  obtain finite | infinite := Nat.lt_or_eq_of_le d.ratio.nearest_le
  · exact Double.ofMagnitude_finite finite
  · have beyond : Double.classOf (Double.ofMagnitude Ratio.infinityBits) = .infinite := by
      decide +kernel
    rw [nearest, infinite] at notInfinite
    exact absurd beyond notInfinite

/-! ## 3. Nodes -/

/-- The value is printed as a word that shows what it is. -/
def Value.Legible : Value → Prop
  | .nil => True
  | .boolean _ => True
  | .number x => Double.classOf x = .finite ∧ Double.isNegative x = false
  | .text _ => False

def Phrase.Legible : Phrase → Prop
  | .expr (.literal value _) => value.Legible
  | .expr (.reference name _) => Lexeme .identifier name.toList
  | .expr (.unary op sign _) => sign.lexeme = op.kind.spelling
  | .expr (.binary op _ sign _) => sign.lexeme = (Operator.binary op).kind.spelling
  | .expr (.logical op _ sign _) => sign.lexeme = (Operator.logical op).kind.spelling
  | .expr (.assign name _ _) => Lexeme .identifier name.toList
  | .stmt (.declare _ name _ _ _) => Lexeme .identifier name.toList
  | _ => True

/-- The node is no text, which may read like anything, and no number beyond all finite ones,
which is printed like a name. -/
def Phrase.Ordinary : Phrase → Prop
  | .expr (.literal (.text _) _) => False
  | .expr (.literal (.number x) _) => Double.classOf x ≠ .infinite
  | _ => True

theorem Operator.spelling_ne (op : Operator) : op.kind.spelling ≠ "" := by
  cases op with
  | binary op =>
    cases op with
    | arithmetic op => cases op <;> decide
    | compare relation => cases relation <;> decide
    | _ => decide
  | logical op => cases op <;> decide

theorem UnaryOp.spelling_ne (op : UnaryOp) : op.kind.spelling ≠ "" := by
  cases op <;> decide

/-- A literal that is written out in a script is legible when it is printed, unless it is a text or
infinite. -/
theorem Token.Exact.legible_value {cs : List Char} {t : Token} (isExact : t.Exact cs)
    {value : Value} (written : Value.ofToken? t = some value)
    (ordinary : Phrase.Ordinary (.expr (.literal value t))) : value.Legible := by
  have carried := isExact.payload
  rw [Value.ofToken?] at written
  split at written
  · next kind =>
    rw [kind] at carried
    cases written
    rw [carried] at ordinary ⊢
    exact Decimal.toFloat_finite ordinary
  · next kind =>
    rw [kind] at carried
    cases written
    rw [carried] at ordinary
    exact ordinary.elim
  all_goals cases written <;> trivial

/-- The sign of an operator is printed as it was written. -/
theorem Operator.legible_sign {cs : List Char} {t : Token} (isExact : t.Exact cs) {op : Operator}
    (agrees : ofKind? t.kind = some op) : t.lexeme = op.kind.spelling := by
  have kind := Operator.ofKind?_eq_some_iff.mp agrees
  rw [kind]
  exact isExact.spelled (kind ▸ op.spelling_ne)

/-- What the nodes of a program that was read are printed with shows what they are, but for
texts and infinite numbers. -/
theorem Program.legible_of_scan {text : String} {p : Program}
    (read : Program.ofStream (Scan.ofText text).stream = .ok p)
    (ordinary : ∀ node ∈ Stmt.phrasesAll p, node.Ordinary) :
    ∀ node ∈ Stmt.phrasesAll p, node.Legible := by
  intro node mem
  obtain ⟨inside, sub, readNode⟩ := Scan.stretch_of_node read mem
  have isExact : ∀ t ∈ inside, t.Exact text.toList := fun t within =>
    Scan.exact_of_mem (sub.subset within)
  have faithful : node.Faithful := Program.faithful_of_scan read node mem
  have ordinary := ordinary node mem
  cases readNode.made with
  | literal value token => exact (isExact token (by simp)).legible_value faithful.1 ordinary
  | reference name token => exact (isExact token (by simp)).isName faithful
  | grouping => trivial
  | unary op sign _ =>
    have kind := UnaryOp.ofKind?_eq_some_iff.mp faithful
    show sign.lexeme = op.kind.spelling
    rw [kind]
    exact (isExact sign (by simp)).spelled (kind ▸ op.spelling_ne)
  | binary op sign _ _ => exact Operator.legible_sign (isExact sign (by simp)) faithful
  | logical op sign _ _ => exact Operator.legible_sign (isExact sign (by simp)) faithful
  | assign name target equals _ => exact (isExact target (by simp)).isName faithful
  | declare keyword name target semicolon => exact (isExact target (by simp)).isName faithful
  | declareAs keyword name target equals semicolon _ =>
    exact (isExact target (by simp)).isName faithful
  | _ => trivial

end Scriptlet
