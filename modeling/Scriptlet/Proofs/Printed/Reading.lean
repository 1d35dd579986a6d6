/-
Scriptlet.Proofs.Printed.Reading — trees are read back from the forms they are printed in.

A tree has a form (`Expr.form`, `Stmt.form`), which is what is printed of it, and from the form
the tree can be read back but for its tokens (`Expr.ofForm`, `Stmt.ofForm`): heads tell
operators and statements apart, and where two share a head the number of their parts does.
Words are told apart by their first character and by being reserved. All this goes for trees
whose nodes are printed with what they are (`Expr.shown`, `Stmt.allShown`).
-/
import Scriptlet.Proofs.Grammar.Mapped
import Scriptlet.Proofs.Printed.Legible

namespace Scriptlet

open Form (Word render renderAll)

/-! ## 1. Trees without tokens -/

def Token.blank : Token := { kind := .finish, lexeme := "", line := 0, start := 0 }

/-- The expression with the same token everywhere: what is left of it is the tree. -/
def Expr.bare (e : Expr) : Expr := e.mapTokens fun _ => .blank

def Stmt.bare (s : Stmt) : Stmt := s.mapTokens fun _ => .blank

def Stmt.bareAll (ss : List Stmt) : List Stmt := mapAll (fun _ => .blank) ss

/-! ## 2. The forms of trees -/

def Expr.form : Expr → Form
  | .literal value _ => .word value.printed
  | .reference name _ => .word name
  | .grouping _ inner _ => .group "group" [inner.form]
  | .unary op _ operand => .group op.kind.spelling [operand.form]
  | .binary op left _ right => .group (Operator.binary op).kind.spelling [left.form, right.form]
  | .logical op left _ right => .group (Operator.logical op).kind.spelling [left.form, right.form]
  | .assign name _ value => .group "=" [.word name, value.form]

mutual

def Stmt.form : Stmt → Form
  | .expr e _ => .group "expr" [e.form]
  | .print _ e _ => .group "print" [e.form]
  | .declare _ name _ none _ => .group "var" [.word name]
  | .declare _ name _ (some value) _ => .group "var" [.word name, value.form]
  | .block ⟨_, body, _⟩ => .group "block" (forms body)
  | .ifThen _ condition ⟨_, body, _⟩ => .group "if" [condition.form, .group "block" (forms body)]
  | .ifElse _ condition ⟨_, body, _⟩ ⟨_, other, _⟩ =>
    .group "if" [condition.form, .group "block" (forms body), .group "block" (forms other)]
  | .loop _ condition ⟨_, body, _⟩ =>
    .group "while" [condition.form, .group "block" (forms body)]

def Stmt.forms : List Stmt → List Form
  | [] => []
  | s :: rest => s.form :: forms rest

end

/-- The form holds names, operators and values, and no token is looked at but for its spelling. -/
theorem Expr.form_mapTokens (f : Token → Token) (e : Expr) : (e.mapTokens f).form = e.form := by
  induction e with
  | literal | reference => rfl
  | grouping _ _ _ ih | unary _ _ _ ih | assign _ _ _ ih => simp only [mapTokens, form, ih]
  | binary _ _ _ _ ih ih' | logical _ _ _ _ ih ih' => simp only [mapTokens, form, ih, ih']

theorem Stmt.forms_mapAll (f : Token → Token) (ss : List Stmt) :
    forms (mapAll f ss) = forms ss := by
  have both : (∀ s : Stmt, (s.mapTokens f).form = s.form) ∧
      ∀ ss : List Stmt, forms (mapAll f ss) = forms ss := by
    refine Stmt.induction ?expr ?print ?declare ?block ?ifThen ?ifElse ?loop ?nil ?cons
    case expr | print => intros; simp only [mapTokens, form, Expr.form_mapTokens]
    case declare =>
      intro keyword name target value semicolon
      cases value <;> simp only [mapTokens, form, Option.map, Expr.form_mapTokens]
    case block =>
      rintro ⟨opening, body, closing⟩ ih
      simp only [mapTokens, mapBlock, form, ih]
    case ifThen | loop =>
      rintro keyword condition ⟨opening, body, closing⟩ ih
      simp only [mapTokens, mapBlock, form, Expr.form_mapTokens, ih]
    case ifElse =>
      rintro keyword condition ⟨opening, body, closing⟩ ⟨opening', other, closing'⟩ ih ih'
      simp only [mapTokens, mapBlock, form, Expr.form_mapTokens, ih, ih']
    case nil => rfl
    case cons =>
      intro s rest ih ihRest
      simp only [mapAll, forms, ih, ihRest]
  exact both.2 ss

/-! ## 3. Trees read back -/

/-- The text that a form begins with. -/
def Form.text : Form → String
  | .word text => text
  | .group head _ => head

def UnaryOp.ofSpelling (sign : String) : UnaryOp := if sign = "-" then .negate else .invert

def Operator.ofSpelling (sign : String) : Operator :=
  (((List.range levels).flatMap ofLevel).find? fun op => op.kind.spelling = sign).getD
    (.logical .either)

def Expr.ofWord (word : String) : Expr :=
  if word.toList.head?.any Text.isDigit then
    .literal (.number (Decimal.ofNumeral word.toList).toFloat) .blank
  else
    match Scanner.wordKind word with
    | .keyword .nilWord => .literal .nil .blank
    | .keyword .trueWord => .literal (.boolean true) .blank
    | .keyword .falseWord => .literal (.boolean false) .blank
    | _ => .reference word .blank

/-- The expression that is printed in the form. -/
def Expr.ofForm : Form → Expr
  | .word text => ofWord text
  | .group head [operand] =>
    if head = "group" then .grouping .blank (ofForm operand) .blank
    else .unary (.ofSpelling head) .blank (ofForm operand)
  | .group head [left, right] =>
    if head = "=" then .assign left.text .blank (ofForm right)
    else (Operator.ofSpelling head).join (ofForm left) .blank (ofForm right)
  | .group _ _ => .literal .nil .blank

mutual

def Stmt.ofForm : Form → Stmt
  | .word _ => .block ⟨.blank, [], .blank⟩
  | .group head parts =>
    if head = "block" then .block ⟨.blank, ofForms parts, .blank⟩
    else
      match parts with
      | [part] =>
        if head = "expr" then .expr (.ofForm part) .blank
        else if head = "print" then .print .blank (.ofForm part) .blank
        else .declare .blank part.text .blank none .blank
      | [part, second] =>
        if head = "var" then .declare .blank part.text .blank (some (.ofForm second)) .blank
        else if head = "if" then .ifThen .blank (.ofForm part) (ofBlock second)
        else .loop .blank (.ofForm part) (ofBlock second)
      | [part, second, third] => .ifElse .blank (.ofForm part) (ofBlock second) (ofBlock third)
      | _ => .block ⟨.blank, [], .blank⟩

def Stmt.ofBlock : Form → Block Stmt
  | .word _ => ⟨.blank, [], .blank⟩
  | .group _ parts => ⟨.blank, ofForms parts, .blank⟩

def Stmt.ofForms : List Form → List Stmt
  | [] => []
  | f :: rest => ofForm f :: ofForms rest

end

/-- The sign of an operator is a word that no grouping has, and tells the operator. -/
theorem UnaryOp.spelling_tells (op : UnaryOp) :
    Word op.kind.spelling ∧ op.kind.spelling ≠ "group" ∧ ofSpelling op.kind.spelling = op := by
  cases op <;> exact ⟨by decide, by decide, by decide⟩

/-- The sign of an operator is a word that no assignment has, and tells the operator. -/
theorem Operator.spelling_tells (op : Operator) :
    Word op.kind.spelling ∧ op.kind.spelling ≠ "=" ∧ ofSpelling op.kind.spelling = op := by
  cases op with
  | binary op =>
    cases op with
    | arithmetic op => cases op <;> exact ⟨by decide, by decide, by decide⟩
    | compare relation => cases relation <;> exact ⟨by decide, by decide, by decide⟩
    | _ => exact ⟨by decide, by decide, by decide⟩
  | logical op => cases op <;> exact ⟨by decide, by decide, by decide⟩

/-! ## 4. Words read back -/

/-- A number starts with a digit, and is known by it. -/
theorem Lexeme.digit_head? {digits : List Char} (isLexeme : Lexeme .number digits) :
    digits.head?.any Text.isDigit = true := by
  have first : ∀ {ds : List Char} (more : List Char), Digits ds →
      (ds ++ more).head?.any Text.isDigit = true := by
    intro ds more isDigits
    cases ds with
    | nil => exact absurd rfl isDigits.1
    | cons d rest => exact isDigits.2 d List.mem_cons_self
  cases isLexeme with
  | whole isDigits =>
    have alone := first [] isDigits
    rwa [List.append_nil] at alone
  | fraction isDigits isPlaces => exact first _ isDigits

theorem Expr.ofWord_name {name : String} (isName : Lexeme .identifier name.toList) :
    ofWord name = .reference name .blank := by
  have letters : String.ofList name.toList = name := String.ofList_toList
  generalize name.toList = cs at isName letters
  subst letters
  cases isName with
  | @name c tail starts continues unreserved =>
    have noDigit : ¬(c :: tail).head?.any Text.isDigit = true := by
      intro digit
      rw [Segment.startsWord_of_isDigit digit] at starts
      cases starts
    rw [ofWord, String.toList_ofList, if_neg noDigit, Scanner.wordKind_of_unreserved unreserved]

/-- Three of the reserved words are read back as values. -/
theorem Expr.ofWord_keyword (k : Keyword) :
    ofWord k.spelling =
      match k with
      | .nilWord => .literal .nil .blank
      | .trueWord => .literal (.boolean true) .blank
      | .falseWord => .literal (.boolean false) .blank
      | _ => .reference k.spelling .blank := by
  have noDigit : ¬k.spelling.toList.head?.any Text.isDigit = true := by cases k <;> decide
  rw [ofWord, if_neg noDigit, Scanner.wordKind_spelling]
  cases k <;> rfl

/-- The printed digits are a word, and read back as the number. -/
theorem Expr.ofWord_number {x : Float} (finite : Double.classOf x = .finite)
    (positive : Double.isNegative x = false) :
    Word (Value.number x).printed ∧
      ofWord (Value.number x).printed = .literal (.number x) .blank := by
  have digits : (Value.number x).printed =
      String.ofList (Decimal.shortest (Double.magnitude x)).positional := by
    show (Value.number x).display = _
    rw [displayed_finite finite, positive]
    rfl
  have isLexeme := (Decimal.shortest (Double.magnitude x)).positional_reads.1
  have read := Double.ofNumeral_positional finite
  rw [Double.ofMagnitude_of_positive positive] at read
  rw [digits]
  generalize (Decimal.shortest (Double.magnitude x)).positional = cs at isLexeme read
  have isLexeme' : Lexeme .number (String.ofList cs).toList := by rwa [String.toList_ofList]
  refine ⟨isLexeme'.word_of_plain (.inr rfl), ?_⟩
  rw [ofWord, String.toList_ofList, if_pos isLexeme.digit_head?, read]

/-- A legible value is one word, and it tells the value. -/
theorem Value.Legible.ofWord_printed {v : Value} (legible : v.Legible) :
    Word v.printed ∧ Expr.ofWord v.printed = .literal v .blank := by
  cases v with
  | nil => exact ⟨by decide, Expr.ofWord_keyword .nilWord⟩
  | boolean b =>
    cases b with
    | true => exact ⟨by decide, Expr.ofWord_keyword .trueWord⟩
    | false => exact ⟨by decide, Expr.ofWord_keyword .falseWord⟩
  | number x => exact Expr.ofWord_number legible.1 legible.2
  | text s => exact legible.elim

/-! ## 5. Expressions shown -/

/-- The form is what is printed of the expression, and the expression is read back from it. -/
structure Expr.Shown (e : Expr) : Prop where
  rendered : e.form.render = e.printed.toList
  plain : e.form.Plain
  back : ofForm e.form = e.bare

/-- A group of one part, rendered and printed. -/
theorem Expr.Shown.rendered_alone {e : Expr} (inside : e.Shown) (head : String) :
    (Form.group head [e.form]).render = (parenthesized head [e.printed]).toList :=
  Form.toList_parenthesized head (by simp only [List.map_cons, List.map_nil, inside.rendered])

/-- Its head and its part are words and groups of words. -/
theorem Expr.Shown.plain_alone {e : Expr} (inside : e.Shown) {head : String}
    (isWord : Word head) : (Form.group head [e.form]).Plain :=
  .group isWord (List.forall_mem_singleton.mpr inside.plain)

/-- An operator between shown operands is shown: its spelling tells it from all others. -/
theorem Expr.Shown.join (op : Operator) {left right : Expr} {sign : Token}
    (spelled : sign.lexeme = op.kind.spelling) (onLeft : left.Shown) (onRight : right.Shown) :
    (op.join left sign right).Shown := by
  have form : (op.join left sign right).form =
      .group op.kind.spelling [left.form, right.form] := by cases op <;> rfl
  have printed : (op.join left sign right).printed =
      parenthesized op.kind.spelling [left.printed, right.printed] := by
    rw [← spelled]
    cases op <;> rfl
  obtain ⟨isWord, apart, tells⟩ := op.spelling_tells
  refine ⟨?_, ?_, ?_⟩
  · rw [form, printed]
    exact Form.toList_parenthesized _
      (by simp only [List.map_cons, List.map_nil, onLeft.rendered, onRight.rendered])
  · rw [form]
    exact .group isWord
      (List.forall_mem_cons.mpr ⟨onLeft.plain, List.forall_mem_singleton.mpr onRight.plain⟩)
  · rw [form, ofForm, if_neg apart, tells, onLeft.back, onRight.back]
    cases op <;> rfl

/-- If all nodes are legible, the expression is read back, constructor by constructor. -/
theorem Expr.shown {e : Expr} (legible : ∀ node ∈ e.phrases, node.Legible) : e.Shown := by
  have own : Phrase.Legible (.expr e) := legible _ e.mem_phrases
  induction e with
  | literal value token =>
    obtain ⟨isWord, back⟩ := Value.Legible.ofWord_printed own
    refine ⟨rfl, .word isWord, ?_⟩
    rw [form, ofForm, back]
    rfl
  | reference name token =>
    refine ⟨rfl, .word (own.word_of_plain (.inl rfl)), ?_⟩
    rw [form, ofForm, ofWord_name own]
    rfl
  | grouping opening inner closing ih =>
    rw [phrases_grouping, List.forall_mem_cons] at legible
    have inside := ih legible.2 (legible.2 _ inner.mem_phrases)
    refine ⟨inside.rendered_alone "group", inside.plain_alone (by decide), ?_⟩
    rw [form, ofForm, if_pos rfl, inside.back]
    rfl
  | unary op sign operand ih =>
    rw [phrases_unary, List.forall_mem_cons] at legible
    have inside := ih legible.2 (legible.2 _ operand.mem_phrases)
    obtain ⟨isWord, apart, tells⟩ := op.spelling_tells
    refine ⟨?_, inside.plain_alone isWord, ?_⟩
    · have spelled : sign.lexeme = op.kind.spelling := own
      rw [printed, spelled]
      exact inside.rendered_alone _
    · rw [form, ofForm, if_neg apart, tells, inside.back]
      rfl
  | binary op left sign right ih ih' =>
    rw [phrases_binary, List.forall_mem_cons, List.forall_mem_append] at legible
    exact Shown.join (.binary op) own (ih legible.2.1 (legible.2.1 _ left.mem_phrases))
      (ih' legible.2.2 (legible.2.2 _ right.mem_phrases))
  | logical op left sign right ih ih' =>
    rw [phrases_logical, List.forall_mem_cons, List.forall_mem_append] at legible
    exact Shown.join (.logical op) own (ih legible.2.1 (legible.2.1 _ left.mem_phrases))
      (ih' legible.2.2 (legible.2.2 _ right.mem_phrases))
  | assign name target value ih =>
    rw [phrases_assign, List.forall_mem_cons] at legible
    have inside := ih legible.2 (legible.2 _ value.mem_phrases)
    have isWord : Word name := Lexeme.word_of_plain own (.inl rfl)
    refine ⟨?_, .group (by decide) (List.forall_mem_cons.mpr
      ⟨.word isWord, List.forall_mem_singleton.mpr inside.plain⟩), ?_⟩
    · exact Form.toList_parenthesized "="
        (by simp only [List.map_cons, List.map_nil, inside.rendered, render])
    · rw [form, ofForm, if_pos rfl, inside.back]
      rfl

/-! ## 6. Statements shown -/

/-- The forms are what is printed of the statements, and these are read back from them. -/
structure Stmt.AllShown (ss : List Stmt) : Prop where
  rendered : (forms ss).map render = (printedAll ss).map String.toList
  plain : ∀ f ∈ forms ss, f.Plain
  back : ofForms (forms ss) = bareAll ss

/-- The form is what is printed of the statement, and the statement is read back from it. -/
structure Stmt.Shown (s : Stmt) : Prop where
  rendered : s.form.render = s.printed.toList
  plain : s.form.Plain
  back : ofForm s.form = s.bare

namespace Stmt

section

variable {body : List Stmt} (inside : AllShown body)

include inside

/-- A block is a group of the forms of its statements: rendered, plain, and read back. -/
theorem AllShown.rendered_block :
    (Form.group "block" (forms body)).render = (parenthesized "block" (printedAll body)).toList :=
  Form.toList_parenthesized "block" inside.rendered

theorem AllShown.plain_block : (Form.group "block" (forms body)).Plain :=
  .group (by decide) inside.plain

theorem AllShown.ofBlock_block (opening closing : Token) :
    ofBlock (.group "block" (forms body)) =
      mapBlock (fun _ => .blank) ⟨opening, body, closing⟩ := by
  rw [ofBlock, inside.back]
  rfl

end

/-- An expression and blocks, one after the other, between parentheses. -/
theorem rendered_conditional {condition : Expr} (test : condition.Shown) (head : String)
    {bodies : List (List Stmt)} (inside : ∀ body ∈ bodies, AllShown body) :
    (Form.group head
        (condition.form :: bodies.map fun body => .group "block" (forms body))).render =
      (parenthesized head
        (condition.printed ::
          bodies.map fun body => parenthesized "block" (printedAll body))).toList := by
  refine Form.toList_parenthesized head ?_
  rw [List.map_cons, List.map_cons, test.rendered, List.map_map, List.map_map]
  exact congrArg _ (List.map_congr_left fun body mem => (inside body mem).rendered_block)

/-- A statement with a condition and blocks is a group of these. -/
theorem plain_conditional {condition : Expr} (test : condition.Shown) {head : String}
    (isWord : Word head) {bodies : List (List Stmt)} (inside : ∀ body ∈ bodies, AllShown body) :
    (Form.group head
      (condition.form :: bodies.map fun body => .group "block" (forms body))).Plain := by
  refine .group isWord (List.forall_mem_cons.mpr ⟨test.plain, List.forall_mem_map.mpr ?_⟩)
  exact fun body mem => (inside body mem).plain_block

/-- Statement by statement: each is shown if its parts are. -/
theorem shown_expr {e : Expr} (inside : e.Shown) (semicolon : Token) :
    Shown (.expr e semicolon) := by
  refine ⟨inside.rendered_alone "expr", inside.plain_alone (by decide), ?_⟩
  show ofForm (.group "expr" [e.form]) = .expr e.bare .blank
  simp [ofForm, inside.back]

theorem shown_print {e : Expr} (inside : e.Shown) (keyword semicolon : Token) :
    Shown (.print keyword e semicolon) := by
  refine ⟨inside.rendered_alone "print", inside.plain_alone (by decide), ?_⟩
  show ofForm (.group "print" [e.form]) = .print .blank e.bare .blank
  simp [ofForm, inside.back]

/-- A declaration without a value is shown with its name alone. -/
theorem shown_declare {name : String} (isWord : Word name) (keyword target semicolon : Token) :
    Shown (.declare keyword name target none semicolon) := by
  refine ⟨?_, .group (by decide) (List.forall_mem_singleton.mpr (.word isWord)), ?_⟩
  · exact Form.toList_parenthesized "var" rfl
  · show ofForm (.group "var" [.word name]) = .declare .blank name .blank none .blank
    simp [ofForm, Form.text]

theorem shown_declareAs {name : String} (isWord : Word name) {e : Expr} (inside : e.Shown)
    (keyword target semicolon : Token) :
    Shown (.declare keyword name target (some e) semicolon) := by
  refine ⟨?_, .group (by decide) (List.forall_mem_cons.mpr
    ⟨.word isWord, List.forall_mem_singleton.mpr inside.plain⟩), ?_⟩
  · exact Form.toList_parenthesized "var"
      (by simp only [List.map_cons, List.map_nil, inside.rendered, render])
  · show ofForm (.group "var" [.word name, e.form]) =
      .declare .blank name .blank (some e.bare) .blank
    simp [ofForm, Form.text, inside.back]

theorem shown_block {b : Block Stmt} (inside : AllShown b.body) : Shown (.block b) := by
  obtain ⟨opening, body, closing⟩ := b
  refine ⟨inside.rendered_block, inside.plain_block, ?_⟩
  show ofForm (.group "block" (forms body)) = .block (mapBlock _ ⟨opening, body, closing⟩)
  simp [ofForm, inside.back, mapBlock, bareAll, Token.blank]

theorem shown_ifThen {condition : Expr} (test : condition.Shown) {b : Block Stmt}
    (inside : AllShown b.body) (keyword : Token) : Shown (.ifThen keyword condition b) := by
  obtain ⟨opening, body, closing⟩ := b
  have bodies := List.forall_mem_singleton.mpr inside
  refine ⟨rendered_conditional test "if" bodies, plain_conditional test (by decide) bodies, ?_⟩
  show ofForm (.group "if" [condition.form, .group "block" (forms body)]) =
    .ifThen .blank condition.bare (mapBlock _ ⟨opening, body, closing⟩)
  simp [ofForm, test.back, inside.ofBlock_block opening closing]

/-- Two blocks behind the condition, where an `if` without `else` has one. -/
theorem shown_ifElse {condition : Expr} (test : condition.Shown) {b b' : Block Stmt}
    (inside : AllShown b.body) (inOther : AllShown b'.body) (keyword : Token) :
    Shown (.ifElse keyword condition b b') := by
  obtain ⟨opening, body, closing⟩ := b
  obtain ⟨opening', other, closing'⟩ := b'
  have bodies := List.forall_mem_cons.mpr ⟨inside, List.forall_mem_singleton.mpr inOther⟩
  refine ⟨rendered_conditional test "if" bodies, plain_conditional test (by decide) bodies, ?_⟩
  show ofForm (.group "if" [condition.form, .group "block" (forms body),
    .group "block" (forms other)]) = .ifElse .blank condition.bare
      (mapBlock _ ⟨opening, body, closing⟩) (mapBlock _ ⟨opening', other, closing'⟩)
  simp [ofForm, test.back, inside.ofBlock_block opening closing,
    inOther.ofBlock_block opening' closing']

theorem shown_loop {condition : Expr} (test : condition.Shown) {b : Block Stmt}
    (inside : AllShown b.body) (keyword : Token) : Shown (.loop keyword condition b) := by
  obtain ⟨opening, body, closing⟩ := b
  have bodies := List.forall_mem_singleton.mpr inside
  refine ⟨rendered_conditional test "while" bodies, plain_conditional test (by decide) bodies, ?_⟩
  show ofForm (.group "while" [condition.form, .group "block" (forms body)]) =
    .loop .blank condition.bare (mapBlock _ ⟨opening, body, closing⟩)
  simp [ofForm, test.back, inside.ofBlock_block opening closing]

theorem AllShown.behind {s : Stmt} {rest : List Stmt} (first : s.Shown)
    (others : AllShown rest) : AllShown (s :: rest) := by
  refine ⟨?_, List.forall_mem_cons.mpr ⟨first.plain, others.plain⟩, ?_⟩
  · rw [forms, printedAll, List.map_cons, List.map_cons, first.rendered, others.rendered]
  · rw [forms, ofForms, first.back, others.back]
    rfl

/-- A script all of whose nodes are legible is read back. -/
theorem allShown {ss : List Stmt} (legible : ∀ node ∈ phrasesAll ss, node.Legible) :
    AllShown ss := by
  have both : (∀ s : Stmt, (∀ node ∈ s.phrases, node.Legible) → s.Shown) ∧
      ∀ ss : List Stmt, (∀ node ∈ phrasesAll ss, node.Legible) → AllShown ss := by
    refine Stmt.induction ?expr ?print ?declare ?block ?ifThen ?ifElse ?loop ?nil ?cons
    case expr =>
      intro e semicolon legible
      rw [phrases_expr, List.forall_mem_cons] at legible
      exact shown_expr (Expr.shown legible.2) semicolon
    case print =>
      intro keyword e semicolon legible
      rw [phrases_print, List.forall_mem_cons] at legible
      exact shown_print (Expr.shown legible.2) keyword semicolon
    case declare =>
      intro keyword name target value semicolon legible
      have isName : Lexeme .identifier name.toList :=
        legible (.stmt (.declare keyword name target value semicolon)) (Stmt.mem_phrases _)
      have isWord : Word name := isName.word_of_plain (.inl rfl)
      cases value with
      | none => exact shown_declare isWord keyword target semicolon
      | some e =>
        rw [phrases_declare, List.forall_mem_cons] at legible
        exact shown_declareAs isWord (Expr.shown legible.2) keyword target semicolon
    case block =>
      intro b ih legible
      rw [phrases_block, List.forall_mem_cons] at legible
      exact shown_block (ih legible.2)
    case ifThen =>
      intro keyword condition b ih legible
      simp only [phrases_ifThen, phrases_block, List.forall_mem_cons, List.forall_mem_append]
        at legible
      obtain ⟨-, test, -, inside⟩ := legible
      exact shown_ifThen (Expr.shown test) (ih inside) keyword
    case ifElse =>
      intro keyword condition b b' ih ih' legible
      simp only [phrases_ifElse, phrases_block, List.forall_mem_cons, List.forall_mem_append]
        at legible
      obtain ⟨-, ⟨test, -, inside⟩, -, inOther⟩ := legible
      exact shown_ifElse (Expr.shown test) (ih inside) (ih' inOther) keyword
    case loop =>
      intro keyword condition b ih legible
      simp only [phrases_loop, phrases_block, List.forall_mem_cons, List.forall_mem_append]
        at legible
      obtain ⟨-, test, -, inside⟩ := legible
      exact shown_loop (Expr.shown test) (ih inside) keyword
    case nil => exact fun _ => ⟨rfl, List.forall_mem_nil _, by rw [forms, ofForms]; rfl⟩
    case cons =>
      intro s rest ih ihRest legible
      rw [phrasesAll_cons, List.forall_mem_append] at legible
      exact .behind (ih legible.1) (ihRest legible.2)
  exact both.2 ss legible

end Stmt

end Scriptlet
