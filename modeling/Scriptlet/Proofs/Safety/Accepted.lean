/-
Scriptlet.Proofs.Safety.Accepted — how a script that was accepted can fail.

The tree of an accepted text means what its tokens say, so there is an operator
for every sign in it and a value of the right kind for every literal; and a run
of it fails by a refused operand, a condition that is no truth value or a
variable without a binding, and by nothing else, with the node in question to
blame.
-/
import Scriptlet.Proofs.Grammar.Recognition
import Scriptlet.Proofs.Safety.Faithful
import Scriptlet.Proofs.Safety.Sites
import Scriptlet.Session

namespace Scriptlet

open Grammar

/-! ## 1. What a review accepts -/

def Scan.stream (s : Scan) : Stream := { body := s.body, finish := s.finish }

/-- A review accepts what the grammar has read. -/
theorem Report.reviewTokens_eq_accepted {α : Type} {r : Report} {notes : String}
    {parsed : Except ParseError α} {value : α}
    (accepted : (r.reviewTokens notes parsed).outcome = .accepted value) : parsed = .ok value := by
  cases parsed with
  | ok other =>
    cases accepted
    rfl
  | error e =>
    rw [reviewTokens] at accepted
    split at accepted <;> cases accepted

/-- An accepted text is one that the grammar takes, whatever the scan complained about. -/
theorem Report.review_eq_accepted {α : Type} {r : Report}
    {grammar : Stream → Except ParseError α} {text : String} {value : α}
    (accepted : (r.review grammar text).outcome = .accepted value) :
    grammar (Scan.ofText text).stream = .ok value := by
  rw [review] at accepted
  split at accepted
  · cases accepted
  · exact reviewTokens_eq_accepted accepted

/-- The tree of a script means what its tokens say, since these come from a scan. -/
theorem Program.faithful_of_scan {text : String} {p : Program}
    (read : Program.ofStream (Scan.ofText text).stream = .ok p) :
    Faithful (Stmt.phrasesAll p) := by
  obtain ⟨d, word, rfl⟩ := Program.ofStream_eq_ok_iff.mp read
  refine faithful_tree d fun t mem => ?_
  rw [word] at mem
  exact Scan.scanned_of_mem mem

theorem Expr.faithful_of_scan {text : String} {e : Expr}
    (read : Expr.ofStream (Scan.ofText text).stream = .ok e) : Faithful e.phrases := by
  obtain ⟨d, word, rfl⟩ := Expr.ofStream_eq_ok_iff.mp read
  refine faithful_tree d fun t mem => ?_
  rw [word] at mem
  exact Scan.scanned_of_mem mem

/-! ## 2. How it can fail -/

/-- In the tree of an accepted text every node means what its tokens say. Every
fault of a run of it is a refusal of an operand or of a condition, or a variable
without a binding, and blames an expression of that tree that it can be about. -/
theorem faults_of_accepted (r : Report) (text : String) :
    (∀ p : Program, (r.review Program.ofStream text).outcome = .accepted p →
      Faithful (Stmt.phrasesAll p) ∧
        ∀ rounds st fault, (Stmt.execAll rounds p st).1 = .failed fault →
          fault.Fits (Stmt.phrasesAll p)) ∧
    ∀ e : Expr, (r.review Expr.ofStream text).outcome = .accepted e →
      Faithful e.phrases ∧
        ∀ env fault, (e.eval env).1 = .error fault → fault.Fits e.phrases := by
  constructor
  · intro p accepted
    refine ⟨Program.faithful_of_scan (Report.review_eq_accepted accepted), ?_⟩
    exact fun rounds st => Stmt.execAll_fits rounds p st
  · intro e accepted
    refine ⟨Expr.faithful_of_scan (Report.review_eq_accepted accepted), ?_⟩
    exact fun env => e.eval_fits env

/-- A scan without errors files nothing, and the grammar decides alone. -/
theorem Report.review_of_silent_scan {α : Type} (r : Report)
    {grammar : Stream → Except ParseError α} {text : String} {value : α}
    (silent : (Scan.ofText text).errors = [])
    (read : grammar (Scan.ofText text).stream = .ok value) :
    (r.review grammar text).outcome = .accepted value := by
  rw [Scan.stream] at read
  rw [review, silent, read]
  rfl

def Grammar.Derivation.ofNegation (sign : TokenOf (.mark .minus)) (operand : TokenOf .text) :
    Derivation .expression :=
  .disjunction (.ofTerm (.chain
    (.chain (.signed .negate sign (.primary (.textLiteral operand))) .noOperation) .noOperation))

def minusToken : Token := { kind := .mark .minus, lexeme := "-", line := 1, start := 0 }

def textToken : Token :=
  { kind := .text, lexeme := "\"\"", line := 1, payload := .text "", start := 1 }

def semicolonToken : Token := { kind := .mark .semicolon, lexeme := ";", line := 1, start := 3 }

/-- A minus sign and an empty text are two tokens. -/
theorem segments_negation (rest : List Char) :
    Segment.segments ('-' :: '"' :: '"' :: rest) =
      .token (.mark .minus) ['-'] :: .token .text ['"', '"'] :: Segment.segments rest := by
  rw [Segment.segments_cons]
  show _ :: Segment.segments ('"' :: '"' :: rest) = _
  rw [Segment.segments_cons]
  rfl

theorem scan_negation : Scan.ofText "-\"\"" =
    { body := [minusToken, textToken]
      finish := { kind := .finish, lexeme := "", line := 1, start := 3 }
      errors := [] } := by
  have segments : Segment.segments "-\"\"".toList = _ := segments_negation []
  rw [Scan.ofText_eq]
  simp only [Scan.placed, segments, Segment.segments_nil]
  rfl

theorem scan_negation_statement : Scan.ofText "-\"\";" =
    { body := [minusToken, textToken, semicolonToken]
      finish := { kind := .finish, lexeme := "", line := 1, start := 4 }
      errors := [] } := by
  have segments : Segment.segments "-\"\";".toList = _ := segments_negation [';']
  have semicolon : Segment.segments [';'] = [.token (.mark .semicolon) [';']] := by
    rw [Segment.segments_cons]
    show _ :: Segment.segments [] = _
    rw [Segment.segments_nil]
    rfl
  rw [Scan.ofText_eq]
  simp only [Scan.placed, segments, semicolon]
  rfl

/-- A minus sign before a text is a fault of its own node, in a script and in an expression. -/
theorem fault_of_negation :
    (∃ p fault, (Report.review {} Program.ofStream "-\"\";").outcome = .accepted p ∧
      (Stmt.execAll 0 p { env := .empty, out := "" }).1 = .failed fault ∧
      fault.cause = .type (.negated .text) ∧
      Faithful (Stmt.phrasesAll p) ∧ fault.Fits (Stmt.phrasesAll p)) ∧
    ∃ e fault, (Report.review {} Expr.ofStream "-\"\"").outcome = .accepted e ∧
      (e.eval .empty).1 = .error fault ∧
      fault.cause = .type (.negated .text) ∧
      Faithful e.phrases ∧ fault.Fits e.phrases := by
  let e := Derivation.ofNegation ⟨minusToken, rfl⟩ ⟨textToken, rfl⟩
  let p : Derivation .program :=
    .oneMore (.statement (.effect e ⟨semicolonToken, rfl⟩)) .noDeclaration
  constructor
  · have silent := congrArg Scan.errors scan_negation_statement
    have accepted : (Report.review {} Program.ofStream "-\"\";").outcome = .accepted p.tree := by
      refine Report.review_of_silent_scan {} silent (Program.ofStream_eq_ok_iff.mpr ⟨p, ?_, rfl⟩)
      rw [scan_negation_statement]
      rfl
    obtain ⟨faithful, fits⟩ := (faults_of_accepted {} "-\"\";").1 p.tree accepted
    refine ⟨p.tree, { cause := .type (.negated .text), site := .expr e.tree }, accepted, ?_⟩
    exact ⟨rfl, rfl, faithful, fits 0 { env := .empty, out := "" } _ rfl⟩
  · have silent := congrArg Scan.errors scan_negation
    have accepted : (Report.review {} Expr.ofStream "-\"\"").outcome = .accepted e.tree := by
      refine Report.review_of_silent_scan {} silent (Expr.ofStream_eq_ok_iff.mpr ⟨e, ?_, rfl⟩)
      rw [scan_negation]
      rfl
    obtain ⟨faithful, fits⟩ := (faults_of_accepted {} "-\"\"").2 e.tree accepted
    refine ⟨e.tree, { cause := .type (.negated .text), site := .expr e.tree }, accepted, ?_⟩
    exact ⟨rfl, rfl, faithful, fits .empty _ rfl⟩

end Scriptlet
