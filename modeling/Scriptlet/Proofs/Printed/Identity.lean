/-
Scriptlet.Proofs.Printed.Identity — the printed form tells which program it is of.

A script is printed a line for each statement, and no form goes over the end of its line. So
the printed form can be taken apart into the forms of the statements in one way only, and each
of these is read back. What it does not tell is where the tokens stood, and how they were
written.
-/
import Scriptlet.Proofs.Printed.Reading

namespace Scriptlet

open Form (render renderAll)

/-- A statement is printed between parentheses. -/
theorem Stmt.form_group (s : Stmt) : ∃ head parts, s.form = .group head parts := by
  cases s with
  | declare keyword name target value semicolon => cases value <;> exact ⟨_, _, rfl⟩
  | _ => exact ⟨_, _, rfl⟩

/-- What is printed of a script, if that is anything at all, is its forms, each behind a line
break, but for the first of these line breaks. -/
theorem Stmt.AllShown.rendered_lines {p : Program} (shown : AllShown p) :
    renderAll '\n' (forms p) = if p.printed = "" then [] else '\n' :: p.printed.toList := by
  cases p with
  | nil => rfl
  | cons s rest =>
    have lines : renderAll '\n' (forms (s :: rest)) =
        '\n' :: (Program.printed (s :: rest)).toList := by
      have joined := Form.toList_intercalate '\n' s.printed (printedAll rest)
      rw [Form.renderAll_eq, shown.rendered, printedAll, List.map_cons, List.flatMap_cons,
        List.cons_append, ← joined]
      rfl
    have something : Program.printed (s :: rest) ≠ "" := by
      intro nothing
      obtain ⟨head, parts, isGroup⟩ := s.form_group
      rw [nothing, forms, isGroup, renderAll, render] at lines
      cases lines
    rw [lines, if_neg something]

/-- What is printed of a script tells its statements, and nothing but these. -/
theorem Stmt.AllShown.printed_eq_iff {p q : Program} (shown : AllShown p) (shown' : AllShown q) :
    p.printed = q.printed ↔ bareAll p = bareAll q := by
  constructor
  · intro same
    have lines : renderAll '\n' (forms p) = renderAll '\n' (forms q) := by
      rw [shown.rendered_lines, shown'.rendered_lines, same]
    rw [← shown.back, ← shown'.back, Form.renderAll_injective shown.plain shown'.plain lines]
  · intro same
    have sameForms : forms p = forms q := by
      rw [← forms_mapAll (fun _ => .blank) p, ← forms_mapAll (fun _ => .blank) q]
      exact congrArg forms same
    have sameLines : (printedAll p).map String.toList = (printedAll q).map String.toList := by
      rw [← shown.rendered, ← shown'.rendered, sameForms]
    have injective : Function.Injective (List.map String.toList) :=
      List.map_injective_iff.mpr fun _ _ => String.toList_inj.mp
    exact congrArg "\n".intercalate (injective sameLines)

/-- Two scripts without texts and without infinite numbers are printed alike exactly if they are
the same tree: the same statements and expressions, node by node, with the same operators,
names and values. -/
theorem printed_identifies {r r' : Report} {text text' : String} {p q : Program}
    (accepted : (r.review Program.ofStream text).outcome = .accepted p)
    (accepted' : (r'.review Program.ofStream text').outcome = .accepted q)
    (ordinary : ∀ node ∈ Stmt.phrasesAll p, node.Ordinary)
    (ordinary' : ∀ node ∈ Stmt.phrasesAll q, node.Ordinary) :
    p.printed = q.printed ↔ Stmt.bareAll p = Stmt.bareAll q := by
  have legible := Program.legible_of_scan (Report.review_eq_accepted accepted) ordinary
  have legible' := Program.legible_of_scan (Report.review_eq_accepted accepted') ordinary'
  exact (Stmt.allShown legible).printed_eq_iff (Stmt.allShown legible')

theorem Lexeme.numeral_ends (numeral : List Char) : EndsBefore .number numeral [';'] := by
  rintro next first (⟨c, rfl, digit⟩ | ⟨-, c, rfl, -⟩)
  · obtain ⟨rfl, -⟩ := List.cons_prefix_cons.mp first
    exact absurd digit (by decide)
  · exact absurd (List.cons_prefix_cons.mp first).1 (by decide)

def numberStatement (numeral : List Char) : Program :=
  [.expr (.literal (.number (Decimal.ofNumeral numeral).toFloat) (.written .number numeral 0))
    (.written (.mark .semicolon) [';'] numeral.length)]

theorem accepted_numberStatement {numeral : List Char} (isLexeme : Lexeme .number numeral)
    (oneLine : '\n' ∉ numeral) :
    (Report.review {} Program.ofStream (String.ofList (numeral ++ [';']))).outcome =
      .accepted (numberStatement numeral) := by
  have segments : Segment.segments (numeral ++ [';']) =
      [.token .number numeral, .token (.mark .semicolon) [';']] := by
    rw [Segment.segments_token isLexeme (Lexeme.numeral_ends numeral)]
    exact congrArg (List.cons _) (Segment.segments_lexeme (.mark .semicolon))
  have scan : (Scan.ofText (String.ofList (numeral ++ [';']))).body =
      [.written .number numeral 0, .written (.mark .semicolon) [';'] numeral.length] ∧
      (Scan.ofText (String.ofList (numeral ++ [';']))).errors = [] := by
    rw [Scan.ofText_eq]
    simp only [Scan.placed, String.toList_ofList, segments, Segment.place, Segment.lineFeeds,
      Segment.text, List.count_eq_zero_of_not_mem oneLine, Nat.zero_add]
    exact ⟨rfl, rfl⟩
  refine Report.review_of_silent_scan {} scan.2 (Program.ofStream_eq_ok_iff.mpr
    ⟨.oneMore (.statement (.effect (.disjunction (.ofTerm (.chain (.chain (.primary
      (.numberLiteral ⟨.written .number numeral 0, rfl⟩)) .noOperation) .noOperation)))
      ⟨.written (.mark .semicolon) [';'] numeral.length, rfl⟩)) .noDeclaration, ?_, rfl⟩)
  rw [Scan.stream, scan.1]
  rfl

/-- Numerals of the same number are printed alike. -/
theorem printed_identifies_numerals :
    (Report.review {} Program.ofStream "1;").outcome = .accepted (numberStatement ['1']) ∧
      (Report.review {} Program.ofStream "1.0;").outcome =
        .accepted (numberStatement ['1', '.', '0']) ∧
      (numberStatement ['1']).printed = (numberStatement ['1', '.', '0']).printed := by
  have digit : ∀ {c}, Text.isDigit c = true → Digits [c] := fun digit =>
    ⟨List.cons_ne_nil _ _, List.forall_mem_singleton.mpr digit⟩
  have whole : Lexeme .number ['1'] := .whole (digit rfl)
  have fraction : Lexeme .number ['1', '.', '0'] :=
    @Lexeme.fraction ['1'] ['0'] (digit rfl) (digit rfl)
  have accepted := accepted_numberStatement whole (by decide)
  have accepted' := accepted_numberStatement fraction (by decide)
  have same : (Decimal.ofNumeral ['1']).toFloat = (Decimal.ofNumeral ['1', '.', '0']).toFloat :=
    congrArg Double.ofMagnitude (by decide +kernel)
  have finite : Double.classOf (Decimal.ofNumeral ['1']).toFloat ≠ .infinite := by decide +kernel
  have ordinary : ∀ numeral, Double.classOf (Decimal.ofNumeral numeral).toFloat ≠ .infinite →
      ∀ node ∈ Stmt.phrasesAll (numberStatement numeral), node.Ordinary := by
    intro numeral finite
    exact List.forall_mem_cons.mpr ⟨trivial, List.forall_mem_singleton.mpr finite⟩
  refine ⟨accepted, accepted', (printed_identifies accepted accepted' (ordinary _ finite)
    (ordinary _ (same ▸ finite))).mpr ?_⟩
  rw [numberStatement, numberStatement, same]
  rfl

end Scriptlet
