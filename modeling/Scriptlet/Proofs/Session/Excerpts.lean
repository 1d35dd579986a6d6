/-
Scriptlet.Proofs.Session.Excerpts — the line that a message names is the line that its
excerpt shows.

Lines are counted twice: by the scanner, which goes by line feeds, and again by the
illustrator, which breaks the text into rows at carriage returns too. Of the illustrator
no more is known than two things it is assumed to do: it sets the number of a row in front
of it (`Illustrator.QuotesRows`), and the number of a row is one more than the breaks
before it (`Illustrator.CountsBreaks`). Where every carriage return has its line feed
behind it, a break ends just where a line feed does, and the two counts agree at every
offset of the text (`Source.breaks_eq_lineAt`). With every issue pointing at the place whose
line it names, that is all there is to say.

The illustrator that the program runs with does both. Its rows end before an offset where
breaks do (`Excerpt.row_place`).
-/
import Scriptlet.Issue.Excerpt
import Scriptlet.Proofs.Session.Positions
import Scriptlet.Proofs.Session.Silent

namespace Scriptlet

/-! ## 1. Breaks -/

namespace Source

/-- A row ends with the character at this offset: with a line feed, or with a carriage
return that has no line feed behind it. -/
def endsRow (cs : List Char) (i : Nat) : Bool :=
  cs[i]? == some '\n' || cs[i]? == some '\r' && cs[i + 1]? != some '\n'

/-- How many breaks end at or before an offset. -/
def breaks (cs : List Char) (offset : Nat) : Nat := (List.range offset).countP (endsRow cs)

/-- Every carriage return is directly followed by a line feed. -/
def Paired (cs : List Char) : Prop :=
  ∀ i < cs.length, cs[i]? = some '\r' → cs[i + 1]? = some '\n'

instance (cs : List Char) : Decidable (Paired cs) :=
  inferInstanceAs (Decidable (∀ i < cs.length, cs[i]? = some '\r' → cs[i + 1]? = some '\n'))

/-- With paired returns, rows end at line feeds only. -/
theorem endsRow_of_paired {cs : List Char} (paired : Paired cs) (i : Nat) :
    endsRow cs i = (cs[i]? == some '\n') := by
  by_cases isReturn : cs[i]? = some '\r'
  · have lineFeed := paired i (List.getElem?_eq_some_iff.mp isReturn).1 isReturn
    simp [endsRow, isReturn, lineFeed]
  · simp [endsRow, isReturn]

/-- The line feeds before an offset, counted one offset at a time. -/
theorem countP_lineFeeds (cs : List Char) (offset : Nat) :
    (List.range offset).countP (fun i => cs[i]? == some '\n') = (cs.take offset).count '\n' := by
  induction offset with
  | zero => rfl
  | succ offset ih =>
    rw [List.range_succ, List.countP_append, ih, List.take_add_one, List.count_append]
    cases found : cs[offset]? with
    | none => simp [found]
    | some c => simp [found, List.count_singleton]

/-- Where every carriage return is followed by a line feed, the breaks before an offset are
the line feeds before it. -/
theorem breaks_eq_lineAt {cs : List Char} (paired : Paired cs) (offset : Nat) :
    1 + breaks cs offset = lineAt cs offset := by
  have ends : endsRow cs = fun i => cs[i]? == some '\n' := funext (endsRow_of_paired paired)
  rw [breaks, ends, countP_lineFeeds, lineAt]

end Source

/-! ## 2. What is assumed of an illustrator -/

namespace Illustrator

/-- An issue that points at one place is set out with a row of its source, the number of
that row in front. Which row that is, and which number, depends on the text and on where the
place starts. -/
def QuotesRows [Illustrator] (number : String → Nat → Nat) (row : String → Nat → String) : Prop :=
  ∀ (source : Source) (i : Issue) (e : Evidence), i.evidence = [e] →
    ∃ (above below : String) (pad : Nat), render source i =
      above ++ "\n" ++ String.ofList (List.replicate pad ' ') ++
        toString (number source.text e.start) ++ " :" ++ row source.text e.start ++ "\n" ++ below

/-- The number of the row at an offset is one more than the breaks that end at or before
that offset. -/
def CountsBreaks (number : String → Nat → Nat) : Prop :=
  ∀ text offset, number text offset = 1 + Source.breaks text.toList offset

end Illustrator

/-- The issue points at one place of the source. It is set out with the row of that place,
and the number in front of the row is the number of the line in the description. -/
def Issue.QuotesItsLine [Illustrator] (row : String → Nat → String) (source : Source)
    (i : Issue) : Prop :=
  ∃ (e : Evidence) (line pad : Nat) (message above below : String),
    i.evidence = [e] ∧ i.description = "[line " ++ toString line ++ "] " ++ message ∧
      Illustrator.render source i =
        above ++ "\n" ++ String.ofList (List.replicate pad ' ') ++ toString line ++ " :" ++
          row source.text e.start ++ "\n" ++ below

section Assumed

variable [Illustrator] {number : String → Nat → Nat} {row : String → Nat → String}

/-- An issue that points at one place is quoted there; what the row is numbered by counts breaks,
and what the description is numbered by counts line feeds. -/
theorem Issue.PointsAt.quotesItsLine (quotes : Illustrator.QuotesRows number row)
    (counts : Illustrator.CountsBreaks number) {source : Source} {start stop : Nat} {i : Issue}
    (paired : Source.Paired source.text.toList)
    (points : i.PointsAt source.text.toList start stop) : i.QuotesItsLine row source := by
  obtain ⟨⟨caption, alone⟩, -, message, description⟩ := points
  obtain ⟨above, below, pad, rendered⟩ := quotes source i _ alone
  rw [counts, Source.breaks_eq_lineAt paired] at rendered
  exact ⟨_, _, pad, message, above, below, alone, description, rendered⟩

/-! ## 3. Runs -/

/-- Where every carriage return of a text is followed by a line feed, each issue that a run
files about the text names a line and is set out, under the same number, with the row it
points at, by every illustrator that numbers rows by their breaks. -/
theorem lines_agree (quotes : Illustrator.QuotesRows number row)
    (counts : Illustrator.CountsBreaks number) (text : String) (paired : Source.Paired text.toList)
    (r : Report) (rounds : Nat) (filename : Option String) (env : Environment) :
    let report := (r.run rounds text filename env).report
    ∃ filed : List Issue, report.issues = r.issues ++ filed.toArray ∧
      report.text = "\n".intercalate
        ((r.issues.toList ++ filed).map (Illustrator.render { text, filename })) ∧
      ∀ i ∈ filed, i.QuotesItsLine row { text, filename } := by
  obtain ⟨filed, course⟩ := r.run_course rounds text filename env
  intro report
  have answered : report = (r.setSource text filename).adding filed := course.agrees.report
  refine ⟨filed, ?_, ?_, fun i mem => ?_⟩
  · rw [answered]
    rfl
  · rw [answered, Report.text, Report.adding, Array.toList_append]
    rfl
  · obtain ⟨start, stop, points, -⟩ := course.points i mem
    exact points.quotesItsLine quotes counts paired

end Assumed

/-! ## 4. The illustrator of the program -/

namespace Excerpt

theorem rows_ne_nil (cs : List Char) : rows cs ≠ [] := by
  fun_cases rows cs with
  | case1 | case2 | case3 | case4 | case5 => exact List.cons_ne_nil _ _

/-- The rows that end before an offset, in a text with one more character in front. -/
theorem countP_endsRow_cons (c : Char) (rest : List Char) (offset : Nat) :
    (List.range (offset + 1)).countP (Source.endsRow (c :: rest)) =
      (Source.endsRow (c :: rest) 0).toNat + (List.range offset).countP (Source.endsRow rest) := by
  have later : Source.endsRow (c :: rest) ∘ Nat.succ = Source.endsRow rest := rfl
  rw [List.range_succ_eq_map, List.countP_cons, List.countP_map, later, Nat.add_comm]
  cases Source.endsRow (c :: rest) 0 <;> rfl

namespace Place

theorem row_find_within (above : Nat) {row : List Char} {offset : Nat}
    (inside : offset < row.length) (others : List (List Char)) :
    (find above (row :: others) offset).row = above := by
  cases others with
  | nil => rfl
  | cons next others => rw [find, if_pos inside]

theorem row_find_later (above : Nat) (row : List Char) {others : List (List Char)}
    (more : others ≠ []) (offset : Nat) :
    (find above (row :: others) (row.length + offset)).row =
      (find (above + 1) others offset).row := by
  cases others with
  | nil => exact absurd rfl more
  | cons next others =>
    rw [find, if_neg (Nat.not_lt.mpr (Nat.le_add_right _ _)), Nat.add_sub_cancel_left]

/-- One more character in front of the first row moves no offset to another row. -/
theorem row_find_grown (above : Nat) (c : Char) (row : List Char) (others : List (List Char))
    (offset : Nat) :
    (find above ((c :: row) :: others) (offset + 1)).row =
      (find above (row :: others) offset).row := by
  cases others with
  | nil => rfl
  | cons next others =>
    rw [find, find, List.length_cons, Nat.add_sub_add_right]
    by_cases inside : offset < row.length
    · rw [if_pos inside, if_pos (Nat.succ_lt_succ inside)]
    · rw [if_neg inside, if_neg (mt Nat.lt_of_succ_lt_succ inside)]

end Place

/-- The row of an offset is the number of rows that end before it. -/
theorem row_find (cs : List Char) :
    ∀ above offset, (Place.find above (rows cs) offset).row =
      above + (List.range offset).countP (Source.endsRow cs) := by
  fun_induction rows cs with
  | case1 =>
    intro above offset
    have none : (List.range offset).countP (Source.endsRow []) = 0 :=
      List.countP_eq_zero.mpr fun i _ => Bool.false_ne_true
    rw [none]
    rfl
  | case2 rest ih =>
    intro above offset
    match offset with
    | 0 => exact Place.row_find_within above (by decide) _
    | 1 => exact Place.row_find_within above (by decide) _
    | offset + 2 =>
      have later := Place.row_find_later above ['\r', '\n'] (rows_ne_nil rest) offset
      rw [List.length_cons, List.length_singleton, Nat.add_comm] at later
      rw [later, ih, countP_endsRow_cons, countP_endsRow_cons]
      show _ = above + (0 + (1 + _))
      omega
  | case3 c rest notBoth isBreak ih =>
    intro above offset
    have ends : Source.endsRow (c :: rest) 0 = true := by
      obtain rfl | rfl := isBreak
      · have alone : rest[0]? ≠ some '\n' := by
          intro lineFeed
          obtain ⟨more, rfl⟩ := List.head?_eq_some_iff.mp (List.head?_eq_getElem? ▸ lineFeed)
          exact notBoth more rfl rfl
        simp [Source.endsRow, alone]
      · rfl
    match offset with
    | 0 => exact Place.row_find_within above (Nat.one_pos) _
    | offset + 1 =>
      have later := Place.row_find_later above [c] (rows_ne_nil rest) offset
      rw [List.length_singleton, Nat.add_comm] at later
      rw [later, ih, countP_endsRow_cons, ends]
      show _ = above + (1 + _)
      omega
  | case4 c rest notBoth noBreak none ih => exact absurd none (rows_ne_nil rest)
  | case5 c rest notBoth noBreak row others found ih =>
    intro above offset
    have goesOn : Source.endsRow (c :: rest) 0 = false := by
      rw [not_or] at noBreak
      simp [Source.endsRow, noBreak]
    match offset with
    | 0 => exact Place.row_find_within above (Nat.succ_pos _) _
    | offset + 1 =>
      rw [Place.row_find_grown, ← found, ih, countP_endsRow_cons, goesOn]
      show _ = above + (0 + _)
      omega

/-- The lookup goes through the rows, and so counts the breaks that it passes. -/
theorem row_place (text : String) (offset : Nat) :
    (place text offset).row = Source.breaks text.toList offset := by
  rw [place, row_find, Nat.zero_add, Source.breaks]

/-- What stands before a row is its number, with spaces in front of it and a colon behind. -/
theorem margin_eq (number : Nat) :
    ∃ pad, String.ofList (margin number) =
      String.ofList (List.replicate pad ' ') ++ toString number ++ " :" := by
  refine ⟨6 - (' ' :: Nat.toDigits 10 number).length + 1, ?_⟩
  have digits : (toString number).toList = Nat.toDigits 10 number := Nat.toList_repr
  rw [← String.toList_inj, String.toList_append, String.toList_append, String.toList_ofList,
    String.toList_ofList, digits, margin, List.replicate_succ', List.append_assoc _ [' ']]
  rfl

def number (text : String) (offset : Nat) : Nat := 1 + (place text offset).row

def row (text : String) (offset : Nat) : String :=
  String.ofList (Text.trimEnd (place text offset).text)

theorem countsBreaks : Illustrator.CountsBreaks number := fun text offset => by
  rw [number, row_place]

theorem heading_cases (source : Source) (evidence : List Evidence) :
    heading source evidence = [] ∨ ∃ named, heading source evidence = [named] := by
  unfold heading
  split
  · split
    · exact .inl rfl
    · exact .inr ⟨_, rfl⟩
  · exact .inl rfl

theorem lines_eq (text : String) (e : Evidence) :
    ∃ (pad : Nat) (carets : String), lines text e =
      [String.ofList (List.replicate pad ' ') ++ toString (number text e.start) ++ " :" ++
        row text e.start, carets] := by
  obtain ⟨pad, margin⟩ := margin_eq ((place text e.start).row + 1)
  exact ⟨pad, _, by rw [lines, String.ofList_append, margin, number, row, Nat.add_comm 1]⟩

theorem quotesRows : Illustrator.QuotesRows number row := by
  intro source i e alone
  obtain ⟨pad, carets, shown⟩ := lines_eq source.text e
  let first := "Error while " ++ i.phase.name ++ ": " ++ i.description
  have rendered : Illustrator.render source i =
      "\n".intercalate (first :: heading source [e] ++ lines source.text e) := by
    rw [← List.flatMap_singleton (lines source.text) e, ← alone]
    rfl
  rw [rendered, shown]
  obtain none | ⟨named, heading⟩ := heading_cases source [e]
  · refine ⟨first, carets, pad, ?_⟩
    rw [none]
    show first ++ "\n" ++ _ ++ "\n" ++ carets = _
    simp only [String.append_assoc]
  · refine ⟨first ++ "\n" ++ named, carets, pad, ?_⟩
    rw [heading]
    show first ++ "\n" ++ named ++ "\n" ++ _ ++ "\n" ++ carets = _
    simp only [String.append_assoc]

end Excerpt

/-- A declaration that is over before its name, in a text of three lines that ends with a
line break. -/
def unnamed : String := "var /*\r\n*/\r\n"

theorem scan_unnamed :
    (Scan.ofText unnamed).stream =
        { body := [{ kind := .keyword .varWord, lexeme := "var", line := 1, start := 0 }]
          finish := { kind := .finish, lexeme := "", line := 3, start := 12 } } ∧
      (Scan.ofText unnamed).errors = [] := by
  have body : (Scan.ofText unnamed).body =
      [{ kind := .keyword .varWord, lexeme := "var", line := 1, start := 0 }] := by decide +kernel
  refine ⟨?_, by decide +kernel⟩
  rw [Scan.stream, body, Scan.finish_ofText]
  rfl

/-- The declaration is refused at the end marker, which stands on the empty third line. -/
theorem run_unnamed :
    (Report.run {} 0 unnamed none .empty).report.issues =
      #[.ofParse (.unexpected { kind := .finish, lexeme := "", line := 3, start := 12 }
        .variableName)] := by
  obtain ⟨stream, silent⟩ := scan_unnamed
  have refusal : Program.ofStream (Scan.ofText unnamed).stream =
      .error (.unexpected { kind := .finish, lexeme := "", line := 3, start := 12 }
        .variableName) := by
    rw [stream]
    refine (Grammar.program_cons _ _).trans ?_
    rw [Grammar.plain_declaration_cons]
    show (Grammar.afterVar _ _ []).plain.andThen _ = _
    rw [Grammar.plain_afterVar]
    rfl
  rw [Report.run_of_refusal _ _ _ silent refusal]
  rfl

/-- The name is missing on the empty third line, and the excerpt shows that line as the third. -/
theorem lines_agree_unnamed :
    Illustrator.QuotesRows Excerpt.number Excerpt.row ∧
      Illustrator.CountsBreaks Excerpt.number ∧ Source.Paired unnamed.toList ∧
      ∃ i, (Report.run {} 0 unnamed none .empty).report.issues = #[i] ∧
        i.description =
          "[line 3] Expected a variable name after 'var', but found end of input." ∧
        i.QuotesItsLine Excerpt.row { text := unnamed } := by
  have paired : Source.Paired unnamed.toList := by decide +kernel
  obtain ⟨filed, issues, -, quotes⟩ :=
    lines_agree Excerpt.quotesRows Excerpt.countsBreaks unnamed paired {} 0 none .empty
  rw [run_unnamed] at issues
  obtain rfl : [_] = filed := by simpa using congrArg Array.toList issues
  exact ⟨Excerpt.quotesRows, Excerpt.countsBreaks, paired, _, run_unnamed, by decide +kernel,
    quotes _ List.mem_cons_self⟩

end Scriptlet
