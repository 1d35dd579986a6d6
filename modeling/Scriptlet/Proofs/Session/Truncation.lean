/-
Scriptlet.Proofs.Session.Truncation — a limit only cuts off what is filed.

What a text has filed is known before the report is looked at: the complaints about it,
and for a script that is started the fault that stops it. So the phases are taken out
first (`review_eq_filing`, `conclude_eq_filing`): each is one filing of a list of issues,
and all else about it is settled by the report's issues, not by its limit. What filing
does is a matter of counting (`fileAll_of_room`): it takes everything if there is room,
and else just what fills the report up.

The one point that is not counting is that nothing starts behind a scan that was cut
short: there were errors then, and without a limit they are there as well.
-/
import Scriptlet.Proofs.Session.Silent

namespace Scriptlet

namespace Report

variable {r : Report} {text : String}

def unlimited (r : Report) : Report := { r with limit := 0 }

/-- More issues can be filed than these before the limit is reached. -/
def RoomFor (r : Report) (issues : List Issue) : Prop :=
  (r.issues.size : Int) + issues.length < r.limit

instance (r : Report) (issues : List Issue) : Decidable (r.RoomFor issues) :=
  inferInstanceAs (Decidable (_ < _))

/-- The report with as many of the issues at its end as its limit lets in. -/
def filledWith (r : Report) (issues : List Issue) : Report :=
  r.adding (issues.take (r.limit - r.issues.size).toNat)

/-! ## 1. Filing as counting -/

/-- A report that is filled holds as many issues as its limit says. -/
theorem size_filledWith {issues : List Issue} (room : r.RoomFor []) (full : ¬r.RoomFor issues) :
    ((r.filledWith issues).issues.size : Int) = r.limit := by
  simp only [RoomFor, List.length_nil] at room full
  rw [filledWith, size_adding, List.length_take]
  omega

theorem roomFor_adding {issues more : List Issue} :
    (r.adding issues).RoomFor more ↔ r.RoomFor (issues ++ more) := by
  have limit : (r.adding issues).limit = r.limit := rfl
  simp only [RoomFor, size_adding, List.length_append, limit]
  omega

/-- Where there is room, but not for one issue more, that issue reaches the limit. -/
theorem reached_of_room {issue : Issue} (room : r.RoomFor []) (full : ¬r.RoomFor [issue]) :
    (r.issues.size : Int) + 1 = r.limit := by
  simp only [RoomFor, List.length_nil, List.length_singleton] at room full
  omega

/-- The issue that reaches the limit is the last one. -/
theorem filledWith_of_reached (reached : (r.issues.size : Int) + 1 = r.limit) (issue : Issue)
    (rest : List Issue) : r.filledWith (issue :: rest) = r.adding [issue] := by
  have one : (r.limit - r.issues.size).toNat = 1 := by omega
  rw [filledWith, one]
  rfl

/-- With room for the next one, it is filed, and the rest are. -/
theorem filledWith_cons {issue : Issue} (next : r.RoomFor [issue]) (rest : List Issue) :
    r.filledWith (issue :: rest) = (r.adding [issue]).filledWith rest := by
  have limit : (r.adding [issue]).limit = r.limit := rfl
  have oneLess : (r.limit - r.issues.size).toNat =
      (r.limit - (r.adding [issue]).issues.size).toNat + 1 := by
    simp only [RoomFor, List.length_singleton] at next
    rw [size_adding, List.length_singleton]
    omega
  rw [filledWith, filledWith, adding_adding, limit, oneLess]
  rfl

/-- What is filed on a report that is not full: everything if there is room, and else what
fills it up. -/
theorem fileAll_of_room {issues : List Issue} (room : r.RoomFor []) :
    r.fileAll issues =
      if r.RoomFor issues then .ok (r.adding issues)
      else .error { report := r.filledWith issues } := by
  induction issues generalizing r with
  | nil =>
    rw [if_pos room, adding_nil]
    rfl
  | cons issue rest ih =>
    rw [fileAll_cons]
    by_cases next : r.RoomFor [issue]
    · rw [file_eq_ok_iff.mpr (Int.ne_of_lt next)]
      show (r.adding [issue]).fileAll rest = _
      rw [ih (roomFor_adding.mpr next), adding_adding, ← filledWith_cons next]
      simp only [roomFor_adding, List.singleton_append]
    · have reached := reached_of_room room next
      have full : ¬r.RoomFor (issue :: rest) := by
        simp only [RoomFor, List.length_cons]
        omega
      obtain filed | filed := r.file_cases issue
      · exact absurd reached (file_eq_ok_iff.mp filed)
      · rw [filed, if_neg full, filledWith_of_reached reached]

/-! ## 2. A text that is read -/

def refusals {α : Type} : Except ParseError α → List Issue
  | .ok _ => []
  | .error e => [Issue.ofParse e]

/-- All complaints about a text, if it is read by this grammar. -/
def complaints {α : Type} (grammar : Stream → Except ParseError α) (text : String) : List Issue :=
  Scan.issues text ++ refusals (grammar (Scan.ofText text).stream)

/-- A text is scanned, and read as a script, without any complaint. -/
def Readable (text : String) : Prop :=
  (Scan.ofText text).errors = [] ∧ ∃ p, Program.ofStream (Scan.ofText text).stream = .ok p

/-- A text without complaints is scanned and read. -/
theorem complaints_eq_nil_iff {text : String} :
    complaints Program.ofStream text = [] ↔ Readable text := by
  rw [complaints, List.append_eq_nil_iff, Scan.issues, List.map_eq_nil_iff, Readable]
  cases Program.ofStream (Scan.ofText text).stream with
  | ok p => simp [refusals]
  | error e => simp [refusals]

/-- What becomes of a text when all complaints about it could be filed. -/
def judged {α : Type} : Except ParseError α → Review.Outcome α
  | .ok value => .accepted value
  | .error _ => .refused

/-- Reading a text is filing the complaints about it. -/
theorem review_eq_filing {α : Type} (r : Report) (grammar : Stream → Except ParseError α)
    (text : String) :
    match r.fileAll (complaints grammar text) with
    | .ok filed =>
      r.review grammar text =
        { report := filed, notes := r.scanNote text
          outcome := judged (grammar (Scan.ofText text).stream) }
    | .error overflow =>
      (r.review grammar text).report = overflow.report ∧
        (r.review grammar text).outcome = .overflowed := by
  rw [complaints, fileAll_append, review_eq]
  cases scanned : r.fileAll (Scan.issues text) with
  | error overflow => exact ⟨rfl, rfl⟩
  | ok taken =>
    obtain rfl := fileAll_eq_ok scanned
    cases grammar (Scan.ofText text).stream with
    | ok value => rfl
    | error e =>
      simp only [refusals, fileAll_singleton, reviewTokens]
      cases (r.adding (Scan.issues text)).file (Issue.ofParse e) with
      | ok filed => rfl
      | error overflow => exact ⟨rfl, rfl⟩

end Report

/-- What a limit makes of reading a text. On a report without one, `free`, the issues
`filed` are filed. -/
structure Review.Truncates {α : Type} (r : Report) (filed : List Issue)
    (free limited : Review α) : Prop where
  all : free.report = r.unlimited.adding filed
  never : free.outcome ≠ .overflowed
  /-- With room for all issues the limit makes no difference. -/
  within : r.RoomFor filed → limited = { free with report := r.adding filed }
  /-- Otherwise it is reached, and the report holds what fills it up. -/
  beyond : ¬r.RoomFor filed →
    limited.outcome = .overflowed ∧ limited.report = r.filledWith filed ∧
      (limited.report.issues.size : Int) = r.limit

/-- What a limit makes of a run. -/
structure Run.Truncates (r : Report) (filed : List Issue) (free limited : Run) : Prop where
  all : free.report = r.unlimited.adding filed
  never : free.verdict ≠ .overflowed
  /-- With room for all issues the limit makes no difference. -/
  within : r.RoomFor filed → limited = { free with report := r.adding filed }
  /-- Otherwise it is reached, the report holds what fills it up, and nothing else is
  different. -/
  beyond : ¬r.RoomFor filed →
    limited.verdict = .overflowed ∧ limited.report = r.filledWith filed ∧
      (limited.report.issues.size : Int) = r.limit ∧
      limited.out = free.out ∧ limited.env = free.env

namespace Report

variable {r : Report}

/-- A report that holds as many issues as its limit, or has none, takes all complaints. -/
theorem review_of_full {α : Type} (full : r.limit ≤ r.issues.size)
    (grammar : Stream → Except ParseError α) (text : String) :
    r.review grammar text =
      { report := r.adding (complaints grammar text), notes := r.scanNote text
        outcome := judged (grammar (Scan.ofText text).stream) } := by
  have reading := r.review_eq_filing grammar text
  rw [fileAll_of_full full] at reading
  exact reading

/-- Without a limit a report is past it from the start, so it never reaches it. -/
theorem unlimited_full (r : Report) : r.unlimited.limit ≤ r.unlimited.issues.size :=
  Int.natCast_nonneg _

/-- The issues of the scan are filed one by one; either there is room for all, or the report is
filled. -/
theorem truncates_review {α : Type} (room : r.RoomFor [])
    (grammar : Stream → Except ParseError α) (text : String) :
    Review.Truncates r (complaints grammar text) (r.unlimited.review grammar text)
      (r.review grammar text) := by
  have reading := r.review_eq_filing grammar text
  rw [fileAll_of_room room] at reading
  rw [review_of_full r.unlimited_full]
  refine ⟨rfl, ?_, fun fits => ?_, fun full => ?_⟩
  · show judged (grammar (Scan.ofText text).stream) ≠ .overflowed
    cases grammar (Scan.ofText text).stream <;> exact nofun
  · rw [if_pos fits] at reading
    exact reading
  · rw [if_neg full] at reading
    obtain ⟨report, outcome⟩ := reading
    exact ⟨outcome, report, by rw [report, size_filledWith room full]⟩

/-! ## 3. A script that is run -/

def faults : Ending → List Issue
  | .done => []
  | .unfinished => []
  | .failed fault => [Issue.ofFault fault]

/-- A run that files nothing is the same with a limit. -/
theorem truncates_nothing (room : r.RoomFor []) (run : Run) (goesOn : run.verdict ≠ .overflowed) :
    Run.Truncates r [] { run with report := r.unlimited } { run with report := r } where
  all := (adding_nil _).symm
  never := goesOn
  within _ := by rw [adding_nil]
  beyond full := absurd room full

/-- A run files one issue at its end, if it files any. -/
theorem truncates_conclude (room : r.RoomFor []) (notes : String) (ending : Ending) (st : State) :
    Run.Truncates r (faults ending) (r.unlimited.conclude notes (ending, st))
      (r.conclude notes (ending, st)) := by
  cases ending with
  | done => exact truncates_nothing room (r.conclude notes (.done, st)) nofun
  | unfinished => exact truncates_nothing room (r.conclude notes (.unfinished, st)) nofun
  | failed fault =>
    have goesOn : r.unlimited.stopping = .failed := if_neg (Int.ne_of_gt (Int.natCast_succ_pos _))
    rw [conclude_failed, conclude_failed, goesOn]
    refine ⟨rfl, nofun, fun fits => ?_, fun full => ?_⟩
    · have notReached : r.stopping = .failed := if_neg (Int.ne_of_lt fits)
      rw [notReached]
      rfl
    · have reached := reached_of_room room full
      refine ⟨if_pos reached, (filledWith_of_reached reached ..).symm, ?_, rfl, rfl⟩
      rw [size_adding]
      exact reached

theorem run_of_overflow {rounds : Nat} {text : String} {filename : Option String}
    {env : Environment}
    (overflowed : ((r.setSource text filename).review Program.ofStream text).outcome =
      .overflowed) :
    r.run rounds text filename env =
      { report := ((r.setSource text filename).review Program.ofStream text).report, env, out := ""
        notes := ((r.setSource text filename).review Program.ofStream text).notes
        verdict := .overflowed } := by
  rw [run, overflowed]

section

variable (rounds : Nat) {text : String} (filename : Option String) (env : Environment)
  {report : Report} {notes : String}
  (reading : (r.setSource text filename).review Program.ofStream text =
    { report, notes, outcome := judged (Program.ofStream (Scan.ofText text).stream) })

include reading

/-- A script does not start if something was wrong before or is wrong with its text. -/
theorem run_of_sick (sick : report.sick = true) :
    r.run rounds text filename env =
      { report, env, out := "", notes, verdict := .failed } := by
  rw [run_eq, reading]
  cases Program.ofStream (Scan.ofText text).stream with
  | error e => rfl
  | ok p => exact if_pos sick

/-- With nothing filed, the program is executed. -/
theorem run_of_ok (ok : report.ok = true) {p : Program}
    (read : Program.ofStream (Scan.ofText text).stream = .ok p) :
    r.run rounds text filename env =
      report.conclude (notes ++ report.note ["Parsed", toString p.length, "statements."])
        (Stmt.execAll rounds p { env, out := "" }) := by
  have well : ¬report.sick = true := by simp [sick, ok]
  rw [run_eq, reading, read]
  exact if_neg well

end

/-- Reading comes first, and running only if it has filed nothing. -/
theorem truncates_run (room : r.RoomFor []) (rounds : Nat) (text : String)
    (filename : Option String) (env : Environment) :
    ∃ filed, Run.Truncates (r.setSource text filename) filed
      (r.unlimited.run rounds text filename env) (r.run rounds text filename env) := by
  have room' : (r.setSource text filename).RoomFor [] := room
  have reading := truncates_review room' Program.ofStream text
  have free := review_of_full (r.setSource text filename).unlimited_full Program.ofStream text
  rw [free] at reading
  by_cases sick : ((r.setSource text filename).adding (complaints Program.ofStream text)).sick
  · refine ⟨complaints Program.ofStream text, ?_⟩
    rw [run_of_sick (r := r.unlimited) rounds filename env free sick]
    refine ⟨rfl, nofun, fun fits => ?_, fun full => ?_⟩
    · exact run_of_sick rounds filename env (reading.within fits) sick
    · obtain ⟨overflowed, report, size⟩ := reading.beyond full
      rw [run_of_overflow overflowed]
      exact ⟨rfl, report, size, rfl, rfl⟩
  · -- Nothing is wrong, so the script is started, and only a fault of it can be filed.
    simp only [sick_adding, not_or, Classical.not_not, ne_eq] at sick
    obtain ⟨well, clear⟩ := sick
    have ok : (r.setSource text filename).ok = true := by simpa [Report.sick] using well
    obtain ⟨-, p, read⟩ := complaints_eq_nil_iff.mp clear
    have fits := reading.within (clear ▸ room')
    rw [clear, adding_nil] at free fits
    rw [run_of_ok (r := r.unlimited) rounds filename env free ok read,
      run_of_ok rounds filename env fits ok read]
    exact ⟨_, truncates_conclude room' _ _ _⟩

end Report

/-- A limit that is not reached yet only truncates. A run and a reading of a text, by any
grammar, do what they do on the same report without a limit, unless they file as many
issues there as reach it. Then they overflow on filing the issue that reaches it: the
report holds the issues up to that one, and what is printed and what the variables hold is
the same as without a limit. -/
theorem limit_truncates (r : Report) (room : (r.issues.size : Int) < r.limit) (text : String) :
    (∀ rounds filename env, ∃ filed, Run.Truncates (r.setSource text filename) filed
      (r.unlimited.run rounds text filename env) (r.run rounds text filename env)) ∧
    ∀ (α : Type) (grammar : Stream → Except ParseError α),
      ∃ filed, Review.Truncates r filed (r.unlimited.review grammar text)
        (r.review grammar text) := by
  have room' : r.RoomFor [] := by simpa [Report.RoomFor] using room
  constructor
  · intro rounds filename env
    exact Report.truncates_run room' rounds text filename env
  · intro α grammar
    exact ⟨_, Report.truncates_review room' grammar text⟩

def negationScript : Grammar.Derivation .program :=
  .oneMore
    (.statement
      (.effect (Grammar.Derivation.ofNegation ⟨minusToken, rfl⟩ ⟨textToken, rfl⟩)
        ⟨semicolonToken, rfl⟩))
    .noDeclaration

theorem read_negation :
    Program.ofStream (Scan.ofText "-\"\";").stream = .ok negationScript.tree := by
  refine Program.ofStream_eq_ok_iff.mpr ⟨negationScript, ?_, rfl⟩
  rw [scan_negation_statement]
  rfl

/-- The script that negates a text is read without complaint. -/
theorem readable_negation : Report.Readable "-\"\";" :=
  ⟨congrArg Scan.errors scan_negation_statement, _, read_negation⟩

/-- A fault that reaches a limit of one: without a limit the script fails, with it the report
overflows on the same issue. -/
theorem limit_truncates_negation :
    (({ limit := 1 } : Report).issues.size : Int) < ({ limit := 1 } : Report).limit ∧
      ∃ filed, filed.length = 1 ∧
        (Report.run { limit := 0 } 0 "-\"\";" none .empty).verdict = .failed ∧
        (Report.run { limit := 1 } 0 "-\"\";" none .empty).verdict = .overflowed ∧
        Run.Truncates (Report.setSource { limit := 1 } "-\"\";" none) filed
          (Report.run { limit := 0 } 0 "-\"\";" none .empty)
          (Report.run { limit := 1 } 0 "-\"\";" none .empty) := by
  have free := (Report.run_of_program (r := { limit := 0 }) 0 none .empty
    readable_negation.1 read_negation).trans
    (if_neg (by decide))
  have fault : (Report.run { limit := 0 } 0 "-\"\";" none .empty).report.issues.size = 1 := by
    rw [free]
    rfl
  obtain ⟨filed, cut⟩ := (limit_truncates { limit := 1 } (by decide) "-\"\";").1 0 none .empty
  have one : filed.length = 1 := by
    have all := congrArg (fun r : Report => r.issues.size) cut.all
    rw [Report.size_adding] at all
    exact (Nat.zero_add _).symm.trans (all.symm.trans fault)
  have full : ¬(Report.setSource { limit := 1 } "-\"\";" none).RoomFor filed := by
    show ¬(((0 : Nat) : Int) + filed.length < 1)
    omega
  refine ⟨by decide, filed, one, ?_, (cut.beyond full).1, cut⟩
  rw [free]
  rfl

end Scriptlet
