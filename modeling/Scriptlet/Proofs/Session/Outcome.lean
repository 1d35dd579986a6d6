/-
Scriptlet.Proofs.Session.Outcome — what a run answers, what it files and what it
changes agree.

`Run.Course` lists the ways in which a run can go, each with the issues that it
files: the report overflows during the scan, the grammar refuses the script, the
script does not start since something was wrong already, or it starts and ends,
fails or does not end. What is to be said of runs is read off that list, without
looking at the phases again.

A run that does not succeed leaves something in the report, and nothing starts
while there is something in it. So in a row of runs on one report nothing
happens after the first that fails.
-/
import Scriptlet.Proofs.Safety.Accepted
import Scriptlet.Proofs.Session.Filing

namespace Scriptlet

/-- What a run answers, if it answers: whether the script ran to its end. -/
def Run.Verdict.answer? : Run.Verdict → Option Bool
  | .finished => some true
  | .failed => some false
  | .overflowed => none
  | .unfinished => none

/-- The run was stopped: it answered no, or the report reached its limit. -/
def Run.Verdict.Stopped (verdict : Run.Verdict) : Prop :=
  verdict = .failed ∨ verdict = .overflowed

def Scan.issues (text : String) : List Issue := (Scan.ofText text).errors.map Issue.ofLexical

/-- The report takes all issues about the lexical errors of a text. -/
def Report.TakesScan (r : Report) (text : String) : Prop :=
  ∃ taken, r.fileAll (Scan.issues text) = .ok taken

/-! ## 1. The ways a run can go -/

/-- How a run on the report `r` can go, with the issues that it files. -/
inductive Run.Course (r : Report) (rounds : Nat) (text : String) (env : Environment) :
    List Issue → Run → Prop
  /-- The report overflows before the scan is over. -/
  | scanOverflow {filed : List Issue} {notes : String} (full : ¬r.TakesScan text)
      (some : filed ≠ []) (beginning : filed <+: Scan.issues text) :
      Course r rounds text env filed
        { report := r.adding filed, env, out := "", notes, verdict := .overflowed }
  /-- The grammar refuses the script. -/
  | refused {e : ParseError} {notes : String} {verdict : Verdict} (taken : r.TakesScan text)
      (refusal : Program.ofStream (Scan.ofText text).stream = .error e)
      (stopped : verdict.Stopped) :
      Course r rounds text env (Scan.issues text ++ [Issue.ofParse e])
        { report := r.adding (Scan.issues text ++ [Issue.ofParse e]), env, out := "", notes,
          verdict }
  /-- The script could be read, but something was wrong already. -/
  | notStarted {p : Program} {notes : String}
      (read : Program.ofStream (Scan.ofText text).stream = .ok p)
      (sick : (r.adding (Scan.issues text)).sick = true) :
      Course r rounds text env (Scan.issues text)
        { report := r.adding (Scan.issues text), env, out := "", notes, verdict := .failed }
  /-- The script ran to its end, or some loop of it is not over. -/
  | ran {p : Program} {notes : String} {ending : Ending} {st : State} {verdict : Verdict}
      (read : Program.ofStream (Scan.ofText text).stream = .ok p) (ok : r.ok = true)
      (run : Stmt.execAll rounds p { env, out := "" } = (ending, st))
      (ends : ending = .done ∧ verdict = .finished ∨ ending = .unfinished ∧ verdict = .unfinished) :
      Course r rounds text env [] { report := r, env := st.env, out := st.out, notes, verdict }
  /-- A fault stopped the script. -/
  | faulted {p : Program} {notes : String} {fault : Fault} {st : State} {verdict : Verdict}
      (read : Program.ofStream (Scan.ofText text).stream = .ok p) (ok : r.ok = true)
      (run : Stmt.execAll rounds p { env, out := "" } = (.failed fault, st))
      (stopped : verdict.Stopped) :
      Course r rounds text env [Issue.ofFault fault]
        { report := r.adding [Issue.ofFault fault], env := st.env, out := st.out, notes, verdict }

namespace Report

variable {r : Report} {rounds : Nat} {text : String} {env : Environment}

theorem ok_iff {r : Report} : r.ok = true ↔ r.issues = #[] := Array.isEmpty_iff

theorem sick_iff {r : Report} : r.sick = true ↔ r.issues ≠ #[] := by
  rw [sick, Bool.not_eq_true', ← Bool.not_eq_true, ok_iff]

theorem sick_adding {issues : List Issue} :
    (r.adding issues).sick = true ↔ r.sick = true ∨ issues ≠ [] := by
  simp [sick_iff, adding, Classical.or_iff_not_imp_left]

/-- Whether an issue reaches the limit or not, it has been filed. -/
theorem file_cases (r : Report) (issue : Issue) :
    r.file issue = .ok (r.adding [issue]) ∨
      r.file issue = .error { report := r.adding [issue] } := by
  cases filed : r.file issue with
  | ok r' => exact Or.inl (congrArg _ (file_eq_ok filed))
  | error overflow =>
    refine Or.inr (congrArg _ ?_)
    rw [← file_eq_error filed]

/-- A review files the issues of the scan first, and then reads. -/
theorem review_eq {α : Type} (r : Report) (grammar : Stream → Except ParseError α) (text : String) :
    r.review grammar text =
      match r.fileAll (Scan.issues text) with
      | .error overflow => { report := overflow.report, notes := "", outcome := .overflowed }
      | .ok filed =>
        filed.reviewTokens
          (filed.note ["Scanned", toString (Scan.ofText text).tokens.length, "tokens."])
          (grammar (Scan.ofText text).stream) := rfl

/-- A text is accepted as soon as the report takes its scan and the grammar takes its tokens. -/
theorem review_accepted_iff {α : Type} {grammar : Stream → Except ParseError α} {value : α} :
    (r.review grammar text).outcome = .accepted value ↔
      r.TakesScan text ∧ grammar (Scan.ofText text).stream = .ok value := by
  constructor
  · intro accepted
    refine ⟨?_, review_eq_accepted accepted⟩
    rw [review_eq] at accepted
    split at accepted
    · cases accepted
    · next taken filed => exact ⟨taken, filed⟩
  · rintro ⟨⟨taken, filed⟩, read⟩
    rw [review_eq, filed]
    show (taken.reviewTokens _ (grammar _)).outcome = _
    rw [read]
    rfl

/-- A run, once its text has been read. -/
theorem run_eq (r : Report) (rounds : Nat) (text : String) (filename : Option String)
    (env : Environment) :
    r.run rounds text filename env =
      match (r.setSource text filename).review Program.ofStream text with
      | { report, notes, outcome := .overflowed } =>
        { report, env, out := "", notes, verdict := .overflowed }
      | { report, notes, outcome := .refused } =>
        { report, env, out := "", notes, verdict := .failed }
      | { report, notes, outcome := .accepted program } =>
        if report.sick then { report, env, out := "", notes, verdict := .failed }
        else
          report.conclude
            (notes ++ report.note ["Parsed", toString program.length, "statements."])
            (Stmt.execAll rounds program { env, out := "" }) := by
  rw [run]
  cases (r.setSource text filename).review Program.ofStream text with
  | mk report notes outcome => cases outcome <;> rfl

/-- From the program on, a run has three ends. -/
theorem course_conclude {p : Program}
    (read : Program.ofStream (Scan.ofText text).stream = .ok p) (ok : r.ok = true)
    (notes : String) :
    ∃ filed, Run.Course r rounds text env filed
      (r.conclude notes (Stmt.execAll rounds p { env, out := "" })) := by
  cases run : Stmt.execAll rounds p { env, out := "" } with
  | mk ending st =>
    cases ending with
    | done => exact ⟨_, .ran read ok run (Or.inl ⟨rfl, rfl⟩)⟩
    | unfinished => exact ⟨_, .ran read ok run (Or.inr ⟨rfl, rfl⟩)⟩
    | failed fault =>
      rw [conclude]
      obtain filed | filed := r.file_cases (Issue.ofFault fault)
      · rw [filed]
        exact ⟨_, .faulted read ok run (Or.inl rfl)⟩
      · rw [filed]
        exact ⟨_, .faulted read ok run (Or.inr rfl)⟩

/-- Every run goes in one of the ways that are listed. -/
theorem run_course (r : Report) (rounds : Nat) (text : String) (filename : Option String)
    (env : Environment) :
    ∃ filed, Run.Course (r.setSource text filename) rounds text env filed
      (r.run rounds text filename env) := by
  rw [run_eq]
  generalize r.setSource text filename = r
  rw [review_eq]
  cases scanned : r.fileAll (Scan.issues text) with
  | error overflow =>
    obtain ⟨filed, some, beginning, last⟩ := fileAll_eq_error scanned
    have full : ¬r.TakesScan text := by
      rintro ⟨taken, ok⟩
      rw [scanned] at ok
      cases ok
    refine ⟨filed, ?_⟩
    show Run.Course r rounds text env filed { report := overflow.report, .. }
    rw [last]
    exact .scanOverflow full some beginning
  | ok taken =>
    have takes : r.TakesScan text := ⟨taken, scanned⟩
    obtain rfl := fileAll_eq_ok scanned
    cases read : Program.ofStream (Scan.ofText text).stream with
    | error e =>
      simp only [reviewTokens]
      obtain filed | filed := (r.adding (Scan.issues text)).file_cases (Issue.ofParse e)
      · rw [filed, adding_adding]
        exact ⟨_, .refused takes read (Or.inl rfl)⟩
      · rw [filed, adding_adding]
        exact ⟨_, .refused takes read (Or.inr rfl)⟩
    | ok p =>
      simp only [reviewTokens]
      split
      · next sick => exact ⟨_, .notStarted read sick⟩
      · next well =>
        simp only [sick_adding, not_or, Classical.not_not, ne_eq] at well
        obtain ⟨well, silent⟩ := well
        rw [silent, adding_nil]
        exact course_conclude read (by simpa [sick] using well) _

end Report

/-! ## 2. What can be said of each -/

/-- Issues as one run can file them: those of the scan and then at most one of the
grammar, or one fault of the script itself on a report that had no issues. -/
def Report.InOrder (r : Report) (filed : List Issue) : Prop :=
  (∃ scanning parsing, filed = scanning ++ parsing ∧ (∀ i ∈ scanning, i.phase = .scanning) ∧
      (∀ i ∈ parsing, i.phase = .parsing) ∧ parsing.length ≤ 1) ∨
    ∃ fault, filed = [fault] ∧ fault.phase = .running ∧ r.ok = true

/-- A run on the report `r` that files these issues answers what the report says,
and does nothing before all was found to be well. -/
structure Run.Agrees (r : Report) (text : String) (env : Environment) (filed : List Issue)
    (run : Run) : Prop where
  report : run.report = r.adding filed
  answer : ∀ answer, run.verdict.answer? = some answer → run.report.ok = answer
  overflow : run.verdict = .overflowed → run.report.ok = false
  silent : r.sick = true ∨ (∃ i ∈ filed, i.phase ≠ .running) →
    run.out = "" ∧ run.env = env ∧ run.verdict.Stopped
  order : r.InOrder filed
  parsing : (∃ i ∈ filed, i.phase = .parsing) ↔
    r.TakesScan text ∧ ∃ e, Program.ofStream (Scan.ofText text).stream = .error e

theorem Scan.phase_of_mem {text : String} : ∀ i ∈ Scan.issues text, i.phase = .scanning := by
  intro i mem
  obtain ⟨e, -, rfl⟩ := List.mem_map.mp mem
  rfl

/-- A run that was stopped answers no, if it answers. -/
theorem Run.Verdict.Stopped.answer {verdict : Run.Verdict} (stopped : verdict.Stopped)
    {answer : Bool} (answered : verdict.answer? = some answer) : answer = false := by
  obtain rfl | rfl := stopped
  · cases answered
    rfl
  · cases answered

theorem Report.not_ok_of_sick {r : Report} (sick : r.sick = true) : r.ok = false := by
  simpa [Report.sick] using sick

/-- An issue more, and the report is no longer in order. -/
theorem Report.not_ok_adding (r : Report) {filed : List Issue} (some : filed ≠ []) :
    (r.adding filed).ok = false :=
  not_ok_of_sick (sick_adding.mpr (Or.inr some))

theorem Report.not_sick_of_ok {r : Report} (ok : r.ok = true) : ¬r.sick = true := by
  intro sick
  rw [not_ok_of_sick sick] at ok
  cases ok

/-- When nothing but errors of the scan is filed, there is nothing to be out of order. -/
theorem Report.inOrder_of_scanning (r : Report) {filed : List Issue}
    (scanning : ∀ i ∈ filed, i.phase = .scanning) : r.InOrder filed :=
  Or.inl ⟨filed, [], (List.append_nil _).symm, scanning, List.forall_mem_nil _, Nat.zero_le _⟩

theorem not_parsing_of_phase {filed : List Issue} {phase : Phase}
    (same : ∀ i ∈ filed, i.phase = phase) (other : phase ≠ .parsing) :
    ¬∃ i ∈ filed, i.phase = .parsing := by
  rintro ⟨i, mem, parsing⟩
  exact other ((same i mem).symm.trans parsing)

/-- A script that was read is not refused as well. -/
theorem Report.not_refused_of_read (r : Report) {text : String} {p : Program}
    (read : Program.ofStream (Scan.ofText text).stream = .ok p) :
    ¬(r.TakesScan text ∧ ∃ e, Program.ofStream (Scan.ofText text).stream = .error e) := by
  rintro ⟨-, e, refusal⟩
  rw [read] at refusal
  cases refusal

/-- Each of the ways does what is said: course by course. -/
theorem Run.Course.agrees {r : Report} {rounds : Nat} {text : String} {env : Environment}
    {filed : List Issue} {run : Run} (course : Run.Course r rounds text env filed run) :
    Run.Agrees r text env filed run := by
  cases course with
  | scanOverflow full some beginning =>
    have scanning : ∀ i ∈ filed, i.phase = .scanning := fun i mem =>
      Scan.phase_of_mem i (beginning.subset mem)
    refine ⟨rfl, nofun, fun _ => r.not_ok_adding some, fun _ => ⟨rfl, rfl, Or.inr rfl⟩,
      r.inOrder_of_scanning scanning, iff_of_false (not_parsing_of_phase scanning nofun) ?_⟩
    rintro ⟨takes, -⟩
    exact full takes
  | @refused e notes verdict taken refusal stopped =>
    have some : Scan.issues text ++ [Issue.ofParse e] ≠ [] :=
      List.append_ne_nil_of_right_ne_nil _ (List.cons_ne_nil _ _)
    refine ⟨rfl, fun answer answered => ?_, fun _ => r.not_ok_adding some,
      fun _ => ⟨rfl, rfl, stopped⟩, ?_, iff_of_true ?_ ⟨taken, e, refusal⟩⟩
    · rw [stopped.answer answered]
      exact r.not_ok_adding some
    · exact Or.inl ⟨_, _, rfl, Scan.phase_of_mem, List.forall_mem_singleton.mpr rfl, Nat.le_refl _⟩
    · exact ⟨_, List.mem_append_right _ List.mem_cons_self, rfl⟩
  | @notStarted p notes read sick =>
    refine ⟨rfl, fun answer answered => ?_, nofun, fun _ => ⟨rfl, rfl, Or.inl rfl⟩,
      r.inOrder_of_scanning Scan.phase_of_mem,
      iff_of_false (not_parsing_of_phase Scan.phase_of_mem nofun) (r.not_refused_of_read read)⟩
    cases answered
    exact Report.not_ok_of_sick sick
  | @ran p notes ending st verdict read ok run ends =>
    have scanning : ∀ i ∈ ([] : List Issue), i.phase = .scanning := List.forall_mem_nil _
    refine ⟨(r.adding_nil).symm, fun answer answered => ?_, ?_, ?_,
      r.inOrder_of_scanning scanning,
      iff_of_false (not_parsing_of_phase scanning nofun) (r.not_refused_of_read read)⟩
    · obtain ⟨-, rfl⟩ | ⟨-, rfl⟩ := ends
      · cases answered
        exact ok
      · cases answered
    · rintro rfl
      obtain ⟨-, same⟩ | ⟨-, same⟩ := ends <;> cases same
    · rintro (sick | ⟨i, mem, -⟩)
      · exact absurd sick (Report.not_sick_of_ok ok)
      · cases mem
  | @faulted p notes fault st verdict read ok run stopped =>
    have some : [Issue.ofFault fault] ≠ [] := List.cons_ne_nil _ _
    have running : ∀ i ∈ [Issue.ofFault fault], i.phase = .running :=
      List.forall_mem_singleton.mpr rfl
    refine ⟨rfl, fun answer answered => ?_, fun _ => r.not_ok_adding some, ?_,
      Or.inr ⟨_, rfl, rfl, ok⟩,
      iff_of_false (not_parsing_of_phase running nofun) (r.not_refused_of_read read)⟩
    · rw [stopped.answer answered]
      exact r.not_ok_adding some
    · rintro (sick | ⟨i, mem, other⟩)
      · exact absurd sick (Report.not_sick_of_ok ok)
      · exact absurd (running i mem) other

/-! ## 3. Runs one after the other -/

/-- A script to be run: its text, the file it is from, and the bound for its loops. -/
structure Call where
  text : String
  filename : Option String := none
  rounds : Nat

/-- Runs of scripts one after the other, on what the one before has left of the
report and of the variables. -/
def Report.runAll (r : Report) (env : Environment) : List Call → List Run
  | [] => []
  | call :: rest =>
    let run := r.run call.rounds call.text call.filename env
    run :: run.report.runAll run.env rest

/-- On a report that holds issues nothing runs any more. -/
theorem Report.runAll_of_sick {r : Report} (sick : r.sick = true) (env : Environment)
    (calls : List Call) : ∀ run ∈ r.runAll env calls, run.out = "" ∧ run.env = env := by
  induction calls generalizing r with
  | nil => exact List.forall_mem_nil _
  | cons call rest ih =>
    obtain ⟨filed, course⟩ := r.run_course call.rounds call.text call.filename env
    have agrees := course.agrees
    obtain ⟨out, same, -⟩ := agrees.silent (Or.inl sick)
    have still : (r.run call.rounds call.text call.filename env).report.sick = true := by
      rw [agrees.report]
      exact sick_adding.mpr (Or.inl sick)
    refine List.forall_mem_cons.mpr ⟨⟨out, same⟩, ?_⟩
    rw [same]
    exact ih still

theorem Run.Agrees.sick_of_stopped {r : Report} {text : String} {env : Environment}
    {filed : List Issue} {run : Run} (agrees : Run.Agrees r text env filed run)
    (stopped : run.verdict.Stopped) : run.report.sick = true := by
  have notOk : run.report.ok = false := by
    obtain failed | overflowed := stopped
    · exact agrees.answer false (by rw [failed]; rfl)
    · exact agrees.overflow overflowed
  rw [Report.sick, notOk]
  rfl

/-- After a run that was stopped, in a row of runs on one report, none prints
anything or changes a variable. -/
theorem Report.runAll_after_stopped {r : Report} {env : Environment} {calls : List Call}
    {before after : List Run} {run : Run} (runs : r.runAll env calls = before ++ run :: after)
    (stopped : run.verdict.Stopped) : ∀ later ∈ after, later.out = "" ∧ later.env = run.env := by
  induction calls generalizing r env before with
  | nil => simp [runAll] at runs
  | cons call rest ih =>
    rw [runAll] at runs
    cases before with
    | nil =>
      obtain ⟨rfl, rfl⟩ := List.cons.inj runs
      obtain ⟨filed, course⟩ := r.run_course call.rounds call.text call.filename env
      exact runAll_of_sick (course.agrees.sick_of_stopped stopped) _ rest
    | cons first before => exact ih (List.cons.inj runs).2

/-- Every run, on any report, files issues in the order of the phases, answers what
the report then says, and neither prints nor changes a variable unless the report
was and stayed without issues up to then; and after the first run that was
stopped, in a row of runs on one report, none prints or changes anything. -/
theorem run_agrees (r : Report) (env : Environment) :
    (∀ rounds text filename, ∃ filed,
      Run.Agrees (r.setSource text filename) text env filed (r.run rounds text filename env)) ∧
    ∀ calls before run after, r.runAll env calls = before ++ run :: after →
      run.verdict.Stopped → ∀ later ∈ after, later.out = "" ∧ later.env = run.env := by
  constructor
  · intro rounds text filename
    obtain ⟨filed, course⟩ := r.run_course rounds text filename env
    exact ⟨filed, course.agrees⟩
  · intro calls before run after runs stopped
    exact Report.runAll_after_stopped runs stopped

/-- The scan of a lone character that no token starts with. -/
theorem scan_stray : Scan.ofText "@" =
    { body := []
      finish := { kind := .finish, lexeme := "", line := 1, start := 1 }
      errors := [{ line := 1, start := 0, cause := .unexpected "@" }] } := by
  have segments : Segment.segments "@".toList = [.stray '@'] := by
    show Segment.segments ['@'] = _
    rw [Segment.segments_cons]
    show _ :: Segment.segments [] = _
    rw [Segment.segments_nil]
    rfl
  rw [Scan.ofText_eq]
  simp only [Scan.placed, segments]
  rfl

/-- A stray character stops its own script, and the one after it prints nothing. -/
theorem run_agrees_stray :
    ∃ first second, Report.runAll {} .empty
        [{ text := "@", rounds := 0 }, { text := "print 1;", rounds := 0 }] = [first, second] ∧
      first.verdict.Stopped ∧ second.out = "" ∧ second.env = first.env := by
  have read : Program.ofStream (Scan.ofText "@").stream = .ok [] := by
    rw [scan_stray]
    exact Grammar.program_nil
  have stopped : (Report.run {} 0 "@" none .empty).verdict.Stopped := by
    rw [Report.run_eq, Report.review_eq, Scan.issues, read, scan_stray]
    exact Or.inl rfl
  obtain ⟨-, after⟩ := run_agrees {} .empty
  have later := after [{ text := "@", rounds := 0 }, { text := "print 1;", rounds := 0 }] [] _ _
    rfl stopped
  exact ⟨_, _, rfl, stopped, later _ List.mem_cons_self⟩

end Scriptlet
