/-
Scriptlet.Proofs.CommandLine.Modes — checking a script, showing its tree, and running it.

The three modes read the file in the same way and differ in what they do with a script
that could be read. So there are two cases. A text with a mistake in it is turned down
before the mode matters, in one and the same way (`rejected`): the run has not started
then, and the report it complains from is the one that a mere reading leaves behind. A
text without a mistake leaves a report without issues; checking and showing are over
then, and only the plain mode goes on to run the script, whose fault is all that it can
complain about. What a complaint looks like is left to any illustrator.
-/
import Scriptlet.CommandLine
import Scriptlet.Proofs.Session.Truncation

namespace Scriptlet.CommandLine

open Report

/-- A whole command line, where `fetch` says what asking for a file answers. -/
def invoke [Illustrator] (rounds : Nat) (here : Path) (fetch : Path → Fetched) (luck : Luck)
    (words : List String) : Outcome :=
  match plan here words with
  | .over outcome => outcome
  | .fetch job => proceed rounds job (fetch job.path) luck

def opened (path : Path) (text : String) : Report :=
  { source := { text, filename := some path.text } }

/-! ## 1. The words -/

theorem sort_short (flag : Flag) : sort flag.short = .ok (.flags [flag]) := by
  cases flag <;> rfl

theorem sort_dashes : sort "--" = .error (.ambiguous "--" Flag.all) := rfl

theorem ne_dashes {file : String} (plain : sort file = .ok (.plain file)) : file ≠ "--" := by
  rintro rfl
  rw [sort_dashes] at plain
  cases plain

theorem request_file {file : String} (plain : sort file = .ok (.plain file)) :
    request [file] = .ok (.program file []) := by
  have other := ne_dashes plain
  simp [request, other, plain, take, bind, Except.bind, pure, Except.pure]

theorem request_short {file : String} (plain : sort file = .ok (.plain file)) (flag : Flag)
    (noHelp : .help ≠ flag) : request [flag.short, file] = .ok (.program file [flag]) := by
  have other := ne_dashes plain
  have short : flag.short ≠ "--" := by cases flag <;> decide
  simp [request, other, short, plain, sort_short, take, noHelp, bind, Except.bind, pure,
    Except.pure]

/-! ## 2. Reading and running -/

section

variable {path : Path} {text : String} {p : Program}

/-- Either the report overflows, or it holds a complaint after the text has been read. -/
theorem review_of_mistaken (report : Report) (mistaken : ¬Readable text) :
    (∃ last notes, report.review Program.ofStream text =
      { report := last, notes, outcome := .overflowed }) ∨
    ∃ filed, filed.sick = true ∧ report.review Program.ofStream text =
      { report := filed, notes := report.scanNote text
        outcome := judged (Program.ofStream (Scan.ofText text).stream) } := by
  have some : complaints Program.ofStream text ≠ [] := mistaken ∘ complaints_eq_nil_iff.mp
  have reading := report.review_eq_filing Program.ofStream text
  cases filing : report.fileAll (complaints Program.ofStream text) with
  | ok filed =>
    rw [filing] at reading
    refine .inr ⟨filed, ?_, reading⟩
    rw [fileAll_eq_ok filing]
    exact sick_adding.mpr (.inr some)
  | error overflow =>
    rw [filing] at reading
    exact .inl ⟨_, _, by rw [← reading.2]⟩

/-- A readable text is accepted without an issue. -/
theorem review_of_readable (report : Report) (readable : Readable text) :
    report.review Program.ofStream text =
      { report, notes := report.scanNote text
        outcome := judged (Program.ofStream (Scan.ofText text).stream) } := by
  have reading := report.review_eq_filing Program.ofStream text
  rw [complaints_eq_nil_iff.mpr readable] at reading
  exact reading

theorem note_opened (path : Path) (text : String) (words : List String) :
    (opened path text).note words = "" := rfl

/-- The report is in order, so the script runs. -/
theorem run_of_readable (clean : (Scan.ofText text).errors = [])
    (read : Program.ofStream (Scan.ofText text).stream = .ok p) (rounds : Nat) :
    (opened path text).run rounds text (some path.text) .empty =
      (opened path text).conclude ""
        (Stmt.execAll rounds p { env := .empty, out := "" }) := by
  have reading := review_of_readable (opened path text) ⟨clean, p, read⟩
  have run := run_of_ok (r := opened path text) rounds (some path.text) .empty reading rfl read
  rw [scanNote, note_opened, note_opened] at run
  exact run

end

section Illustrated

variable [Illustrator]

/-! ## 3. A text with a mistake -/

/-- The outcome of a job whose text was read on this report, with some complaint about it. -/
def rejected (report : Report) (text : String) (luck : Luck) : Outcome :=
  match report.review Program.ofStream text with
  | { report, notes, outcome := .overflowed } => giveUp report "" notes luck
  | { report, notes, .. } => { err := notes ++ (report.complaint luck).1, status := .exit 1 }

/-- A report with issues ends the job with its complaint, and status one. -/
theorem settle_of_sick {report : Report} (sick : report.sick = true) (job : Job)
    (out notes : String) (luck : Luck) :
    settle job report out notes luck =
      { out, err := notes ++ (report.complaint luck).1, status := .exit 1 } :=
  if_pos sick

theorem settle_of_ok {report : Report} (ok : report.ok = true) (job : Job) (out notes : String)
    (luck : Luck) :
    settle job report out notes luck =
      { out, err := notes ++ if job.check then Text.line "Looks plausible to me." else "" } := by
  have well : ¬report.sick = true := by simp [sick, ok]
  rw [settle, if_neg well]
  cases job.check <;> simp

section

variable {report : Report} {text : String}

/-- A text with a mistake is rejected by all that only look at it. -/
theorem inspect_of_mistaken (mistaken : ¬Readable text) (job : Job) (luck : Luck) :
    inspect job report text luck = rejected report text luck := by
  rw [inspect, rejected]
  obtain ⟨last, notes, reading⟩ | ⟨filed, sick, reading⟩ := review_of_mistaken report mistaken
  · rw [reading]
  · have notOk : filed.ok = false := not_ok_of_sick sick
    rw [reading]
    cases Program.ofStream (Scan.ofText text).stream with
    | ok p => simp [judged, notOk, settle_of_sick sick]
    | error e => simp [judged, settle_of_sick sick]

theorem execute_of_mistaken (mistaken : ¬Readable text) (rounds : Nat) (job : Job)
    (source : report.setSource text (some job.path.text) = report) (luck : Luck) :
    execute rounds job report text luck = rejected report text luck := by
  rw [execute, rejected]
  obtain ⟨last, notes, reading⟩ | ⟨filed, sick, reading⟩ := review_of_mistaken report mistaken
  · have reading' := reading
    rw [← source] at reading'
    rw [run_of_overflow (by rw [reading']), reading', reading]
  · have reading' := reading
    rw [← source] at reading'
    rw [run_of_sick rounds _ _ reading' sick, reading]
    cases Program.ofStream (Scan.ofText text).stream with
    | ok p => exact settle_of_sick sick _ _ _ _
    | error e => exact settle_of_sick sick _ _ _ _

theorem rejected_exit (report : Report) (text : String) (luck : Luck) :
    (rejected report text luck).status = .exit 1 ∧ (rejected report text luck).out = "" := by
  rw [rejected]
  split <;> exact ⟨rfl, rfl⟩

end

/-! ## 4. A text without a mistake -/

variable {path : Path} {text : String} {p : Program}
  (clean : (Scan.ofText text).errors = [])
  (read : Program.ofStream (Scan.ofText text).stream = .ok p)

include clean read

/-- With nothing to complain about, the modes that only look say what they saw. -/
theorem inspect_of_readable (job : Job) (luck : Luck) :
    inspect job (opened path text) text luck =
      { out := if job.ast then Text.line (Program.printed p) else ""
        err := if job.check then Text.line "Looks plausible to me." else "" } := by
  have ok : (opened path text).ok = true := rfl
  rw [inspect, review_of_readable _ ⟨clean, p, read⟩, read, scanNote, note_opened]
  simp [judged, ok, settle_of_ok ok]

/-- What the plain mode shows of a script that was started. -/
def ran (report : Report) (luck : Luck) : Ending × State → Outcome
  | (.done, st) => { out := st.out }
  | (.unfinished, st) => { out := st.out, status := .unfinished }
  | (.failed fault, st) =>
    { out := st.out, err := ((report.adding [Issue.ofFault fault]).complaint luck).1
      status := .exit 1 }

/-- What is shown of the run is what the run has printed, and then its fault. -/
theorem execute_of_readable (rounds : Nat) (job : Job) (here : job.path = path)
    (noCheck : job.check = false) (luck : Luck) :
    execute rounds job (opened path text) text luck =
      ran (opened path text) luck (Stmt.execAll rounds p { env := .empty, out := "" }) := by
  rw [execute, here, run_of_readable clean read]
  rcases Stmt.execAll rounds p { env := .empty, out := "" } with ⟨ending, st⟩
  cases ending with
  | done =>
    have ok : (opened path text).ok = true := rfl
    simp [conclude, settle_of_ok ok, noCheck, ran]
  | unfinished => rfl
  | failed fault =>
    have goesOn : (opened path text).stopping = .failed := rfl
    have sick : ((opened path text).adding [Issue.ofFault fault]).sick = true :=
      sick_adding.mpr (.inr (List.cons_ne_nil _ _))
    rw [conclude_failed, goesOn]
    simp [settle_of_sick sick, ran]

omit clean read

/-! ## 5. The modes -/

/-- How the plain mode ends, after a run of the script that came to this end. -/
structure Ended (run : Run) (ending : Ending) (luck : Luck) (plain : Outcome) : Prop where
  /-- The scan and the grammar have complained about nothing. -/
  running : ∀ i ∈ run.report.issues, i.phase = .running
  out : plain.out = run.out
  err : plain.err = (run.report.complaint luck).1
  succeeds : plain.status = .exit 0 ↔ ∀ fault, ending ≠ .failed fault
  fails : plain.status = .exit 1 ↔ ∃ fault, ending = .failed fault

/-- How the three modes of dealing with a file go together: `checked`, `shown` and `plain`
are their outcomes. -/
structure ModesAgree (rounds : Nat) (path : Path) (text : String) (luck : Luck)
    (checked shown plain : Outcome) : Prop where
  /-- Checking succeeds exactly on a text that is scanned and read without complaint. -/
  accepts : checked.status = .exit 0 ↔ Readable text
  exits : checked.status = .exit 0 ∨ checked.status = .exit 1
  silent : checked.out = ""
  /-- Nothing of the script shows, then: it is not executed. -/
  idle : checked.status = .exit 0 → checked = { err := Text.line "Looks plausible to me." }
  /-- If it fails, the plain mode fails in the same way. -/
  refused : checked.status = .exit 1 →
    plain.status = .exit 1 ∧ plain.out = "" ∧ plain.err = checked.err
  /-- If it succeeds, the plain mode runs the script. -/
  started : checked.status = .exit 0 → ∃ p ending st,
    Program.ofStream (Scan.ofText text).stream = .ok p ∧
      Stmt.execAll rounds p { env := .empty, out := "" } = (ending, st) ∧
      (plain.status = .unfinished ↔ ending = .unfinished) ∧
      (plain.status ≠ .unfinished →
        Ended ((opened path text).run rounds text (some path.text) .empty) ending luck plain)
  sameStatus : shown.status = checked.status
  /-- What is shown of a text without a mistake is its tree, and nothing else. -/
  printed : shown.status = .exit 0 → ∃ p, Program.ofStream (Scan.ofText text).stream = .ok p ∧
    shown = { out := Text.line (Program.printed p) }
  hidden : shown.status ≠ .exit 0 → shown.out = ""

/-- A mistaken text is rejected by all three, in the same words. -/
theorem agree_of_mistaken (mistaken : ¬Readable text) (rounds : Nat) (path : Path) (luck : Luck) :
    ModesAgree rounds path text luck (rejected (opened path text) text luck)
      (rejected (opened path text) text luck) (rejected (opened path text) text luck) := by
  obtain ⟨status, out⟩ := rejected_exit (opened path text) text luck
  have failed : (rejected (opened path text) text luck).status ≠ .exit 0 := by
    rw [status]
    decide
  exact {
    accepts := ⟨fun accepted => absurd accepted failed, fun readable => absurd readable mistaken⟩
    exits := .inr status
    silent := out
    idle := fun accepted => absurd accepted failed
    refused := fun _ => ⟨status, out, rfl⟩
    started := fun accepted => absurd accepted failed
    sameStatus := rfl
    printed := fun accepted => absurd accepted failed
    hidden := fun _ => out }

/-- A run that is over ends with status zero, and a fault with one. -/
theorem ended_ran (path : Path) (text : String) (luck : Luck) (ending : Ending) (st : State)
    (finished : ending ≠ .unfinished) :
    Ended ((opened path text).conclude "" (ending, st)) ending luck
      (ran (opened path text) luck (ending, st)) := by
  cases ending with
  | done =>
    refine ⟨?_, rfl, rfl, ?_, ?_⟩
    · simp [conclude, opened]
    · simp [ran]
    · simp [ran]
  | unfinished => exact absurd rfl finished
  | failed fault =>
    rw [conclude_failed]
    refine ⟨?_, rfl, rfl, ?_, ?_⟩
    · simp [adding, opened, Issue.ofFault]
    · simp [ran]
    · simp [ran]

/-- Only a loop that goes on leaves the plain mode without a status. -/
theorem unfinished_ran (report : Report) (luck : Luck) (ending : Ending) (st : State) :
    (ran report luck (ending, st)).status = .unfinished ↔ ending = .unfinished := by
  cases ending <;> simp [ran]

/-- A readable text passes in the first mode, is shown in the second and runs in the third. -/
theorem agree_of_readable {p : Program} (clean : (Scan.ofText text).errors = [])
    (read : Program.ofStream (Scan.ofText text).stream = .ok p) (rounds : Nat) (path : Path)
    (luck : Luck) :
    ModesAgree rounds path text luck { err := Text.line "Looks plausible to me." }
      { out := Text.line (Program.printed p) }
      (ran (opened path text) luck (Stmt.execAll rounds p { env := .empty, out := "" })) where
  accepts := ⟨fun _ => ⟨clean, p, read⟩, fun _ => rfl⟩
  exits := .inl rfl
  silent := rfl
  idle _ := rfl
  refused := nofun
  started _ := by
    rw [run_of_readable clean read]
    refine ⟨p, _, _, read, rfl, unfinished_ran _ _ _ _, fun finished => ?_⟩
    exact ended_ran path text luck _ _ ((unfinished_ran _ _ _ _).not.mp finished)
  sameStatus := rfl
  printed _ := ⟨p, read, rfl⟩
  hidden failed := absurd rfl failed

/-- From the words of a command line to the job: the file is found and decoded, and no flag asks
for notes. -/
theorem invoke_of_request {words : List String} {file : String} {flags : List Flag}
    (asked : request words = .ok (.program file flags)) {fetch : Path → Fetched} {here : Path}
    {bytes : ByteArray} {text : String} (found : fetch (here.join file) = .contents bytes)
    (decoded : decode? bytes = some text) (quiet : flags.contains .verbose = false)
    (rounds : Nat) (luck : Luck) :
    invoke rounds here fetch luck words =
      let job : Job :=
        { path := here.join file, check := flags.contains .check, ast := flags.contains .ast
          verbose := false }
      if job.check || job.ast then inspect job (opened job.path text) text luck
      else execute rounds job (opened job.path text) text luck := by
  cases words with
  | nil => cases asked
  | cons word rest =>
    simp only [invoke, plan, asked, proceed, found, decoded, quiet]
    rfl

/-- Checking a file, showing its tree and running it agree, for every file that holds a text,
whatever the words that name it, as long as they are not taken for a flag: in what they
accept, in what they complain about, and in how they exit. Neither checking nor showing
hangs on how long a loop may run: no script is started there. -/
theorem modes_agree {file : String} (plain : sort file = .ok (.plain file))
    {fetch : Path → Fetched} {here : Path} {bytes : ByteArray} {text : String}
    (found : fetch (here.join file) = .contents bytes) (decoded : decode? bytes = some text)
    (rounds : Nat) (luck : Luck) :
    ModesAgree rounds (here.join file) text luck (invoke rounds here fetch luck ["-c", file])
      (invoke rounds here fetch luck ["-a", file]) (invoke rounds here fetch luck [file]) ∧
    ∀ rounds', invoke rounds' here fetch luck ["-c", file] =
        invoke rounds here fetch luck ["-c", file] ∧
      invoke rounds' here fetch luck ["-a", file] = invoke rounds here fetch luck ["-a", file] := by
  have check : ∀ rounds, invoke rounds here fetch luck ["-c", file] =
      inspect { path := here.join file, check := true, ast := false, verbose := false }
        (opened (here.join file) text) text luck := fun rounds =>
    invoke_of_request (request_short plain .check nofun) found decoded rfl rounds luck
  have show' : ∀ rounds, invoke rounds here fetch luck ["-a", file] =
      inspect { path := here.join file, check := false, ast := true, verbose := false }
        (opened (here.join file) text) text luck := fun rounds =>
    invoke_of_request (request_short plain .ast nofun) found decoded rfl rounds luck
  have run : invoke rounds here fetch luck [file] =
      execute rounds { path := here.join file, check := false, ast := false, verbose := false }
        (opened (here.join file) text) text luck :=
    invoke_of_request (request_file plain) found decoded rfl rounds luck
  refine ⟨?_, fun rounds' => ⟨by rw [check, check], by rw [show', show']⟩⟩
  rw [check, show', run]
  by_cases readable : Readable text
  · obtain ⟨clean, p, read⟩ := readable
    rw [inspect_of_readable clean read, inspect_of_readable clean read,
      execute_of_readable clean read rounds _ rfl rfl]
    exact agree_of_readable clean read rounds _ luck
  · rw [inspect_of_mistaken readable, inspect_of_mistaken readable,
      execute_of_mistaken readable rounds _ rfl]
    exact agree_of_mistaken readable rounds _ luck

end Illustrated

/-- A folder with one file: a minus sign, an empty text and a semicolon. -/
def negationFolder : Folder := [(["work", "p.lox"], .file ⟨#[45, 34, 34, 59]⟩)]

/-- A script that is fine to read and has a fault: checking it succeeds, running it fails. -/
theorem modes_agree_negation :
    (sort "p.lox" = .ok (.plain "p.lox") ∧
      negationFolder.fetch (Path.join { names := ["work"] } "p.lox") =
        .contents ⟨#[45, 34, 34, 59]⟩ ∧
      decode? ⟨#[45, 34, 34, 59]⟩ = some "-\"\";") ∧
    let outcome := invoke 0 { names := ["work"] } negationFolder.fetch []
    (outcome ["-c", "p.lox"]).status = .exit 0 ∧ (outcome ["p.lox"]).status = .exit 1 ∧
      ModesAgree 0 { names := ["work", "p.lox"] } "-\"\";" [] (outcome ["-c", "p.lox"])
        (outcome ["-a", "p.lox"]) (outcome ["p.lox"]) := by
  have plain : sort "p.lox" = .ok (.plain "p.lox") := rfl
  have found : negationFolder.fetch (Path.join { names := ["work"] } "p.lox") =
      .contents ⟨#[45, 34, 34, 59]⟩ := rfl
  have decoded : decode? ⟨#[45, 34, 34, 59]⟩ = some "-\"\";" := rfl
  obtain ⟨agree, -⟩ := modes_agree plain found decoded 0 []
  have accepted := agree.accepts.mpr readable_negation
  obtain ⟨p', ending, st, read', run, unfinished, ended⟩ := agree.started accepted
  rw [read_negation] at read'
  cases read'
  obtain ⟨fault, failed⟩ : ∃ fault, ending = .failed fault :=
    ⟨_, (congrArg Prod.fst run).symm⟩
  have notUnfinished := unfinished.not.mpr (by rw [failed]; exact nofun)
  exact ⟨⟨plain, found, decoded⟩, accepted, (ended notUnfinished).fails.mpr ⟨_, failed⟩, agree⟩

end Scriptlet.CommandLine
