/-
Scriptlet.Proofs.Session.Sequence — two scripts one after the other, and both in one.

Put behind a line break, a script keeps its tokens but for their places, and none of
them is taken for a part of the script before: that one is read to its last token, and
a list of declarations may go on after any of them. So the program of both is the one
program and then the other, in new places (`Program.ofStream_joined`), and it runs as
they do one after the other, up to the fault that stops it.
-/
import Scriptlet.Proofs.Layout.Running
import Scriptlet.Proofs.Lexical.Joined
import Scriptlet.Proofs.Session.Silent
import Scriptlet.Proofs.Span.Owned

namespace Scriptlet

open Grammar

/-! ## 1. Programs -/

/-- Declarations, and more of them. -/
theorem Grammar.declarations_append : (d d' : Derivation .declarations) →
    ∃ both : Derivation .declarations,
      both.tokens = d.tokens ++ d'.tokens ∧ both.tree = d.tree ++ d'.tree
  | .noDeclaration, d' => ⟨d', rfl, rfl⟩
  | .oneMore first others, d' => by
    obtain ⟨both, word, tree⟩ := declarations_append others d'
    refine ⟨.oneMore first both, ?_, ?_⟩
    · rw [Derivation.tokens, word, Derivation.tokens, List.append_assoc]
    · rw [Derivation.tree, tree]
      rfl

/-- The place of the second script when it stands behind the first and a line break. -/
def Token.behind (t : String) : Token → Token :=
  moved (t.toList.length + 1) (t.toList.count '\n' + 1)

/-- The program of both scripts is the first program and then the second, moved: nothing that
follows goes on with a list of declarations. -/
theorem Program.ofStream_joined {t u : String} (silent : (Scan.ofText t).errors = [])
    {p q : Program} (read : Program.ofStream (Scan.ofText t).stream = .ok p)
    (read' : Program.ofStream (Scan.ofText u).stream = .ok q) :
    Program.ofStream (Scan.ofText (t ++ "\n" ++ u)).stream =
      .ok (p ++ Stmt.mapAll (Token.behind t) q) := by
  obtain ⟨d, word, rfl⟩ := Program.ofStream_eq_ok_iff.mp read
  obtain ⟨d', word', rfl⟩ := Program.ofStream_eq_ok_iff.mp read'
  obtain ⟨body, -, -⟩ := Scan.ofText_joined (Scan.ended_of_silent silent) u
  have keeps : Token.Keeps (Token.behind t) := Token.keeps_moved _ _
  obtain ⟨both, wordBoth, tree⟩ := declarations_append d (d'.map keeps)
  refine Program.ofStream_eq_ok_iff.mpr ⟨both, ?_, ?_⟩
  · rw [wordBoth, tokens_map, word, word']
    exact body.symm
  · rw [tree, tree_map]
    rfl

/-- Neither script has an error, so both together have none. -/
theorem Scan.silent_joined {t u : String} (silent : (Scan.ofText t).errors = [])
    (silent' : (Scan.ofText u).errors = []) : (Scan.ofText (t ++ "\n" ++ u)).errors = [] := by
  obtain ⟨-, -, errors⟩ := Scan.ofText_joined (Scan.ended_of_silent silent) u
  rw [errors, silent, silent']
  rfl

/-! ## 2. Faults -/

/-- The same cause and the same node, which stands behind the text and a line break. -/
structure Fault.Behind (t : String) (fault fault' : Fault) : Prop where
  cause : fault'.cause = fault.cause
  site : fault'.site = fault.site.mapTokens (Token.behind t)
  line : fault'.site.line = (t.toList.count '\n' + 1 : Nat) + fault.site.line
  start : fault'.site.start = t.toList.length + 1 + fault.site.start
  stop : fault'.site.stop = t.toList.length + 1 + fault.site.stop

/-- The tokens of a node are moved, its first and its last one among them. -/
theorem Fault.behind (t : String) (fault : Fault) :
    fault.Behind t (fault.mapTokens (Token.behind t)) where
  cause := rfl
  site := rfl
  line := congrArg Token.line (fault.site.leftmost_mapTokens (Token.behind t))
  start := congrArg Token.start (fault.site.leftmost_mapTokens (Token.behind t))
  stop := by
    have last := congrArg Token.stop (fault.site.rightmost_mapTokens (Token.behind t))
    exact last.trans (Nat.add_assoc _ _ _)

/-- What is printed before the second script starts stands in front, and a fault of it has
moved with its tokens. -/
theorem Stmt.execAll_behind (t : String) (rounds : Nat) (q : Program) (st : State) :
    execAll rounds (mapAll (Token.behind t) q) st =
      replayed (Token.behind t) st.out (execAll rounds q { env := st.env, out := "" }) := by
  have start : State.after st.out { env := st.env, out := "" } = st := by simp [State.after]
  rw [← (run_replayed (Token.behind t) st.out rounds).2, start]

/-! ## 3. Runs -/

/-- What the run of two scripts in one, `whole`, has to do with the runs of the `first` and
then of the `second`, which stands behind the text `t` of the first in the `whole`. -/
structure Run.Joins (t : String) (first second whole : Run) : Prop where
  /-- If the first comes to its end, the second goes on from there. -/
  finished : first.verdict = .finished →
    whole.out = first.out ++ second.out ∧ whole.env = second.env ∧
      whole.verdict = second.verdict ∧ first.report.issues = #[] ∧
      ((second.report.issues = #[] ∧ whole.report.issues = #[]) ∨
        ∃ fault fault', second.report.issues = #[.ofFault fault] ∧
          whole.report.issues = #[.ofFault fault'] ∧ fault.Behind t fault')
  /-- If a fault stops the first, nothing happens after it. -/
  stopped : first.verdict.Stopped →
    (whole.out = first.out ∧ whole.env = first.env ∧ whole.verdict = first.verdict ∧
      whole.report.issues = first.report.issues) ∧
    second.out = "" ∧ second.env = first.env ∧ second.verdict = .failed ∧
      second.report.issues = first.report.issues
  /-- If the first does not come to an end, neither does the whole. -/
  unfinished : first.verdict = .unfinished →
    whole.verdict = .unfinished ∧ whole.out = first.out ∧ whole.env = first.env ∧
      whole.report.issues = first.report.issues

theorem Run.Verdict.Stopped.ended {verdict : Run.Verdict} (stopped : verdict.Stopped) :
    verdict ≠ .finished ∧ verdict ≠ .unfinished := by
  obtain rfl | rfl := stopped
  · exact ⟨nofun, nofun⟩
  · exact ⟨nofun, nofun⟩

/-- On a report in order, a script that is scanned and read without errors is executed. -/
theorem Report.run_of_well {r : Report} (ok : r.ok = true) {text : String} {p : Program}
    (silent : (Scan.ofText text).errors = [])
    (read : Program.ofStream (Scan.ofText text).stream = .ok p) (rounds : Nat)
    (filename : Option String) (env : Environment) :
    ∃ notes, r.run rounds text filename env =
      (r.setSource text filename).conclude notes (Stmt.execAll rounds p { env, out := "" }) := by
  have well : ¬r.sick = true := by simp [sick, ok]
  exact ⟨_, (run_of_program rounds filename env silent read).trans (if_neg well)⟩

section

variable {r : Report} {u : String} {q : Program} (silent : (Scan.ofText u).errors = [])
  (read : Program.ofStream (Scan.ofText u).stream = .ok q) (source source' : Source) (t : String)
  (rounds : Nat) (filename : Option String) (st : State) (notes notes' : String)

include silent read

/-- A fault of the first script is filed, and keeps the second from starting; in the whole it stops
everything after it. -/
theorem Run.joins_of_failed (fault : Fault) :
    Run.Joins t
      { report := { r with source }.adding [.ofFault fault], env := st.env, out := st.out, notes
        verdict := r.stopping }
      (({ r with source }.adding [.ofFault fault]).run rounds u filename st.env)
      ({ r with source := source' }.conclude notes' (.failed fault, st)) := by
  -- The report holds the fault now, so the second script is read and not started.
  have sick : ({ r with source }.adding [.ofFault fault]).sick = true :=
    Report.sick_adding.mpr (.inr (List.cons_ne_nil _ _))
  have second := Report.run_of_program rounds filename st.env silent read
    (r := { r with source }.adding [.ofFault fault])
  rw [if_pos sick] at second
  rw [second, Report.conclude_failed]
  obtain ⟨notFinished, notUnfinished⟩ := r.stopped_stopping.ended
  exact ⟨fun finished => absurd finished notFinished,
    fun _ => ⟨⟨rfl, rfl, rfl, rfl⟩, rfl, rfl, rfl, rfl⟩,
    fun unfinished => absurd unfinished notUnfinished⟩

/-- When the first script is over, the second starts where it would start within the whole. -/
theorem Run.joins_of_done (ok : r.ok = true) :
    Run.Joins t
      { report := { r with source }, env := st.env, out := st.out, notes, verdict := .finished }
      ({ r with source }.run rounds u filename st.env)
      ({ r with source := source' }.conclude notes'
        (Stmt.execAll rounds (Stmt.mapAll (Token.behind t) q) st)) := by
  have clear := Report.ok_iff.mp ok
  have well : { r with source }.ok = true := ok
  obtain ⟨notes'', second⟩ := Report.run_of_well well silent read rounds filename st.env
  rw [second, Stmt.execAll_behind]
  refine ⟨fun _ => ?_, fun stopped => absurd rfl stopped.ended.1, nofun⟩
  rcases Stmt.execAll rounds q { env := st.env, out := "" } with ⟨ending, left⟩
  cases ending with
  | done => exact ⟨rfl, rfl, rfl, clear, .inl ⟨clear, clear⟩⟩
  | unfinished => exact ⟨rfl, rfl, rfl, clear, .inl ⟨clear, clear⟩⟩
  | failed fault =>
    have filed : ∀ (r' : Report) (fault : Fault), r'.issues = #[] →
        (r'.adding [.ofFault fault]).issues = #[.ofFault fault] := by
      intro r' fault none
      simp [Report.adding, none]
    rw [replayed, Ending.mapTokens, Report.conclude_failed, Report.conclude_failed]
    exact ⟨rfl, rfl, rfl, clear,
      .inr ⟨fault, _, filed _ fault clear, filed _ _ clear, fault.behind t⟩⟩

end

/-- Two scripts that are scanned and read without errors, run one after the other on a report
without issues, do what they do in one script with a line break between them. -/
theorem runs_joined (r : Report) (ok : r.ok = true) (t u : String)
    (silent : (Scan.ofText t).errors = []) (silent' : (Scan.ofText u).errors = [])
    (read : ∃ p, Program.ofStream (Scan.ofText t).stream = .ok p)
    (read' : ∃ q, Program.ofStream (Scan.ofText u).stream = .ok q)
    (rounds : Nat) (filename filename' filename'' : Option String) (env : Environment) :
    let first := r.run rounds t filename env
    let second := first.report.run rounds u filename' first.env
    Run.Joins t first second (r.run rounds (t ++ "\n" ++ u) filename'' env) := by
  obtain ⟨p, read⟩ := read
  obtain ⟨q, read'⟩ := read'
  obtain ⟨notes, first⟩ := Report.run_of_well ok silent read rounds filename env
  obtain ⟨notes', whole⟩ := Report.run_of_well ok (Scan.silent_joined silent silent')
    (Program.ofStream_joined silent read read') rounds filename'' env
  rw [Stmt.execAll_append] at whole
  rw [first, whole]
  rcases Stmt.execAll rounds p { env, out := "" } with ⟨ending, st⟩
  cases ending with
  | done => exact Run.joins_of_done silent' read' _ _ t rounds filename' st _ _ ok
  | failed fault =>
    rw [Report.conclude_failed]
    exact Run.joins_of_failed silent' read' _ _ t rounds filename' st _ _ fault
  | unfinished =>
    exact ⟨nofun, fun stopped => absurd rfl stopped.ended.2, fun _ => ⟨rfl, rfl, rfl, rfl⟩⟩

/-- A script that declares `a`, prints it, and ends in a comment. -/
def savingScript : String := "var a=\"x\";print a;//"

def savingTokens : List Token :=
  [{ kind := .keyword .varWord, lexeme := "var", line := 1, start := 0 },
   { kind := .identifier, lexeme := "a", line := 1, payload := .text "a", start := 4 },
   { kind := .mark .equal, lexeme := "=", line := 1, start := 5 },
   { kind := .text, lexeme := "\"x\"", line := 1, payload := .text "x", start := 6 },
   { kind := .mark .semicolon, lexeme := ";", line := 1, start := 9 },
   { kind := .keyword .printWord, lexeme := "print", line := 1, start := 10 },
   { kind := .identifier, lexeme := "a", line := 1, payload := .text "a", start := 16 },
   { kind := .mark .semicolon, lexeme := ";", line := 1, start := 17 }]

/-- A script that prints `a`, and then takes it for a number. -/
def misusingScript : String := "print a;-a;"

def misusingTokens : List Token :=
  [{ kind := .keyword .printWord, lexeme := "print", line := 1, start := 0 },
   { kind := .identifier, lexeme := "a", line := 1, payload := .text "a", start := 6 },
   { kind := .mark .semicolon, lexeme := ";", line := 1, start := 7 },
   { kind := .mark .minus, lexeme := "-", line := 1, start := 8 },
   { kind := .identifier, lexeme := "a", line := 1, payload := .text "a", start := 9 },
   { kind := .mark .semicolon, lexeme := ";", line := 1, start := 10 }]

def Grammar.Derivation.ofOperand (operand : Derivation (.operand 0)) : Derivation .expression :=
  .disjunction (.ofTerm (.chain (.chain operand .noOperation) .noOperation))

theorem read_savingScript : ∃ p, Program.ofStream (Scan.ofText savingScript).stream = .ok p ∧
    Stmt.execAll 0 p { env := .empty, out := "" } =
      (.done, { env := Environment.empty.define "a" (.text "x"), out := "x\n" }) := by
  have body : savingTokens = (Scan.ofText savingScript).body := by decide +kernel
  let value : Derivation .expression := .ofOperand (.primary (.textLiteral ⟨savingTokens[3], rfl⟩))
  let shown : Derivation .expression := .ofOperand (.primary (.reference ⟨savingTokens[6], rfl⟩))
  let p : Derivation .program :=
    .oneMore (.declareAs ⟨savingTokens[0], rfl⟩ ⟨savingTokens[1], rfl⟩ ⟨savingTokens[2], rfl⟩ value
        ⟨savingTokens[4], rfl⟩)
      (.oneMore (.statement (.print ⟨savingTokens[5], rfl⟩ shown ⟨savingTokens[7], rfl⟩))
        .noDeclaration)
  exact ⟨p.tree, Program.ofStream_eq_ok_iff.mpr ⟨p, body, rfl⟩, rfl⟩

theorem read_misusingScript : ∃ p fault,
    Program.ofStream (Scan.ofText misusingScript).stream = .ok p ∧
      Stmt.execAll 0 p { env := Environment.empty.define "a" (.text "x"), out := "" } =
        (.failed fault, { env := Environment.empty.define "a" (.text "x"), out := "x\n" }) ∧
      fault.site.start = 8 := by
  have body : misusingTokens = (Scan.ofText misusingScript).body := by decide +kernel
  let shown : Derivation .expression := .ofOperand (.primary (.reference ⟨misusingTokens[1], rfl⟩))
  let negated : Derivation .expression :=
    .ofOperand (.signed .negate ⟨misusingTokens[3], rfl⟩
      (.primary (.reference ⟨misusingTokens[4], rfl⟩)))
  let p : Derivation .program :=
    .oneMore (.statement (.print ⟨misusingTokens[0], rfl⟩ shown ⟨misusingTokens[2], rfl⟩))
      (.oneMore (.statement (.effect negated ⟨misusingTokens[5], rfl⟩)) .noDeclaration)
  exact ⟨p.tree, { cause := .type (.negated .text), site := .expr negated.tree },
    Program.ofStream_eq_ok_iff.mpr ⟨p, body, rfl⟩, rfl, rfl⟩

/-- The comment at the end of the first script hides nothing of the second. Both have the
variable, both print, and the fault of the second is as far into the whole as the first script
and the line break are long. -/
theorem runs_joined_printing :
    (Report.ok {} = true ∧ (Scan.ofText savingScript).errors = [] ∧
      (Scan.ofText misusingScript).errors = [] ∧
      (∃ p, Program.ofStream (Scan.ofText savingScript).stream = .ok p) ∧
      ∃ q, Program.ofStream (Scan.ofText misusingScript).stream = .ok q) ∧
    let first := Report.run {} 0 savingScript none .empty
    let second := first.report.run 0 misusingScript none first.env
    let whole := Report.run {} 0 (savingScript ++ "\n" ++ misusingScript) none .empty
    first.verdict = .finished ∧ first.out = "x\n" ∧ first.env.get? "a" = some (.text "x") ∧
      whole.verdict = .failed ∧ whole.out = "x\nx\n" ∧ whole.env.get? "a" = some (.text "x") ∧
      (∃ fault, whole.report.issues = #[.ofFault fault] ∧ fault.site.start = 29) ∧
      Run.Joins savingScript first second whole := by
  have silent : (Scan.ofText savingScript).errors = [] := by decide +kernel
  have silent' : (Scan.ofText misusingScript).errors = [] := by decide +kernel
  obtain ⟨p, read, ran⟩ := read_savingScript
  obtain ⟨q, fault, read', stopped, start⟩ := read_misusingScript
  have joins := runs_joined {} rfl _ _ silent silent' ⟨_, read⟩ ⟨_, read'⟩ 0 none none none .empty
  obtain ⟨notes, first⟩ := Report.run_of_well (r := {}) rfl silent read 0 none .empty
  rw [ran] at first
  obtain ⟨notes', second⟩ := Report.run_of_well (r := Report.setSource {} savingScript none) rfl
    silent' read' 0 none (Environment.empty.define "a" (.text "x"))
  rw [stopped, Report.conclude_failed] at second
  -- The second script starts with the report and the variables that the first one leaves.
  rw [show Report.setSource {} savingScript none = (Report.run {} 0 savingScript none .empty).report
      from (congrArg Run.report first).symm,
    show Environment.empty.define "a" (.text "x") = (Report.run {} 0 savingScript none .empty).env
      from (congrArg Run.env first).symm] at second
  obtain ⟨out, env, verdict, -, filed⟩ := joins.finished (congrArg Run.verdict first)
  have kept : ((Report.run {} 0 savingScript none .empty).report.run 0 misusingScript none
      (Report.run {} 0 savingScript none .empty).env).report.issues = #[.ofFault fault] := by
    rw [second, first]
    rfl
  rw [kept] at filed
  obtain ⟨none, -⟩ | ⟨fault', moved, same, filed, behind⟩ := filed
  · exact absurd (congrArg Array.size none) Nat.one_ne_zero
  have places : fault.site.start = fault'.site.start := by
    have issue : Issue.ofFault fault = Issue.ofFault fault' := by simpa using same
    simpa [Issue.ofFault] using congrArg (·.evidence.map Evidence.start) issue
  have start' : moved.site.start = 29 := by
    rw [behind.start, ← places, start]
    decide
  rw [second, first] at out env verdict
  exact ⟨⟨rfl, silent, silent', ⟨p, read⟩, q, read'⟩, congrArg Run.verdict first,
    congrArg Run.out first, congrArg (·.env.get? "a") first, verdict, out,
    congrArg (Environment.get? · "a") env, ⟨moved, filed, start'⟩, joins⟩

end Scriptlet
