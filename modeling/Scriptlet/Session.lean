/-
Scriptlet.Session — from the text of a script to its effect.

The phases follow each other: a text is scanned, its tokens are read by the
grammar, and the program runs. Each files its complaints with one report. A
script with lexical or syntax errors never starts, and neither does any script
while the report holds complaints from before.

Notes are what a verbose report has to say on the way.
-/
import Scriptlet.Execution
import Scriptlet.Grammar.Statement
import Scriptlet.Report

namespace Scriptlet

inductive Review.Outcome (α : Type)
  /-- The grammar took it, whatever the scan complained about. -/
  | accepted (value : α)
  /-- The grammar refused it, and the report says why. -/
  | refused
  /-- The report reached its limit. -/
  | overflowed

/-- A text read, and the report after that. -/
structure Review (α : Type) where
  report : Report
  notes : String
  outcome : Review.Outcome α

inductive Run.Verdict
  /-- It ran to its end. -/
  | finished
  /-- It did not start, or a fault stopped it; the report says why. -/
  | failed
  /-- The report reached its limit. -/
  | overflowed
  /-- Some loop is not over after as many rounds as it was given. -/
  | unfinished
  deriving DecidableEq, Repr

/-- A script run, with the report and the variables after that. -/
structure Run where
  report : Report
  env : Environment
  out : String
  notes : String
  verdict : Run.Verdict

namespace Report

def reviewTokens {α : Type} (r : Report) (notes : String)
    (parsed : Except ParseError α) : Review α :=
  match parsed with
  | .ok value => { report := r, notes, outcome := .accepted value }
  | .error e =>
    match r.file (Issue.ofParse e) with
    | .ok filed => { report := filed, notes, outcome := .refused }
    | .error overflow => { report := overflow.report, notes, outcome := .overflowed }

def review {α : Type} (r : Report) (grammar : Stream → Except ParseError α) (text : String) :
    Review α :=
  let scan := Scan.ofText text
  match r.fileAll (scan.errors.map Issue.ofLexical) with
  | .error overflow => { report := overflow.report, notes := "", outcome := .overflowed }
  | .ok filed =>
    filed.reviewTokens (filed.note ["Scanned", toString scan.tokens.length, "tokens."])
      (grammar { body := scan.body, finish := scan.finish })

def conclude (r : Report) (notes : String) : Ending × State → Run
  | (.done, st) => { report := r, env := st.env, out := st.out, notes, verdict := .finished }
  | (.unfinished, st) => { report := r, env := st.env, out := st.out, notes, verdict := .unfinished }
  | (.failed fault, st) =>
    match r.file (Issue.ofFault fault) with
    | .ok filed => { report := filed, env := st.env, out := st.out, notes, verdict := .failed }
    | .error overflow =>
      { report := overflow.report, env := st.env, out := st.out, notes, verdict := .overflowed }

/-- Scan, read and run a script, each loop for at most `rounds` tests of its
condition. -/
def run (r : Report) (rounds : Nat) (text : String) (filename : Option String)
    (env : Environment) : Run :=
  let review := (r.setSource text filename).review Program.ofStream text
  let report := review.report
  match review.outcome with
  | .overflowed => { report, env, out := "", notes := review.notes, verdict := .overflowed }
  | .refused => { report, env, out := "", notes := review.notes, verdict := .failed }
  | .accepted program =>
    if report.sick then
      { report, env, out := "", notes := review.notes, verdict := .failed }
    else
      report.conclude
        (review.notes ++ report.note ["Parsed", toString program.length, "statements."])
        (Stmt.execAll rounds program { env, out := "" })

end Report

end Scriptlet
