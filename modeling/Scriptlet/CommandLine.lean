/-
Scriptlet.CommandLine — a script run from the command line.

A command line is dealt with in two steps, since only the file stands between
them: `plan` answers at once, or says which file it needs; `proceed` goes on
with what asking for that file has answered. Both are functions; reading the
file and writing the answer are left to whoever calls them. What an issue looks
like is left to the illustrator; the one of `Scriptlet.Issue.Excerpt` is at hand
for whoever has no other.
-/
import Scriptlet.CommandLine.Arguments
import Scriptlet.CommandLine.Folder
import Scriptlet.CommandLine.Usage
import Scriptlet.Issue.Excerpt
import Scriptlet.Report.Outburst
import Scriptlet.Session
import Scriptlet.Tree.Printed

namespace Scriptlet.CommandLine

inductive Status
  /-- With an exit status. -/
  | exit (code : Nat)
  /-- The file holds no text. -/
  | undecodable
  /-- Some loop is not over after as many rounds as it was given. -/
  | unfinished
  deriving DecidableEq, Repr

/-- What a command line writes, and how it ends. -/
structure Outcome where
  out : String := ""
  err : String := ""
  status : Status := .exit 0
  deriving DecidableEq, Repr

structure Job where
  path : Path
  check : Bool
  ast : Bool
  verbose : Bool
  deriving DecidableEq, Repr

/-- The first step of dealing with a command line. -/
inductive Plan
  /-- It is dealt with. -/
  | over (outcome : Outcome)
  /-- The file of a job is needed. -/
  | fetch (job : Job)

/-- Deal with a command line as far as that goes without a file. -/
def plan (here : Path) (words : List String) : Plan :=
  match words with
  | [] => .over { out := introduction }
  | _ =>
    match request words with
    | .error e => .over { err := usageComplaint e.message, status := .exit 2 }
    | .ok .help => .over { out := helpText }
    | .ok (.program path flags) =>
      .fetch
        { path := here.join path
          check := flags.contains .check
          ast := flags.contains .ast
          verbose := flags.contains .verbose }

/-- A text with every line break written as one line feed. -/
def unifyBreaks : List Char → List Char
  | [] => []
  | '\r' :: '\n' :: rest => '\n' :: unifyBreaks rest
  | c :: rest => (if c = '\r' then '\n' else c) :: unifyBreaks rest

def decode? (bytes : ByteArray) : Option String :=
  (String.fromUTF8? bytes).map fun text => String.ofList (unifyBreaks text.toList)

variable [Illustrator]

def giveUp (report : Report) (out notes : String) (luck : Luck) : Outcome :=
  { out
    err := notes ++ (report.complaint luck).1 ++ Text.line (Text.repeated " *" 35) ++
      Text.line "Giving up after a few issues. One crisis at a time, eh?"
    status := .exit 1 }

def settle (job : Job) (report : Report) (out notes : String) (luck : Luck) : Outcome :=
  if report.sick then
    { out, err := notes ++ (report.complaint luck).1, status := .exit 1 }
  else if job.check then
    { out, err := notes ++ Text.line "Looks plausible to me." }
  else
    { out, err := notes }

def inspect (job : Job) (report : Report) (text : String) (luck : Luck) : Outcome :=
  let review := report.review Program.ofStream text
  match review.outcome with
  | .overflowed => giveUp review.report "" review.notes luck
  | .refused => settle job review.report "" review.notes luck
  | .accepted program =>
    let out :=
      if job.ast && review.report.ok then Text.line (Program.printed program) else ""
    settle job review.report out review.notes luck

/-- A job that runs its program, each loop for at most `rounds` tests of its condition. -/
def execute (rounds : Nat) (job : Job) (report : Report) (text : String) (luck : Luck) :
    Outcome :=
  let run := report.run rounds text (some job.path.text) Environment.empty
  match run.verdict with
  | .overflowed => giveUp run.report run.out run.notes luck
  | .unfinished => { out := run.out, err := run.notes, status := .unfinished }
  | .finished => settle job run.report run.out run.notes luck
  | .failed => settle job run.report run.out run.notes luck

def proceed (rounds : Nat) (job : Job) (fetched : Fetched) (luck : Luck) : Outcome :=
  match fetched with
  | .refused reason =>
    { err := Text.line
        ("I see no readable file called " ++ job.path.text ++ " (" ++ reason ++ ")")
      status := .exit 1 }
  | .contents bytes =>
    match decode? bytes with
    | none => { status := .undecodable }
    | some text =>
      let report : Report :=
        { verbose := job.verbose, source := { text, filename := some job.path.text } }
      if job.check || job.ast then inspect job report text luck
      else execute rounds job report text luck

end Scriptlet.CommandLine
