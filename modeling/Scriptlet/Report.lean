/-
Scriptlet.Report — where every phase files its complaints.

A report is made by whoever drives the phases, and handed from one to the
next; nothing about it is global. It may have a limit. The filing that makes
the number of issues equal to the limit answers an overflow, which still holds
the report, that issue included. A limit of zero or below is never reached,
and a report that is past its limit takes further issues without complaint.
-/
import Scriptlet.Issue
import Scriptlet.Text.Quoted

namespace Scriptlet

/-- The issues filed so far, in order, and what is needed to show them. -/
structure Report where
  verbose : Bool := false
  limit : Int := 10
  source : Source := { text := "" }
  issues : Array Issue := #[]

/-- A report that has just reached its limit. -/
structure Overflow where
  report : Report

namespace Report

def ok (r : Report) : Bool := r.issues.isEmpty

def sick (r : Report) : Bool := !r.ok

def file (r : Report) (issue : Issue) : Except Overflow Report :=
  let filed := { r with issues := r.issues.push issue }
  if (filed.issues.size : Int) = filed.limit then .error { report := filed } else .ok filed

/-- File issues one by one, up to the one that reaches the limit. -/
def fileAll (r : Report) : List Issue → Except Overflow Report
  | [] => .ok r
  | issue :: rest =>
    match r.file issue with
    | .ok filed => filed.fileAll rest
    | .error overflow => .error overflow

def reset (r : Report) : Report := { r with issues := #[] }

def setSource (r : Report) (text : String) (filename : Option String) : Report :=
  { r with source := { text, filename } }

/-- What a verbose report has to say, in one line. -/
def note (r : Report) (words : List String) : String :=
  if r.verbose then Text.line (" ".intercalate words) else ""

def text [Illustrator] (r : Report) : String :=
  "\n".intercalate (r.issues.toList.map (Illustrator.render r.source))

end Report

end Scriptlet
