/-
Scriptlet.Report.Outburst — a report aloud.

Before its issues a report lets out an exclamation, put together from three
random picks. The picks come from outside, as a list of numbers of any size.
-/
import Scriptlet.Report

namespace Scriptlet

/-- Random numbers not used so far. -/
abbrev Luck := List Int

namespace Luck

def next : Luck → Int × Luck
  | [] => (0, [])
  | n :: rest => (n, rest)

def choose (options : List String) (n : Int) : String :=
  (options[(n % options.length).toNat]?).getD ""

end Luck

namespace Outburst

def particles : List String := ["Oh, ", "Well, ", "Aw, ", "", ""]

def oaths : List String :=
  ["Ack", "Blargh", "Confound it", "Crud", "Curses", "Drat", "Fiddlesticks", "Good Grief",
   "Great Scott", "Heavens", "Nuts", "Rats"]

def resignations : List String :=
  ["I am undone.", "I cannot continue.", "I need to ask for help."]

def make (luck : Luck) : String × Luck :=
  let (first, luck) := luck.next
  let (second, luck) := luck.next
  let (third, luck) := luck.next
  (Luck.choose particles first ++ Luck.choose oaths second ++ "! " ++
    Luck.choose resignations third, luck)

end Outburst

namespace Report

variable [Illustrator]

def complaintAbout (source : Source) (issue : Issue) : String :=
  Text.line (Text.repeated "  -" 20) ++ Text.line (Illustrator.render source issue)

/-- All issues, after an exclamation; nothing if there are none. -/
def complaint (r : Report) (luck : Luck) : String × Luck :=
  if r.ok then
    ("", luck)
  else
    let (outburst, luck) := Outburst.make luck
    (Text.line (Text.repeated "*" 60) ++ Text.line outburst ++
      String.join (r.issues.toList.map (complaintAbout r.source)), luck)

/-- What is said when there should have been no issues: the complaint, and the
objection raised after it. -/
structure Objection where
  complaint : String
  message : String

def insist (r : Report) (message : String) (luck : Luck) : Option Objection × Luck :=
  if r.ok then
    (none, luck)
  else
    let (complaint, luck) := r.complaint luck
    let (outburst, luck) := Outburst.make luck
    (some { complaint, message := outburst ++ " " ++ message }, luck)

end Report

end Scriptlet
