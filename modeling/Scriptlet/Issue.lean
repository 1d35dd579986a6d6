/-
Scriptlet.Issue — complaints about a script.

An issue says in which phase something went wrong and what, and points at the
stretches of the script that show it. How it is set out as text, with excerpts
from those stretches, is left to an illustrator, which gets the source as it is
when the text is asked for.
-/
import Scriptlet.Evaluation
import Scriptlet.Grammar.Stream
import Scriptlet.Token.Scan

namespace Scriptlet

/-- What was being done to a script when something went wrong. -/
inductive Phase
  | scanning
  | parsing
  | running
  /-- Any other activity, by its name. -/
  | other (name : String)
  deriving DecidableEq, Repr

def Phase.name : Phase → String
  | .scanning => "scanning"
  | .parsing => "parsing"
  | .running => "running"
  | .other name => name

def Phase.ofName (name : String) : Phase :=
  if name = "scanning" then .scanning
  else if name = "parsing" then .parsing
  else if name = "running" then .running
  else .other name

/-- A stretch of a script, with a word on what it shows. -/
structure Evidence where
  start : Nat
  stop : Nat
  caption : String
  deriving DecidableEq, Repr

structure Issue where
  phase : Phase
  description : String
  evidence : List Evidence
  deriving DecidableEq, Repr

/-- The text of a script, and the file it is from. -/
structure Source where
  text : String
  filename : Option String := none
  deriving DecidableEq, Repr

/-- What sets out an issue as text, with excerpts from the source that it points into.
It comes from outside: the program hands it both and shows what it answers. -/
class Illustrator where
  render : Source → Issue → String

namespace Issue

def onLine (line : Int) (message : String) : String :=
  "[line " ++ toString line ++ "] " ++ message

/-- A plain complaint: a line and a message, with nothing to point at. -/
def plain (line : Int) (message : String) (phase : Phase) : Issue :=
  { phase, description := onLine line message, evidence := [] }

def lexicalCaption : LexicalCause → String
  | .unexpected _ => "this one"
  | .openText => "opens here"
  | .openComment => "opens here"

def ofLexical (e : LexicalError) : Issue :=
  { phase := .scanning
    description := onLine e.line e.cause.message
    evidence :=
      [{ start := e.start, stop := e.start + e.cause.width, caption := lexicalCaption e.cause }] }

def ofParse (e : ParseError) : Issue :=
  { phase := .parsing
    description := onLine e.token.line e.message
    evidence :=
      [{ start := e.token.start, stop := e.token.stop, caption := "got confused here" }] }

def ofFault (f : Fault) : Issue :=
  { phase := .running
    description := onLine f.site.line f.cause.message
    evidence := [{ start := f.site.start, stop := f.site.stop, caption := "" }] }

/-- The complaint about a running script that nothing in it can be blamed for. -/
def unplaced (message : String) : Issue :=
  { phase := .running, description := message, evidence := [] }

end Issue

end Scriptlet
