/-
Scriptlet.Value — what a script computes with.

There are four kinds of value. `nil` is the only value of its kind; numbers
are doubles, texts are sequences of code points.
-/
import Scriptlet.Number.Layout

namespace Scriptlet

inductive Value
  | nil
  | boolean (b : Bool)
  | number (x : Float)
  | text (s : String)
  deriving DecidableEq

namespace Value

inductive Kind
  | nil
  | boolean
  | number
  | text
  deriving DecidableEq, Repr

def Kind.name : Kind → String
  | .nil => "nil"
  | .boolean => "boolean"
  | .number => "number"
  | .text => "string"

def kind : Value → Kind
  | .nil => .nil
  | .boolean _ => .boolean
  | .number _ => .number
  | .text _ => .text

def word (b : Bool) : String := if b then "true" else "false"

/-- The text that a print statement writes. `nil` leaves no trace. -/
def display : Value → String
  | .nil => ""
  | .boolean b => word b
  | .number x => Number.display x
  | .text s => s

end Value

end Scriptlet
