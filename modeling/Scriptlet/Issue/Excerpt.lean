/-
Scriptlet.Issue.Excerpt — the illustrator that the program runs with.

For each piece of evidence two lines are shown: the row of the source on which
it starts, with its number in front, and below it a row of carets with the
caption. A row of the source ends with a carriage return, a line feed, or both
in that order. The carets never go on beyond the row they start on.

A report takes any illustrator, so nothing that is proved of reports rests on
how these excerpts look.
-/
import Scriptlet.Issue
import Scriptlet.Text.Character

namespace Scriptlet.Excerpt

/-- The rows of a text, each with its break. The last one has none, and is empty if
the text ends with a break. -/
def rows : List Char → List (List Char)
  | [] => [[]]
  | '\r' :: '\n' :: rest => ['\r', '\n'] :: rows rest
  | c :: rest =>
    if c = '\r' ∨ c = '\n' then
      [c] :: rows rest
    else
      match rows rest with
      | [] => [[c]]
      | row :: others => (c :: row) :: others

/-- A place in a text: its row counted from zero, its column, and the whole row. -/
structure Place where
  row : Nat
  column : Nat
  text : List Char
  deriving DecidableEq, Repr

/-- The place of an offset among the rows that follow the first `above` ones. An
offset beyond the text is beyond the end of its last row. -/
def Place.find (above : Nat) : List (List Char) → (offset : Nat) → Place
  | [], offset => { row := above, column := offset, text := [] }
  | [last], offset => { row := above, column := offset, text := last }
  | row :: next :: others, offset =>
    if offset < row.length then
      { row := above, column := offset, text := row }
    else
      find (above + 1) (next :: others) (offset - row.length)

def place (text : String) (offset : Nat) : Place := Place.find 0 (rows text.toList) offset

/-- The number of a row as it stands before it: six wide, or more, with a space
before the digits in any case. -/
def margin (number : Nat) : List Char :=
  let digits := ' ' :: Nat.toDigits 10 number
  List.replicate (6 - digits.length) ' ' ++ digits ++ [' ', ':']

/-- A text of the same width that shows nothing. Tabs stay, since their width hangs
on where they stand. -/
def hidden (cs : List Char) : List Char := cs.map fun c => if c = '\t' then '\t' else ' '

/-- How many carets are shown: as many as fit on the row, and at least one. -/
def caretCount (e : Evidence) (place : Place) : Nat :=
  max 1 (min (e.stop - e.start) (place.text.length - place.column))

def lines (text : String) (e : Evidence) : List String :=
  let place := place text e.start
  let margin := margin (place.row + 1)
  [String.ofList (margin ++ Text.trimEnd place.text),
   String.ofList
     (hidden (margin ++ place.text.take place.column) ++
       List.replicate (caretCount e place) '^') ++ " " ++ e.caption]

/-- The line that names the file, if there is something to show from one. -/
def heading (source : Source) (evidence : List Evidence) : List String :=
  match source.filename, evidence with
  | some filename, _ :: _ =>
    if filename = "" then [] else ["Excerpt from " ++ filename ++ " :"]
  | _, _ => []

instance : Illustrator where
  render source issue :=
    "\n".intercalate
      (("Error while " ++ issue.phase.name ++ ": " ++ issue.description) ::
        heading source issue.evidence ++ issue.evidence.flatMap (lines source.text))

end Scriptlet.Excerpt
