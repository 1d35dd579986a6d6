/-
Scriptlet.CommandLine.Path — names of files.

A path is a root and the names below it. Reading one drops empty names and
single dots, and keeps double dots: what those mean hangs on the files.
-/
namespace Scriptlet.CommandLine

/-- An absolute path. A root of exactly two slashes is a root of its own. -/
structure Path where
  twoSlashes : Bool := false
  names : List String
  deriving DecidableEq, Repr

namespace Path

def parts : List Char → List (List Char)
  | [] => [[]]
  | c :: rest =>
    if c = '/' then
      [] :: parts rest
    else
      match parts rest with
      | [] => [[c]]
      | part :: others => (c :: part) :: others

def namesOf (text : String) : List String :=
  ((parts text.toList).map String.ofList).filter fun name => name ≠ "" ∧ name ≠ "."

/-- A text as a path below `base`, or from the root if it says so. -/
def join (base : Path) (text : String) : Path :=
  match text.toList with
  | '/' :: '/' :: '/' :: _ => { names := namesOf text }
  | '/' :: '/' :: _ => { twoSlashes := true, names := namesOf text }
  | '/' :: _ => { names := namesOf text }
  | _ => { base with names := base.names ++ namesOf text }

def text (p : Path) : String :=
  (if p.twoSlashes then "//" else "/") ++ "/".intercalate p.names

end Path

end Scriptlet.CommandLine
