/-
Scriptlet.CommandLine.Folder — files held in memory.

Looking a path up goes from name to name as a file system does: every name but
the last has to be a folder, a double dot goes back, and only a file can be
read.
-/
import Scriptlet.CommandLine.Path

namespace Scriptlet.CommandLine

/-- What asking for the contents of a file answers. -/
inductive Fetched
  /-- The contents. -/
  | contents (bytes : ByteArray)
  /-- There is nothing to read, for this reason. -/
  | refused (reason : String)

/-- What stands under a name. -/
inductive Entry
  | file (bytes : ByteArray)
  | folder

/-- Files and folders, each under the names that lead to it from the root. -/
abbrev Folder := List (List String × Entry)

namespace Folder

/-- What stands under some names; whatever leads to an entry is a folder. -/
def entry? (folder : Folder) (names : List String) : Option Entry :=
  match folder.find? fun e => e.1 = names with
  | some e => some e.2
  | none => if folder.any fun e => names.isPrefixOf e.1 then some .folder else none

/-- Look names up, one after the other, from the folder under the names `here`. -/
def walk (folder : Folder) (here : List String) : List String → Fetched
  | [] => .refused "Is a directory"
  | name :: rest =>
    if name = ".." then
      folder.walk here.dropLast rest
    else
      match folder.entry? (here ++ [name]) with
      | none => .refused "No such file or directory"
      | some .folder => folder.walk (here ++ [name]) rest
      | some (.file bytes) =>
        match rest with
        | [] => .contents bytes
        | _ :: _ => .refused "Not a directory"

def fetch (folder : Folder) (path : Path) : Fetched := folder.walk [] path.names

end Folder

end Scriptlet.CommandLine
