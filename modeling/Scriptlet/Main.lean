/-
Scriptlet.Main — the program.
-/
import Scriptlet.CommandLine

namespace Scriptlet.CommandLine

def refusal : IO.Error → String
  | .noFileOrDirectory _ _ _ => "No such file or directory"
  | .inappropriateType _ _ details => details.capitalize
  | .permissionDenied _ _ details => details.capitalize
  | other => toString other

def fetchFile (path : String) : IO Fetched := do
  try
    return .contents (← IO.FS.readBinFile path)
  catch e =>
    return .refused (refusal e)

def drawLuck : IO Luck := do
  let first ← IO.rand 0 1000000
  let second ← IO.rand 0 1000000
  let third ← IO.rand 0 1000000
  return [Int.ofNat first, Int.ofNat second, Int.ofNat third]

/-- How often a loop may test its condition: more often than it ever can. -/
def rounds : Nat := 1000000000000000000

def answer (words : List String) : IO Outcome := do
  let here := Path.join { names := [] } (toString (← IO.currentDir))
  match plan here words with
  | .over outcome => return outcome
  | .fetch job =>
    let fetched ← fetchFile job.path.text
    let luck ← drawLuck
    return proceed rounds job fetched luck

end Scriptlet.CommandLine

def main (words : List String) : IO UInt32 := do
  let outcome ← Scriptlet.CommandLine.answer words
  IO.print outcome.out
  IO.eprint outcome.err
  match outcome.status with
  | .exit code => return UInt32.ofNat code
  | .undecodable =>
    IO.eprintln "The program is not a text in UTF-8."
    return 1
  | .unfinished => return 1
