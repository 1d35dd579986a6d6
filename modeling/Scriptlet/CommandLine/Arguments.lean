/-
Scriptlet.CommandLine.Arguments — what the words of a command line ask for.

A word is a flag, the program to run, or a word too many. Short flags may be
joined behind one dash, a long one may be cut short as long as only one flag
starts that way, and after `--` no word is a flag. No flag takes a value: whatever
looks like one is an error of the flag before it.

The words are sorted first, all of them, and then taken in order. Help is given
as soon as its flag is taken, before any later word can be found at fault. A
missing program is complained about before words too many.
-/
import Scriptlet.Text.Character
import Scriptlet.Text.Quoted

namespace Scriptlet.CommandLine

inductive Flag
  | help
  | check
  | ast
  | verbose
  deriving DecidableEq, Repr

namespace Flag

def all : List Flag := [.help, .check, .ast, .verbose]

def letter : Flag → Char
  | .help => 'h'
  | .check => 'c'
  | .ast => 'a'
  | .verbose => 'v'

def long : Flag → String
  | .help => "--help"
  | .check => "--check"
  | .ast => "--ast"
  | .verbose => "--verbose"

def short (f : Flag) : String := String.ofList ['-', f.letter]

def name (f : Flag) : String := f.short ++ "/" ++ f.long

def ofLetter? (c : Char) : Option Flag := all.find? fun f => f.letter = c

end Flag

/-- What can be wrong with a command line. -/
inductive UsageError
  /-- Several flags start that way. -/
  | ambiguous (word : String) (candidates : List Flag)
  /-- A flag takes no value. -/
  | valued (flag : Flag) (value : String)
  /-- There is no program to run. -/
  | missingProgram
  /-- Words too many. -/
  | unrecognized (words : List String)
  deriving DecidableEq, Repr

def UsageError.message : UsageError → String
  | .ambiguous word candidates =>
    "ambiguous option: " ++ word ++ " could match " ++
      ", ".intercalate (candidates.map Flag.long)
  | .valued flag value =>
    "argument " ++ flag.name ++ ": ignored explicit argument " ++ Text.quoted value
  | .missingProgram => "the following arguments are required: program"
  | .unrecognized words => "unrecognized arguments: " ++ " ".intercalate words

/-- What a word is. -/
inductive Word
  /-- Not a flag. -/
  | plain (text : String)
  /-- It looks like a flag, and there is none like it. -/
  | unknown (text : String)
  /-- The flags it sets: several when short ones are joined. -/
  | flags (set : List Flag)
  /-- A flag with something wrong about it. -/
  | faulty (error : UsageError)
  deriving DecidableEq, Repr

/-! ## 1. Sorting the words -/

/-- The part before the first equals sign, and the part after it if there is one. -/
def splitAtEquals (cs : List Char) : List Char × Option (List Char) :=
  match cs.dropWhile (· ≠ '=') with
  | [] => (cs, none)
  | _ :: value => (cs.takeWhile (· ≠ '='), some value)

/-- A number with a minus sign in front: digits, or digits after a point. -/
def isNegativeNumber (cs : List Char) : Bool :=
  match cs with
  | '-' :: rest =>
    let rest := if rest.getLast? = some '\n' then rest.dropLast else rest
    match rest.dropWhile Text.isDecimalDigit with
    | [] => !rest.isEmpty
    | '.' :: places => !places.isEmpty && places.all Text.isDecimalDigit
    | _ => false
  | _ => false

def sortOther (cs : List Char) : Word :=
  if isNegativeNumber cs || cs.contains ' ' then
    .plain (String.ofList cs)
  else
    .unknown (String.ofList cs)

/-- The complaint about a value: a flag takes none, not even an empty one. -/
def UsageError.ofValue (flag : Flag) (value : List Char) : UsageError :=
  .valued flag (String.ofList value)

/-- The flags of a letter and of those joined to it. What stands after the last
flag is taken for its value, from the first character on that is no letter of a flag. -/
def cluster (flag : Flag) : List Char → Except UsageError (List Flag)
  | [] => .ok [flag]
  | c :: rest =>
    match Flag.ofLetter? c with
    | some next => (cluster next rest).map (flag :: ·)
    | none => .error (.ofValue flag (c :: rest))

/-- The word of a short flag and the letters joined to it. -/
def Word.ofJoined (flag : Flag) (letters : List Char) : Word :=
  match cluster flag letters with
  | .ok set => .flags set
  | .error e => .faulty e

def Word.ofShort (flag : Flag) : List Char → Word
  | ['='] => .faulty (.ofValue flag [])
  | '=' :: letters => .ofJoined flag letters
  | letters => .ofJoined flag letters

def Word.ofLong (flag : Flag) : Option (List Char) → Word
  | none => .flags [flag]
  | some value => .faulty (.ofValue flag value)

/-- A word of two dashes and more. An exact name comes before what starts like it. -/
def sortLong (cs : List Char) : Except UsageError Word :=
  let (start, value) := splitAtEquals cs
  match Flag.all.find? fun f => f.long.toList = start with
  | some flag => .ok (.ofLong flag value)
  | none =>
    match Flag.all.filter fun f => start.isPrefixOf f.long.toList with
    | [] => .ok (sortOther cs)
    | [flag] => .ok (.ofLong flag value)
    | several => .error (.ambiguous (String.ofList cs) several)

def sort (word : String) : Except UsageError Word :=
  match word.toList with
  | '-' :: '-' :: rest => sortLong ('-' :: '-' :: rest)
  | '-' :: c :: rest =>
    match Flag.ofLetter? c with
    | some flag => .ok (.ofShort flag rest)
    | none => .ok (sortOther ('-' :: c :: rest))
  | _ => .ok (.plain word)

/-! ## 2. Taking the words -/

structure Taken where
  program : Option String := none
  flags : List Flag := []
  extras : List String := []
  atProgram : Bool := false

/-- What a command line asks for. -/
inductive Request
  /-- An explanation of the arguments. -/
  | help
  /-- To deal with a program. -/
  | program (path : String) (flags : List Flag)
  deriving DecidableEq, Repr

/-- Take the words in order; `none` when help is asked for. -/
def take (taken : Taken) : List Word → Except UsageError (Option Taken)
  | [] => .ok (some taken)
  | .plain text :: rest =>
    match taken.program with
    | none => take { taken with program := some text, atProgram := true } rest
    | some _ => take { taken with extras := taken.extras ++ [text], atProgram := false } rest
  | .unknown text :: rest =>
    take { taken with extras := taken.extras ++ [text], atProgram := false } rest
  | .faulty e :: _ => .error e
  | .flags set :: rest =>
    if .help ∈ set then .ok none
    else take { taken with flags := taken.flags ++ set, atProgram := false } rest

/-- Take the words after `--`. When the program directly precedes that sign, or is
the first word after it, the sign is passed over; otherwise it is one of the words
too many. -/
def takeAfterDashes (taken : Taken) (words : List String) : Taken :=
  match taken.program, words with
  | none, program :: extras =>
    { taken with program := some program, extras := taken.extras ++ extras }
  | none, [] => { taken with extras := taken.extras ++ ["--"] }
  | some _, words =>
    if taken.atProgram then
      { taken with extras := taken.extras ++ words }
    else
      { taken with extras := taken.extras ++ "--" :: words }

def request (words : List String) : Except UsageError Request := do
  let before := words.takeWhile (· ≠ "--")
  let sorted ← before.mapM sort
  match ← take {} sorted with
  | none => pure .help
  | some taken =>
    let taken :=
      match words.dropWhile (· ≠ "--") with
      | [] => taken
      | _ :: after => takeAfterDashes taken after
    match taken.program with
    | none => throw .missingProgram
    | some path =>
      if taken.extras.isEmpty then pure (.program path taken.flags)
      else throw (.unrecognized taken.extras)

end Scriptlet.CommandLine
