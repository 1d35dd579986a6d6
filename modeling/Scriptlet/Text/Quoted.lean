/-
Scriptlet.Text.Quoted — how a text is set out: quoted inside a message, or on a line
of output.

A quoted text stands between single quotes, or between double quotes when it
holds a single quote and no double one. The backslash, the quote in use, the
line breaks and the tab are written as two-character escapes; any other
character that is not printable as its code point in hexadecimal, two, four or
eight digits wide. Every other character stands for itself.
-/
import Scriptlet.Text.Printable

namespace Scriptlet.Text

def hexDigits : (width : Nat) → (n : Nat) → List Char
  | 0, _ => []
  | width + 1, n => hexDigits width (n / 16) ++ [Nat.digitChar (n % 16)]

def escapeCode (c : Char) : List Char :=
  if c.toNat ≤ 0xff then
    '\\' :: 'x' :: hexDigits 2 c.toNat
  else if c.toNat ≤ 0xffff then
    '\\' :: 'u' :: hexDigits 4 c.toNat
  else
    '\\' :: 'U' :: hexDigits 8 c.toNat

/-- One character of a text quoted with `quote`. -/
def escape (quote c : Char) : List Char :=
  if c = quote ∨ c = '\\' then ['\\', c]
  else if c = '\n' then ['\\', 'n']
  else if c = '\r' then ['\\', 'r']
  else if c = '\t' then ['\\', 't']
  else if isPrintable c then [c]
  else escapeCode c

/-- The quote that spares the text an escape, if either does. -/
def quoteFor (cs : List Char) : Char :=
  if '\'' ∈ cs ∧ '"' ∉ cs then '"' else '\''

def quoted (s : String) : String :=
  let quote := quoteFor s.toList
  String.ofList (quote :: s.toList.flatMap (escape quote) ++ [quote])

/-! ## Lines of output -/

def line (s : String) : String := s ++ "\n"

def repeated (s : String) : (times : Nat) → String
  | 0 => ""
  | times + 1 => s ++ repeated s times

end Scriptlet.Text
