/-
Scriptlet.Number.Layout — two ways of writing the shortest decimal of a double.

* The positional layout is what a script prints: no exponent however large or
  small the number, no point when nothing follows it.
* The scientific layout is what the description of a token shows: positional
  from `0.0001` up to below `10 ^ 16`, always with a point, and with an
  exponent of at least two digits outside that stretch.
-/
import Scriptlet.Number.Shortest

namespace Scriptlet

namespace Decimal

def digits (d : Decimal) : List Char := Nat.toDigits 10 d.coefficient

/-- Without an exponent: zeros fill up to the point on either side. -/
def positional (d : Decimal) : List Char :=
  let places := (-d.exponent).toNat
  if places = 0 then
    d.digits ++ List.replicate d.exponent.toNat '0'
  else if places < d.digits.length then
    d.digits.take (d.digits.length - places) ++ '.' :: d.digits.drop (d.digits.length - places)
  else
    '0' :: '.' :: List.replicate (places - d.digits.length) '0' ++ d.digits

def exponentMark (e : Int) : List Char :=
  let sign := if e < 0 then '-' else '+'
  let digits := Nat.toDigits 10 e.natAbs
  'e' :: sign :: List.replicate (2 - digits.length) '0' ++ digits

/-- One digit, the rest of the digits after a point, and an exponent. -/
def withExponent (d : Decimal) : List Char :=
  let e := exponentMark (d.exponent + (d.digits.length - 1 : Nat))
  match d.digits with
  | lead :: next :: rest => lead :: '.' :: next :: rest ++ e
  | short => short ++ e

/-- The scientific layout: with an exponent only where the value is below
`0.0001` or has more than sixteen places before the point. -/
def scientific (d : Decimal) : List Char :=
  let point : Int := d.digits.length + d.exponent
  if d.coefficient ≠ 0 ∧ (point < -3 ∨ 16 < point) then
    d.withExponent
  else if d.exponent < 0 then
    d.positional
  else
    d.positional ++ ['.', '0']

end Decimal

namespace Number

/-- A number in a layout for finite magnitudes. The sign of a zero is kept. -/
def written (undefined : String) (layout : Decimal → List Char) (x : Float) : String :=
  let sign := if Double.isNegative x then ['-'] else []
  match Double.classOf x with
  | .undefined => undefined
  | .infinite => String.ofList (sign ++ "inf".toList)
  | .finite => String.ofList (sign ++ layout (Decimal.shortest (Double.magnitude x)))

def display (x : Float) : String := written "NaN" Decimal.positional x

def describe (x : Float) : String := written "nan" Decimal.scientific x

end Number

end Scriptlet
