/-
Scriptlet.Number.Decimal — decimal numbers, and the double each one denotes.

A decimal is read by its exact value alone: `12.50` and `12.5` denote the same
double, the one nearest to that value.
-/
import Scriptlet.Number.Double

namespace Scriptlet

/-- The decimal number `coefficient · 10 ^ exponent`. -/
structure Decimal where
  coefficient : Nat
  exponent : Int
  deriving DecidableEq, Repr

namespace Decimal

def ratio (d : Decimal) : Ratio :=
  Ratio.scaleDown ⟨d.coefficient, 1⟩ 10 (-d.exponent)

def nearest (d : Decimal) : Nat := d.ratio.nearest

/-- The nearest double; infinity when the value lies beyond all finite ones. -/
def toFloat (d : Decimal) : Float := Double.ofMagnitude d.nearest

def ofDigits (digits : List Char) : Nat :=
  digits.foldl (fun n c => 10 * n + (c.toNat - '0'.toNat)) 0

/-- The number written with the digits `whole` before the point and `fraction` after it. -/
def ofPlaces (whole fraction : List Char) : Decimal :=
  { coefficient := ofDigits (whole ++ fraction), exponent := -(fraction.length : Int) }

/-- The number that a numeral writes: digits, with at most one point among them. -/
def ofNumeral (cs : List Char) : Decimal :=
  ofPlaces (cs.takeWhile (· ≠ '.')) ((cs.dropWhile (· ≠ '.')).drop 1)

/-- The same value without superfluous zeros at the end of the coefficient. -/
def normal (d : Decimal) : Decimal :=
  if d.coefficient = 0 then
    { coefficient := 0, exponent := 0 }
  else if d.coefficient % 10 = 0 then
    normal { coefficient := d.coefficient / 10, exponent := d.exponent + 1 }
  else
    d
termination_by d.coefficient
decreasing_by exact Nat.div_lt_self (Nat.pos_of_ne_zero ‹_›) (by decide)

end Decimal

end Scriptlet
