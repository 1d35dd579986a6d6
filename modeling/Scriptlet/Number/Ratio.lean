/-
Scriptlet.Number.Ratio — quotients of natural numbers, and the double nearest
to one.

A double of positive sign is named here by its bits, read as a natural number.
Read that way the finite doubles follow each other without a gap: the bits of
a double are its distance from zero, counted in doubles. That is what makes
`Ratio.nearest` short, for a significand that rounds up to the next power of
two carries into the exponent by itself, and past the largest finite double
the count runs into the bits of infinity.
-/
namespace Scriptlet

/-- The quotient `num / den`. Nothing is reduced; `den` is meant to be positive. -/
structure Ratio where
  num : Nat
  den : Nat
  deriving DecidableEq, Repr

namespace Ratio

/-- The quotient divided by `base ^ power`, with `power` of either sign. -/
def scaleDown (r : Ratio) (base : Nat) (power : Int) : Ratio :=
  { num := r.num * Nat.pow base (-power).toNat, den := r.den * Nat.pow base power.toNat }

def floor (r : Ratio) : Nat := r.num / r.den

def fractionToHalf (r : Ratio) : Ordering := compare (2 * (r.num % r.den)) r.den

def round (r : Ratio) : Nat :=
  match r.fractionToHalf with
  | .lt => r.floor
  | .gt => r.floor + 1
  | .eq => r.floor + r.floor % 2

/-- The weight of the leading bit of a significand, `2 ^ 52`: the number of doubles
from one power of two to the next. -/
def leadingBit : Nat := 0x10000000000000

/-- The bits of positive infinity: one more than those of the largest finite double. -/
def infinityBits : Nat := 2047 * leadingBit

/-- The exponent of the coarsest power of two that leaves at least 53 bits
before the point, or of the smallest positive double when that is coarser. -/
def step (r : Ratio) : Int :=
  let top : Int := r.num.log2 - r.den.log2
  let atTop := r.scaleDown 2 top
  max (-1074) (if atTop.num < atTop.den then top - 53 else top - 52)

/-- The bits of the double nearest to the quotient; of two equally near
doubles the one with even bits. -/
def nearest (r : Ratio) : Nat :=
  if r.num = 0 then
    0
  else
    min ((r.step + 1074).toNat * leadingBit + (r.scaleDown 2 r.step).round) infinityBits

end Ratio

end Scriptlet
