/-
Scriptlet.Number.Shortest — the shortest decimal that reads back as a double.

The multiples of a power of ten form a grid. The decimal chosen for a double
lies on the coarsest grid on which one of the two neighbours of its exact
value reads back as that double; if both do, it is the nearer of the two.

The search starts two powers of ten above the value and ends at the first hit;
seventeen significant digits always suffice. Past the last step stands the
exact decimal expansion, so that the answer reads back in any case.
-/
import Scriptlet.Number.Decimal

namespace Scriptlet.Decimal

/-- The exact value of a finite magnitude, as a decimal: halving is the same as
taking five tenths. -/
def exact (bits : Nat) : Decimal :=
  let e := Double.exponent bits
  { coefficient := Double.significand bits * Nat.pow 2 e.toNat * Nat.pow 5 (-e).toNat,
    exponent := min e 0 }

/-- On the grid of `10 ^ k`, the neighbour of the magnitude's exact value that
reads back as it: the nearer one if both do, the even one if they are equally
near. -/
def onGrid? (bits : Nat) (k : Int) : Option Decimal :=
  let r := (Double.ratio bits).scaleDown 10 k
  let below : Decimal := { coefficient := r.floor, exponent := k }
  let above : Decimal := { coefficient := r.floor + 1, exponent := k }
  let nearer : Decimal := { coefficient := r.round, exponent := k }
  match below.nearest == bits, above.nearest == bits with
  | true, true => some nearer
  | true, false => some below
  | false, true => some above
  | false, false => none

/-- A power of ten two grids coarser than the magnitude's leading digit, or a little more. -/
def coarsest (bits : Nat) : Int :=
  ((Double.significand bits).log2 + 1 + Double.exponent bits) * 30103 / 100000 + 2

/-- The first hit on `steps` grids, from the grid of `10 ^ k` downwards. -/
def firstHit (bits : Nat) : (steps : Nat) → (k : Int) → Decimal
  | 0, _ => exact bits
  | steps + 1, k =>
    match onGrid? bits k with
    | some d => d
    | none => firstHit bits steps (k - 1)

/-- The shortest decimal that reads back as the finite magnitude `bits`. -/
def shortest (bits : Nat) : Decimal :=
  (firstHit bits 24 (coarsest bits)).normal

end Scriptlet.Decimal
