/-
Scriptlet.Number.Double — what the bits of a double say: its sign, whether it
is finite, and the exact value of its magnitude.
-/
import Scriptlet.Number.Ratio

namespace Scriptlet.Double

def signBit : Nat := 0x8000000000000000

/-- The sign bit is set; it is for `-0.0` too. -/
def isNegative (x : Float) : Bool := signBit ≤ x.toBits.toNat

def magnitude (x : Float) : Nat := x.toBits.toNat % signBit

def ofMagnitude (bits : Nat) : Float := Float.ofBits (UInt64.ofNat bits)

/-- Not a number, an infinity, or a finite value. -/
inductive Class
  | undefined
  | infinite
  | finite
  deriving DecidableEq, Repr

def classOf (x : Float) : Class :=
  if magnitude x < Ratio.infinityBits then .finite
  else if magnitude x = Ratio.infinityBits then .infinite
  else .undefined

/-- The integer `m` of the exact value `m · 2 ^ e` of a finite magnitude. -/
def significand (bits : Nat) : Nat :=
  if bits < Ratio.leadingBit then bits else Ratio.leadingBit + bits % Ratio.leadingBit

/-- The power `e` of the exact value `m · 2 ^ e` of a finite magnitude. -/
def exponent (bits : Nat) : Int :=
  if bits < Ratio.leadingBit then -1074 else (bits / Ratio.leadingBit : Nat) - 1075

def ratio (bits : Nat) : Ratio :=
  Ratio.scaleDown ⟨significand bits, 1⟩ 2 (-exponent bits)

end Scriptlet.Double
