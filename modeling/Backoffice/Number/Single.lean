import Backoffice.Number.Double

/-!
# Single precision

A number of single precision has a significand of 24 bits and a power of two of
at least `-149`, and lies below `2^128`.  `Double.toSingle` rounds a double to the
nearest such number, of two equally near ones to the one with an even significand,
and gives it as a double again.  What rounds to `2^128` or more becomes infinite.
-/

namespace Backoffice

namespace Double

/-- The power of two at which a value has a 24-bit significand, or the least
power of single precision. -/
def Scaled.singlePower (v : Scaled) : Int := max (v.significand.log2 + v.power - 23) (-149)

/-- The significand of a value in single precision.  The power of single precision
is never below that of the value. -/
def Scaled.singleSignificand (v : Scaled) : Nat :=
  divideToEven v.significand (Nat.pow 2 (v.singlePower - v.power).toNat)

/-- The nearest number of single precision. -/
def toSingle (x : Double) : Double :=
  if x.isFinite then
    let v := x.scaled
    let power := v.singlePower
    let significand := v.singleSignificand
    if 128 ≤ significand.log2 + power then ofWord x.isNegative infinityWord
    else ofRatio x.isNegative (significand * Nat.pow 2 power.toNat) (Nat.pow 2 (-power).toNat)
  else x

example : toSingle ⟨0x3fb999999999999a⟩ = ⟨0x3fb99999a0000000⟩ := by decide +kernel
example : toSingle ⟨0x47efffffefffffff⟩ = ⟨0x47efffffe0000000⟩ := by decide +kernel
example : toSingle ⟨0x47effffff0000000⟩ = ⟨0x7ff0000000000000⟩ := by decide +kernel
example : toSingle ⟨0x8000000000000001⟩ = ⟨0x8000000000000000⟩ := by decide +kernel
example : toSingle ⟨0x36a0000000000000⟩ = ⟨0x36a0000000000000⟩ := by decide +kernel

end Double

end Backoffice
