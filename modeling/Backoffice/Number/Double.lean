/-!
# Double precision numbers

A `Double` is the 64-bit word of an IEEE 754 binary64 number, so two doubles
are equal when their words are, and `0.0` differs from `-0.0`.

* `Double.scaled` reads a finite double as `m · 2^q`, exactly.
* `Double.ofRatio` gives the double nearest to a quotient, and of two equally
  near ones the one with an even significand.  A quotient too large for a finite
  double gives infinity.
-/

namespace Backoffice

/-- An IEEE 754 binary64 number, by its word. -/
structure Double where
  /-- Sign bit, eleven exponent bits, 52 fraction bits. -/
  bits : UInt64
deriving DecidableEq, Repr, Inhabited

namespace Double

/-! ## The parts of a double -/

/-- Whether the sign bit is set. -/
def isNegative (x : Double) : Bool := Nat.pow 2 63 ≤ x.bits.toNat

/-- The eleven exponent bits. -/
def exponentBits (x : Double) : Nat := x.bits.toNat / Nat.pow 2 52 % Nat.pow 2 11

/-- The 52 fraction bits. -/
def fractionBits (x : Double) : Nat := x.bits.toNat % Nat.pow 2 52

/-- Whether a double is a number, neither infinite nor NaN. -/
def isFinite (x : Double) : Bool := x.exponentBits != 2047

/-- A significand and a power of two.  The value is `significand · 2^power`. -/
structure Scaled where
  /-- A whole number below `2^53`. -/
  significand : Nat
  /-- The power of two, at least `-1074`. -/
  power : Int
deriving DecidableEq, Repr

/-- The absolute value of a finite double. -/
def scaled (x : Double) : Scaled :=
  if x.exponentBits = 0 then ⟨x.fractionBits, -1074⟩
  else ⟨Nat.pow 2 52 + x.fractionBits, x.exponentBits - 1075⟩

/-! ## Rounding -/

/-- The word of infinity, without sign. -/
def infinityWord : Nat := 2047 * Nat.pow 2 52

/-- The word with a sign and the given lower 63 bits. -/
def ofWord (negative : Bool) (word : Nat) : Double :=
  ⟨.ofNat (word + if negative then Nat.pow 2 63 else 0)⟩

/-- A quotient rounded to the nearest whole number, a half to the even one. -/
def divideToEven (numerator denominator : Nat) : Nat :=
  let quotient := numerator / denominator
  let twice := 2 * (numerator % denominator)
  if twice < denominator ∨ (twice = denominator ∧ quotient % 2 = 0) then quotient
  else quotient + 1

/-- The quotient `numerator / (denominator · 2^power)`, rounded. -/
def divideScaled (numerator denominator : Nat) (power : Int) : Nat :=
  if power < 0 then divideToEven (numerator * Nat.pow 2 power.natAbs) denominator
  else divideToEven numerator (denominator * Nat.pow 2 power.natAbs)

/-- Whether `numerator / denominator < 2^power`. -/
def quotientBelow (numerator denominator : Nat) (power : Int) : Bool :=
  if power < 0 then numerator * Nat.pow 2 power.natAbs < denominator
  else numerator < denominator * Nat.pow 2 power.natAbs

/-- The power of two at which a positive quotient has a 53-bit significand, or
the least power a double has. -/
def powerFor (numerator denominator : Nat) : Int :=
  let estimate : Int := (numerator.log2 : Int) - denominator.log2
  let exponent := if quotientBelow numerator denominator estimate then estimate - 1 else estimate
  max (exponent - 52) (-1074)

/-- The lower 63 bits of the double nearest to a quotient. -/
def wordOfRatio (numerator denominator : Nat) : Nat :=
  if numerator = 0 then 0
  else
    let power := powerFor numerator denominator
    let significand := divideScaled numerator denominator power
    min (significand + (power + 1074).toNat * Nat.pow 2 52) infinityWord

/-- The double nearest to a quotient with a sign. -/
def ofRatio (negative : Bool) (numerator denominator : Nat) : Double :=
  ofWord negative (wordOfRatio numerator denominator)

/-- The double nearest to `digits · 10^exponent`.  Outside `10^-400 … 10^400`
the answer is zero or infinity whatever the digits are. -/
def ofDecimal (negative : Bool) (significand : Nat) (exponent : Int) : Double :=
  let order := exponent + (Nat.toDigits 10 significand).length
  if significand = 0 ∨ order < -400 then ofWord negative 0
  else if order > 400 then ofWord negative infinityWord
  else if exponent < 0 then ofRatio negative significand (Nat.pow 10 exponent.natAbs)
  else ofRatio negative (significand * Nat.pow 10 exponent.natAbs) 1

/-- The double nearest to an integer. -/
def ofInt (n : Int) : Double := ofRatio (n < 0) n.natAbs 1

/-- The zero without sign. -/
def zero : Double := ⟨0⟩

/-- The zero with a sign. -/
def negativeZero : Double := ⟨0x8000000000000000⟩

/-- The double itself, but a zero always without sign. -/
def unsignedZero (x : Double) : Double := if x = negativeZero then zero else x

/-- The sum, rounded to the nearest double. -/
def add (x y : Double) : Double := ⟨(Float.ofBits x.bits + Float.ofBits y.bits).toBits⟩

instance : Add Double := ⟨add⟩

example : ofDecimal false 25 (-1) = ⟨0x4004000000000000⟩ := by decide +kernel
example : ofDecimal false 5 (-324) = ⟨1⟩ := by decide +kernel
example : ofDecimal true 2 308 = ⟨0xfff0000000000000⟩ := by decide +kernel
example : ofInt 9007199254740993 = ⟨0x4340000000000000⟩ := by decide +kernel

end Double

end Backoffice
