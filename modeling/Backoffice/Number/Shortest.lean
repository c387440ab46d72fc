import Backoffice.Number.Double

/-!
# The shortest decimal of a double

Around each finite double lies the interval of the reals that round to it.  Its
ends belong to it exactly when the significand is even.  The shortest decimal of
a double is found on the decimal grids `10^k`, from coarse to fine: on each grid
only the two neighbours of the value are tried, and the first grid where one of
them lies in the interval wins.  Where both do, the nearer wins, and `Tie` says
which one wins at equal distance.
-/

namespace Backoffice

/-- Which of two equally near decimals is taken. -/
inductive Tie where
  /-- The one whose last digit is even. -/
  | even
  /-- The larger one. -/
  | up
deriving DecidableEq, Repr

/-- The number `significand · 10^exponent`. -/
structure Decimal where
  /-- A whole number. -/
  significand : Nat
  /-- The power of ten. -/
  exponent : Int
deriving DecidableEq, Repr

namespace Double.Scaled

/-! ## The rounding interval

All four numbers are in units of `2^(power - 2)`, so that they are whole. -/

/-- Four times the significand. -/
def quadruple (v : Scaled) : Nat := 4 * v.significand

/-- The lower end of the interval.  Below a power of two the gap is half as wide. -/
def lowerEnd (v : Scaled) : Nat :=
  if v.significand = Nat.pow 2 52 ∧ -1074 < v.power then v.quadruple - 1 else v.quadruple - 2

/-- The upper end of the interval. -/
def upperEnd (v : Scaled) : Nat := v.quadruple + 2

/-- Whether the ends belong to the interval. -/
def closed (v : Scaled) : Bool := v.significand % 2 = 0

/-- A common unit of the grid `10^k` and of quarters of the double's last place:
the grid step and the quarter as multiples of it. -/
structure Units where
  /-- The step of the decimal grid. -/
  step : Nat
  /-- A quarter of the last place. -/
  quarter : Nat
deriving DecidableEq, Repr

/-- The units at the grid `10^k`. -/
def unitsAt (v : Scaled) (k : Int) : Units :=
  let power := v.power - 2
  { step := (if k < 0 then 1 else Nat.pow 10 k.natAbs) *
      (if power < 0 then Nat.pow 2 power.natAbs else 1)
    quarter := (if k < 0 then Nat.pow 10 k.natAbs else 1) *
      (if power < 0 then 1 else Nat.pow 2 power.natAbs) }

/-- Whether a grid point lies in the interval. -/
def admits (v : Scaled) (units : Units) (point : Nat) : Bool :=
  let place := point * units.step
  let low := v.lowerEnd * units.quarter
  let high := v.upperEnd * units.quarter
  if v.closed then low ≤ place && place ≤ high else low < place && place < high

/-- The grid point of `10^k` that stands for the value, when there is one. -/
def onGrid (tie : Tie) (v : Scaled) (k : Int) : Option Nat :=
  let units := v.unitsAt k
  let place := v.quadruple * units.quarter
  let below := place / units.step
  let above := below + 1
  match v.admits units below, v.admits units above with
  | false, false => none
  | true, false => some below
  | false, true => some above
  | true, true =>
      let toBelow := place - below * units.step
      let toAbove := above * units.step - place
      if toBelow < toAbove then some below
      else if toAbove < toBelow then some above
      else match tie with
        | .even => if below % 2 = 0 then some below else some above
        | .up => some above

/-! ## The search -/

/-- A power of ten at or above the first digit of the value. -/
def topGrid (v : Scaled) : Int :=
  ((v.significand.log2 : Int) + v.power) * 30103 / 100000 + 1

/-- The first grid from `k` downward that holds a decimal of the value. -/
def search (tie : Tie) (v : Scaled) : (tries : Nat) → (k : Int) → Option Decimal
  | 0, _ => none
  | tries + 1, k =>
      match v.onGrid tie k with
      | some point => some ⟨point, k⟩
      | none => search tie v tries (k - 1)

/-- The shortest decimal of a positive value.  Nineteen grids from the first
digit on always hold one. -/
def shortest (tie : Tie) (v : Scaled) : Decimal :=
  if v.significand = 0 then ⟨0, 0⟩
  else (v.search tie 20 v.topGrid).getD ⟨0, 0⟩

end Double.Scaled

/-- The shortest decimal that reads back as the absolute value of a double. -/
def Double.shortest (tie : Tie) (x : Double) : Decimal := x.scaled.shortest tie

example : (Double.mk 0x4004000000000000).shortest .even = ⟨25, -1⟩ := by decide +kernel
example : (Double.mk 1).shortest .even = ⟨5, -324⟩ := by decide +kernel
example : (Double.mk 0x7fefffffffffffff).shortest .even = ⟨17976931348623157, 292⟩ := by
  decide +kernel
example : (Double.mk 0x3e60000000000000).shortest .up = ⟨29802322387695313, -24⟩ := by
  decide +kernel
example : (Double.mk 0x3e60000000000000).shortest .even = ⟨29802322387695312, -24⟩ := by
  decide +kernel

end Backoffice
