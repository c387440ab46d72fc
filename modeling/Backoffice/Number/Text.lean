import Backoffice.Number.Shortest
import Backoffice.Text.Numeral

/-!
# The text of a double

*Reading.*  A decimal is an optional sign, digits with at most one point among
or beside them, and an optional power of ten after `e` or `E`.  There is at least
one digit, and a power has digits of its own.  `Double.read?` gives the nearest
double and refuses a text whose nearest double is infinite.

*Writing.*  `positional` writes a decimal without a power of ten.  `plainText`
is the positional shortest decimal of a double.  `markedText` always shows that
the number is a double: positional with a point when the point falls from five
places before to sixteen places after the first digit, else with a power that
carries its sign: `1e+16`, `1e-6`.
-/

namespace Backoffice

open Text (isDigit digitsValue digits)

/-! ## Reading -/

namespace Decimal

/-- The power of ten at the end of a decimal: nothing, or `e` and an integer. -/
def readPower : List Char → Option Int
  | [] => some 0
  | c :: power => if c = 'e' ∨ c = 'E' then Text.integer? power else none

/-- A decimal without sign. -/
def readMagnitude (cs : List Char) : Option Decimal :=
  let whole := cs.takeWhile isDigit
  let afterWhole := cs.dropWhile isDigit
  let (fraction, rest) := match afterWhole with
    | '.' :: tail => (tail.takeWhile isDigit, tail.dropWhile isDigit)
    | _ => ([], afterWhole)
  if whole = [] ∧ fraction = [] then none
  else (readPower rest).map fun power =>
    ⟨digitsValue (whole ++ fraction), power - fraction.length⟩

/-- The sign of a decimal, set when it is negative, and its magnitude. -/
def read? : List Char → Option (Bool × Decimal)
  | '-' :: rest => (readMagnitude rest).map (true, ·)
  | '+' :: rest => (readMagnitude rest).map (false, ·)
  | cs => (readMagnitude cs).map (false, ·)

end Decimal

/-- The finite double nearest to a decimal text. -/
def Double.read? (cs : List Char) : Option Double :=
  ((Decimal.read? cs).map fun (negative, d) =>
    Double.ofDecimal negative d.significand d.exponent).filter Double.isFinite

/-! ## Writing -/

/-- The place of the decimal point, counted from the first digit. -/
def Decimal.pointPlace (d : Decimal) : Int := d.exponent + (digits d.significand).length

/-- The digits of a decimal with the point where it belongs. -/
def Decimal.positional (d : Decimal) : List Char :=
  let ds := digits d.significand
  if 0 ≤ d.exponent then ds ++ List.replicate d.exponent.natAbs '0'
  else if 0 < d.pointPlace then
    ds.take d.pointPlace.natAbs ++ '.' :: ds.drop d.pointPlace.natAbs
  else '0' :: '.' :: (List.replicate d.pointPlace.natAbs '0' ++ ds)

/-- The digits of a power of ten after its sign, which is always written. -/
def Decimal.powerText (power : Int) : List Char :=
  (if power < 0 then '-' else '+') :: digits power.natAbs

/-- One digit before the point, the others after it, and the power of ten. -/
def Decimal.scientific (d : Decimal) : List Char :=
  let mantissa := match digits d.significand with
    | first :: second :: rest => first :: '.' :: second :: rest
    | ds => ds
  mantissa ++ 'e' :: powerText (d.pointPlace - 1)

/-- A text with a `-` in front for a negative double. -/
def Double.signed (x : Double) (magnitude : List Char) : List Char :=
  if x.isNegative then '-' :: magnitude else magnitude

/-- The positional shortest decimal, with no point after a whole number. -/
def Double.plainText (x : Double) : List Char :=
  x.signed (x.shortest .up).positional

/-- The shortest decimal with a point or a power of ten. -/
def Double.markedText (x : Double) : List Char :=
  let d := x.shortest .even
  x.signed <|
    if d.significand = 0 then ['0', '.', '0']
    else if 0 ≤ d.exponent ∧ d.pointPlace ≤ 16 then d.positional ++ ['.', '0']
    else if -5 < d.pointPlace ∧ d.pointPlace ≤ 16 then d.positional
    else d.scientific

/-! ## Examples -/

example : (Double.ofDecimal false 1 15).markedText = "1000000000000000.0".toList := by
  decide +kernel
example : (Double.ofDecimal true 15 15).markedText = "-1.5e+16".toList := by decide +kernel
example : (Double.ofDecimal false 12 (-6)).markedText = "0.000012".toList := by decide +kernel
example : (Double.ofDecimal false 1 (-6)).markedText = "1e-6".toList := by decide +kernel
example : Double.negativeZero.markedText = "-0.0".toList := by decide +kernel

end Backoffice
