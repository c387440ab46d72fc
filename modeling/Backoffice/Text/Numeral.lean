/-!
# Decimal numerals

Whole numbers read from and written as decimal digits.  A numeral has at least
one digit and ASCII digits only; leading zeros are allowed.  A signed numeral
may start with one `+` or `-`, an unsigned one with one `+`.
-/

namespace Backoffice.Text

/-- Whether a character is an ASCII digit. -/
def isDigit (c : Char) : Bool := '0' ≤ c && c ≤ '9'

/-- The number a digit stands for. -/
def digitValue (c : Char) : Nat := c.toNat - '0'.toNat

/-- The number a run of digits stands for. -/
def digitsValue (digits : List Char) : Nat :=
  digits.foldl (fun n c => 10 * n + digitValue c) 0

/-- A numeral without sign. -/
def natural? (cs : List Char) : Option Nat :=
  if cs ≠ [] ∧ cs.all isDigit then some (digitsValue cs) else none

/-- A numeral with an optional sign. -/
def integer? : List Char → Option Int
  | '+' :: digits => (natural? digits).map Int.ofNat
  | '-' :: digits => (natural? digits).map fun n => -Int.ofNat n
  | digits => (natural? digits).map Int.ofNat

/-- Whether a number is one of the signed 64-bit integers. -/
def isInt64 (n : Int) : Bool := -Nat.pow 2 63 ≤ n && n < Nat.pow 2 63

/-- A signed numeral of a 64-bit integer. -/
def int64? (cs : List Char) : Option Int := (integer? cs).filter isInt64

/-- An unsigned numeral, with an optional `+`, of a number below `bound`. -/
def below? (bound : Nat) (cs : List Char) : Option Nat :=
  let digits := match cs with
    | '+' :: rest => rest
    | _ => cs
  (natural? digits).filter (· < bound)

/-- The bound of the unsigned 64-bit integers. -/
def word64 : Nat := Nat.pow 2 64

/-- The bound of the unsigned 32-bit integers. -/
def word32 : Nat := Nat.pow 2 32

/-- The digits of a number. -/
def digits (n : Nat) : List Char := Nat.toDigits 10 n

/-- The digits of a number, filled up with leading zeros to a width. -/
def paddedDigits (width n : Nat) : List Char :=
  List.replicate (width - (digits n).length) '0' ++ digits n

/-- The digits of an integer, after a `-` when it is negative. -/
def signedDigits (n : Int) : List Char :=
  if n < 0 then '-' :: digits n.natAbs else digits n.natAbs

/-- `signedDigits` as a string. -/
def showInt (n : Int) : String := String.ofList (signedDigits n)

/-- `digits` as a string. -/
def showNat (n : Nat) : String := String.ofList (digits n)

example : int64? ['-', '0', '7'] = some (-7) := by decide
example : int64? ['-'] = none ∧ int64? [] = none ∧ int64? ['+', '-', '1'] = none := by decide

end Backoffice.Text
