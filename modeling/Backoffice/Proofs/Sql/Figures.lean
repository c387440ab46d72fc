import Mathlib.Data.Rat.Floor
import Mathlib.Tactic.FieldSimp
import Mathlib.Tactic.Linarith
import Mathlib.Tactic.NormNum
import Backoffice.Proofs.Sql.Parsing

/-!
# What terms compute

A database computes with whole numbers and with decimals, and its dialects differ.

* The quotient of two whole numbers is cut to a whole number in `sqlite` and `postgres`, and a
  decimal in `mysql`.
* A remainder keeps the sign of the dividend.
* The second of a column is a text in `sqlite`, a decimal in `postgres` and a whole number in
  `mysql`.

Sums and products are taken as exact, so numbers are small enough for the database.  A quotient
that is a decimal is rounded, and how depends on the database, so it is left open (`Rounding`).
Rounding down undoes it for a whole number of seconds over those in a slot
(`Rounding.floor_round`).
-/

namespace Backoffice.Sql

open Text (signedDigits)

/-- A value that a term computes. -/
inductive Figure where
  | whole (n : Int)
  | decimal (q : ℚ)
  | text (cs : List Char)
deriving DecidableEq, Repr

/-- How quotients are rounded: to four places behind the point at least, and not at all where
they are whole. -/
structure Rounding where
  round : ℚ → ℚ
  near : ∀ q, |round q - q| ≤ 1 / 20000
  whole : ∀ n : Int, round n = n

/-- Quotients as they are. -/
def Rounding.exact : Rounding where
  round := id
  near q := by norm_num
  whole _ := rfl

namespace Figure

/-- The number that a figure is. -/
def number? : Figure → Option ℚ
  | whole n => some n
  | decimal q => some q
  | text _ => none

/-- A number rounded down. -/
def floor? : Figure → Option Figure
  | whole n => some (whole n)
  | decimal q => some (decimal ⌊q⌋)
  | text _ => none

/-- A figure as a whole number, where it is one or is written as one. -/
def whole? : Figure → Option Figure
  | whole n => some (whole n)
  | decimal q => if q = ⌊q⌋ then some (whole ⌊q⌋) else none
  | text cs => (Text.integer? cs).map whole

@[simp] theorem whole?_decimal (n : Int) : (decimal n).whole? = some (whole n) := by
  simp [whole?]

end Figure

/-- What an operator makes of two whole numbers. -/
def Sign.ofWhole? (d : Dialect) (rounding : Rounding) (a b : Int) : Sign → Option Figure
  | plus => some (.whole (a + b))
  | minus => some (.whole (a - b))
  | times => some (.whole (a * b))
  | divide =>
      if b = 0 then none
      else if d = .mysql then some (.decimal (rounding.round (a / b)))
      else some (.whole (a.tdiv b))
  | modulo => if b = 0 then none else some (.whole (a.tmod b))

/-- What an operator makes of two numbers that are not both whole.  No statement takes a
remainder of those. -/
def Sign.ofDecimal? (rounding : Rounding) (p q : ℚ) : Sign → Option Figure
  | plus => some (.decimal (p + q))
  | minus => some (.decimal (p - q))
  | times => some (.decimal (p * q))
  | divide => if q = 0 then none else some (.decimal (rounding.round (p / q)))
  | modulo => none

/-- What an operator makes of two figures. -/
def Sign.apply? (d : Dialect) (rounding : Rounding) (sign : Sign) :
    Figure → Figure → Option Figure
  | .whole a, .whole b => sign.ofWhole? d rounding a b
  | left, right => do sign.ofDecimal? rounding (← left.number?) (← right.number?)

/-- The type of whole numbers in a cast. -/
def Dialect.wholeType : Dialect → String
  | .sqlite => "INTEGER"
  | .postgres => "BIGINT"
  | .mysql => "SIGNED"

/-- The second of a column of points of time, in the form in which a dialect has it. -/
def Dialect.secondFigure (d : Dialect) (second : Int) : Figure :=
  match d with
  | .sqlite => .text (signedDigits second)
  | .postgres => .decimal second
  | .mysql => .whole second

/-- The term of the second of a column since 1970-01-01T00:00:00Z. -/
def Dialect.secondTerm (d : Dialect) (ref : ColumnRef) : Term :=
  match d with
  | .sqlite => .pair "strftime" (.string "%s") .comma (.column ref)
  | .postgres => .pair "extract" (.word "epoch") .taken (.column ref)
  | .mysql => .call "UNIX_TIMESTAMP" (.column ref)

/-- The column whose second a term is. -/
def Term.secondOf? : Dialect → Term → Option ColumnRef
  | .sqlite, pair "strftime" (string "%s") .comma (column ref) => some ref
  | .postgres, pair "extract" (word "epoch") .taken (column ref) => some ref
  | .mysql, call "UNIX_TIMESTAMP" (column ref) => some ref
  | _, _ => none

/-- The figure of a term in a row with the seconds of the columns. -/
def Term.value? (d : Dialect) (rounding : Rounding) (seconds : ColumnRef → Int) :
    Term → Option Figure
  | number n => some (.whole n)
  | operation sign left right => do
      sign.apply? d rounding (← left.value? d rounding seconds) (← right.value? d rounding seconds)
  | group t => t.value? d rounding seconds
  | call "floor" argument | call "FLOOR" argument => do
      (← argument.value? d rounding seconds).floor?
  | pair "CAST" argument .typed (word type) =>
      if type = d.wholeType then do (← argument.value? d rounding seconds).whole? else none
  | t => (t.secondOf? d).map fun ref => d.secondFigure (seconds ref)

section
variable {d : Dialect} {rounding : Rounding} {seconds : ColumnRef → Int} {left right : Term}

theorem Term.value?_operation {a b : Figure} (sign : Sign)
    (isLeft : left.value? d rounding seconds = some a)
    (isRight : right.value? d rounding seconds = some b) :
    (operation sign left right).value? d rounding seconds = sign.apply? d rounding a b := by
  rw [value?, isLeft, isRight]
  rfl

theorem Term.value?_floor {floor : String} (isFloor : floor = "floor" ∨ floor = "FLOOR")
    {argument : Term} {q : ℚ} (value : argument.value? d rounding seconds = some (.decimal q)) :
    (call floor argument).value? d rounding seconds = some (.decimal ⌊q⌋) := by
  rcases isFloor with rfl | rfl
  all_goals
    rw [value?, value]
    rfl

theorem Term.value?_secondTerm (d : Dialect) (rounding : Rounding) (seconds : ColumnRef → Int)
    (ref : ColumnRef) :
    (d.secondTerm ref).value? d rounding seconds = some (d.secondFigure (seconds ref)) := by
  cases d <;> rfl

end

/-! ## Rounding -/

/-- A quotient of whole numbers is not rounded up to a whole number, unless it is near to it. -/
theorem Rounding.floor_round (rounding : Rounding) (s : Int) {n : Nat} (positive : 0 < n)
    (small : n < 20000) : ⌊rounding.round (s / n)⌋ = ⌊(s / n : ℚ)⌋ := by
  have positive' : (0 : ℚ) < n := by exact_mod_cast positive
  by_cases divides : (n : Int) ∣ s
  · obtain ⟨k, rfl⟩ := divides
    have quotient : ((n * k : Int) : ℚ) / n = k := by
      push_cast
      field_simp
    rw [quotient, rounding.whole]
  · have low : (n : Int) * (s / n) + 1 ≤ s := by
      have := Int.emod_pos_of_not_dvd divides
      have := Int.mul_ediv_add_emod s n
      omega
    have high : s + 1 ≤ (n : Int) * (s / n) + n := by
      have := Int.emod_lt_of_pos s (Int.natCast_pos.2 positive)
      have := Int.mul_ediv_add_emod s n
      omega
    have margin : (1 / 20000 : ℚ) < 1 / n :=
      one_div_lt_one_div_of_lt positive' (by exact_mod_cast small)
    have above : ((s / n : Int) : ℚ) + 1 / n ≤ s / n := by
      rw [le_div_iff₀ positive', add_mul, one_div_mul_cancel positive'.ne', mul_comm]
      exact_mod_cast low
    have below : (s / n : ℚ) ≤ ((s / n : Int) : ℚ) + 1 - 1 / n := by
      rw [div_le_iff₀ positive', sub_mul, one_div_mul_cancel positive'.ne', add_mul, one_mul,
        mul_comm, le_sub_iff_add_le]
      exact_mod_cast high
    obtain ⟨notLess, notMore⟩ := abs_le.1 (rounding.near (s / n))
    rw [Rat.floor_intCast_div_natCast, Int.floor_eq_iff]
    constructor <;> linarith

end Backoffice.Sql
