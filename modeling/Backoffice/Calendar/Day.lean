/-!
# Calendar days

A `Day` is a number of days since 1970-01-01.  `Day.date` gives its year, month
and day of the month in the Gregorian calendar, carried on before its beginning
with a year zero, and `Day.ofDate?` goes back.  The calendar has the years
`firstYear` to `lastYear`.

Every division here rounds down.
-/

namespace Backoffice

/-- A calendar day. -/
structure Day where
  /-- Days since 1970-01-01. -/
  number : Int
deriving DecidableEq, Repr, Inhabited

/-- A year, a month from 1 and a day of the month from 1. -/
structure Date where
  year : Int
  /-- The month, 1 for January. -/
  month : Nat
  /-- The day of the month. -/
  day : Nat
deriving DecidableEq, Repr

/-! ## Years and months -/

namespace Calendar

/-- The first year of the calendar. -/
def firstYear : Int := -262143

/-- The last year of the calendar. -/
def lastYear : Int := 262142

/-- Whether a year has a 29th of February. -/
def isLeap (year : Int) : Bool := year % 4 = 0 && (year % 100 ≠ 0 || year % 400 = 0)

/-- The days from the first day of year 1 to the first day of a year. -/
def daysBeforeYear (year : Int) : Int :=
  let passed := year - 1
  365 * passed + passed / 4 - passed / 100 + passed / 400

/-- The lengths of the months of a year. -/
def monthLengths (year : Int) : List Nat :=
  [31, if isLeap year then 29 else 28, 31, 30, 31, 30, 31, 31, 30, 31, 30, 31]

/-- The days of a year before a month. -/
def daysBeforeMonth (year : Int) (month : Nat) : Nat :=
  ((monthLengths year).take (month - 1)).foldr (· + ·) 0

/-- The number of 1970-01-01, counted from the first day of year 1. -/
def epochNumber : Int := daysBeforeYear 1970

/-- The position of a day among runs of days with the given lengths: how many
runs are over, and how many days of its own run. -/
def locate : (lengths : List Nat) → (days : Nat) → Nat × Nat
  | [], days => (0, days)
  | length :: rest, days =>
      if days < length then (0, days)
      else
        let (runs, remaining) := locate rest (days - length)
        (runs + 1, remaining)

end Calendar

open Calendar

/-- Whether a date names a day of the calendar. -/
def Date.isValid (d : Date) : Bool :=
  firstYear ≤ d.year && d.year ≤ lastYear && 1 ≤ d.month && d.month ≤ 12 && 1 ≤ d.day &&
    d.day ≤ (monthLengths d.year).getD (d.month - 1) 0

namespace Day

/-! ## Days and dates -/

/-- The day of a date. -/
def ofDate (d : Date) : Day :=
  ⟨daysBeforeYear d.year + daysBeforeMonth d.year d.month + d.day - 1 - epochNumber⟩

/-- The day of a date that names one. -/
def ofDate? (d : Date) : Option Day := if d.isValid then some (ofDate d) else none

/-- The days from the first day of year 1. -/
def sinceYearOne (d : Day) : Int := d.number + epochNumber

/-- The year.  The quotient by the mean length of a year is at most one off. -/
def year (d : Day) : Int :=
  let days := d.sinceYearOne
  let guess := 400 * days / 146097 + 1
  if days < daysBeforeYear guess then guess - 1
  else if daysBeforeYear (guess + 1) ≤ days then guess + 1
  else guess

/-- The days of the year before this one. -/
def dayOfYear (d : Day) : Nat := (d.sinceYearOne - daysBeforeYear d.year).toNat

/-- The date. -/
def date (d : Day) : Date :=
  let (months, days) := locate (monthLengths d.year) d.dayOfYear
  ⟨d.year, months + 1, days + 1⟩

/-- The days since the last Monday. -/
def daysFromMonday (d : Day) : Nat := ((d.number + 3) % 7).toNat

/-- The day a number of days later. -/
def plus (d : Day) (days : Int) : Day := ⟨d.number + days⟩

/-- Whether a day has a year of the calendar. -/
def inCalendar (d : Day) : Bool :=
  daysBeforeYear firstYear ≤ d.sinceYearOne && d.sinceYearOne < daysBeforeYear (lastYear + 1)

/-- A day, when it is in the calendar. -/
def checked? (d : Day) : Option Day := if d.inCalendar then some d else none

/-! ## Starts of periods -/

/-- The Monday of the week. -/
def weekStart (d : Day) : Day := d.plus (-d.daysFromMonday)

/-- The first day of the month. -/
def monthStart (d : Day) : Day := d.plus (1 - d.date.day)

/-- The first day of the year. -/
def yearStart (d : Day) : Day := d.plus (-d.dayOfYear)

/-! ## Weeks of a year

A week belongs to the year its Thursday lies in, and the weeks of a year are
numbered from 1. -/

/-- The Thursday of the week. -/
def weekThursday (d : Day) : Day := d.weekStart.plus 3

/-- The year the week belongs to. -/
def weekYear (d : Day) : Int := d.weekThursday.year

/-- The number of the week in its year. -/
def weekNumber (d : Day) : Nat := d.weekThursday.dayOfYear / 7 + 1

end Day

example : (Day.mk 0).date = ⟨1970, 1, 1⟩ := by decide +kernel
example : Day.ofDate? ⟨2024, 2, 29⟩ = some ⟨19782⟩ := by decide +kernel
example : (Day.mk 19782).date = ⟨2024, 2, 29⟩ := by decide +kernel
example : Day.ofDate? ⟨2023, 2, 29⟩ = none := by decide +kernel
example : (Day.ofDate ⟨2021, 1, 3⟩).weekYear = 2020 ∧ (Day.ofDate ⟨2021, 1, 3⟩).weekNumber = 53 := by
  decide +kernel

end Backoffice
