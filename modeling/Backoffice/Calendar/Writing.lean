import Backoffice.Calendar.Instant
import Backoffice.Text.Numeral

/-!
# Written days and instants

A year has at least four digits, and a sign as well when it is not one of the
years 0 to 9999.  Month, day, hour, minute and second have two digits.
-/

namespace Backoffice

open Text (digits paddedDigits)

namespace Calendar

/-- A year: four digits, or a sign and at least four digits. -/
def yearText (year : Int) : List Char :=
  if 0 ≤ year ∧ year ≤ 9999 then paddedDigits 4 year.natAbs
  else (if year < 0 then '-' else '+') :: paddedDigits 4 year.natAbs

/-- The names of the months, short. -/
def monthNames : List String :=
  ["Jan", "Feb", "Mar", "Apr", "May", "Jun", "Jul", "Aug", "Sep", "Oct", "Nov", "Dec"]

end Calendar

open Calendar

namespace Day

/-- Year, month and day joined by hyphens. -/
def text (d : Day) : List Char :=
  let date := d.date
  yearText date.year ++ '-' :: paddedDigits 2 date.month ++ '-' :: paddedDigits 2 date.day

/-- `text` as a string. -/
def toString (d : Day) : String := String.ofList d.text

/-- Day, month and year joined by slashes. -/
def dayLabel (d : Day) : List Char :=
  let date := d.date
  paddedDigits 2 date.day ++ '/' :: paddedDigits 2 date.month ++ '/' :: yearText date.year

/-- The number of the week and the year it belongs to. -/
def weekLabel (d : Day) : List Char :=
  'W' :: (paddedDigits 2 d.weekNumber ++ '-' :: yearText d.weekYear)

/-- The short name of the month and the last two digits of the year. -/
def monthLabel (d : Day) : List Char :=
  let date := d.date
  (monthNames.getD (date.month - 1) "").toList ++ ' ' :: paddedDigits 2 (date.year % 100).natAbs

/-- The year. -/
def yearLabel (d : Day) : List Char := yearText d.year

end Day

/-- The first `places` of nine fraction digits. -/
def Clock.fraction (c : Clock) (places : Nat) : List Char := (paddedDigits 9 c.nanos).take places

/-- Hour, minute and second joined by colons, and fraction digits after a point. -/
def Clock.text (c : Clock) (places : Nat) : List Char :=
  paddedDigits 2 c.hour ++ ':' :: paddedDigits 2 c.minute ++ ':' :: paddedDigits 2 c.second ++
    '.' :: c.fraction places

/-- The day and the clock in UTC with a separator between them. -/
def Instant.text (t : Instant) (separator : Char) (places : Nat) : List Char :=
  t.day.text ++ separator :: t.clock.text places

end Backoffice
