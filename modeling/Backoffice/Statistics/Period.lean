import Backoffice.Calendar.Writing
import Backoffice.Number.Double
import Backoffice.Statistics.Request

/-!
# Periods of a line

The periods of a line are days, weeks from Monday to Sunday, months or years.  A
period is known by its first day.  `Tallies` adds the figures of a line up by
period, in the order of time.
-/

namespace Backoffice

/-- The first day of the period that a day lies in. -/
def TimeRange.start (range : TimeRange) (d : Day) : Day :=
  match range with
  | day => d
  | week => d.weekStart
  | month => d.monthStart
  | year => d.yearStart

/-- The first day of the period that a day lies in, when it is in the calendar.  The
calendar begins in the middle of a week. -/
def TimeRange.start? (range : TimeRange) (d : Day) : Option Day := (range.start d).checked?

/-- The label of the period that starts on a day. -/
def TimeRange.label (range : TimeRange) (start : Day) : String :=
  String.ofList <| match range with
    | day => start.dayLabel
    | week => start.weekLabel
    | month => start.monthLabel
    | year => start.yearLabel

/-- The figures of a period.  Counts are kept in 64 bits. -/
structure Tally where
  /-- The first day of the period. -/
  start : Day
  /-- The sum of the counts. -/
  count : Nat := 0
  /-- The sum of the figures. -/
  sum : Double := .zero
deriving DecidableEq, Repr

/-- A tally with one more count and figure. -/
def Tally.add (t : Tally) (count : Nat) (figure : Double) : Tally :=
  { t with count := (t.count + count) % Text.word64, sum := t.sum + figure }

/-- The tallies of some periods, in the order of time. -/
abbrev Tallies := List Tally

/-- The tallies with a count and a figure added to those of a period. -/
def Tallies.add (start : Day) (count : Nat) (figure : Double) : Tallies → Tallies
  | [] => [Tally.add { start } count figure]
  | tally :: rest =>
      if start.number < tally.start.number then Tally.add { start } count figure :: tally :: rest
      else if start = tally.start then tally.add count figure :: rest
      else tally :: Tallies.add start count figure rest

end Backoffice
