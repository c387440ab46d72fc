import Backoffice.Calendar.Day

/-!
# Instants

An `Instant` is a point of time to the nanosecond, as seconds since the start of
1970-01-01 UTC and nanoseconds within the second.  A leap second is the second
before it with a billion nanoseconds or more.
-/

namespace Backoffice

/-- A point of time. -/
structure Instant where
  /-- Seconds since 1970-01-01T00:00:00Z, leap seconds not counted. -/
  seconds : Int
  /-- Nanoseconds, from a billion on in a leap second. -/
  nanos : Nat
deriving DecidableEq, Repr, Inhabited

/-- An hour, a minute, a second and its nanoseconds. -/
structure Clock where
  /-- The hour, below 24. -/
  hour : Nat
  /-- The minute, below 60. -/
  minute : Nat
  /-- The second, 60 in a leap second. -/
  second : Nat
  /-- The nanoseconds, below a billion. -/
  nanos : Nat
deriving DecidableEq, Repr

/-- Midnight. -/
def Clock.midnight : Clock := ⟨0, 0, 0, 0⟩

/-- Whether a clock shows a time of day.  Any minute may end in second 60. -/
def Clock.isValid (c : Clock) : Bool :=
  c.hour < 24 && c.minute < 60 && c.second ≤ 60 && c.nanos < 1000000000

namespace Instant

/-- The instant a clock shows on a day in UTC. -/
def ofClock (day : Day) (clock : Clock) : Instant :=
  let leap := clock.second = 60
  { seconds := day.number * 86400 + clock.hour * 3600 + clock.minute * 60 +
      (if leap then 59 else clock.second)
    nanos := clock.nanos + if leap then 1000000000 else 0 }

/-- The day in UTC. -/
def day (t : Instant) : Day := ⟨t.seconds / 86400⟩

/-- The clock in UTC. -/
def clock (t : Instant) : Clock :=
  let second := (t.seconds % 86400).toNat
  { hour := second / 3600
    minute := second / 60 % 60
    second := second % 60 + t.nanos / 1000000000
    nanos := t.nanos % 1000000000 }

/-- The instant a number of seconds later.  Leaving a leap second counts it as
the start of the second after it. -/
def plusSeconds (t : Instant) (seconds : Int) : Instant :=
  if seconds ≠ 0 ∧ 1000000000 ≤ t.nanos then
    if 0 < seconds then ⟨t.seconds + seconds, t.nanos - 1000000000⟩
    else ⟨t.seconds + 1 + seconds, t.nanos - 1000000000⟩
  else ⟨t.seconds + seconds, t.nanos⟩

/-- The same reading of the clock in a place a number of seconds east of UTC. -/
def shifted (t : Instant) (offset : Int) : Instant := ⟨t.seconds + offset, t.nanos⟩

/-- Whether the day of an instant is in the calendar. -/
def inCalendar (t : Instant) : Bool := t.day.inCalendar

/-- The instant a number of hours earlier, when it is in the calendar. -/
def hoursBefore? (t : Instant) (hours : Nat) : Option Instant :=
  let earlier := t.plusSeconds (-(hours * 3600))
  if earlier.inCalendar then some earlier else none

end Instant

end Backoffice
