import Backoffice.Calendar.Instant

/-!
# Time zones

A `Zone` is a name, an offset and the changes of that offset.  A zone turns an
instant into the reading of its clocks by adding the offset in force.  Near the ends
of the calendar its clocks may be on a day that the calendar does not have.

Which names have a zone is up to the `ZoneDatabase`.
-/

namespace Backoffice

/-- A new offset from an instant on. -/
structure OffsetChange where
  /-- The first second of the new offset, since 1970-01-01T00:00:00Z. -/
  start : Int
  /-- Seconds east of UTC. -/
  offset : Int
deriving DecidableEq, Repr

/-- A time zone. -/
structure Zone where
  name : String
  /-- The offset before the first change, in seconds east of UTC. -/
  base : Int
  /-- The changes, in the order of time. -/
  changes : List OffsetChange
deriving DecidableEq, Repr

namespace Zone

/-- The zone of UTC. -/
def utc : Zone := ⟨"UTC", 0, []⟩

instance : Inhabited Zone := ⟨utc⟩

/-- The offset in force at a second: the last change that has happened. -/
def offsetAfter (seconds : Int) : (offset : Int) → List OffsetChange → Int
  | offset, [] => offset
  | offset, change :: rest =>
      if change.start ≤ seconds then offsetAfter seconds change.offset rest else offset

/-- The offset in force at an instant. -/
def offsetAt (z : Zone) (t : Instant) : Int := offsetAfter t.seconds z.base z.changes

/-- What the clocks of a zone show at an instant. -/
def localTime (z : Zone) (t : Instant) : Instant := t.shifted (z.offsetAt t)

/-- The day in a zone at an instant, when it is in the calendar. -/
def localDay? (z : Zone) (t : Instant) : Option Day := (z.localTime t).day.checked?

end Zone

/-- The time zones that can be named. -/
class ZoneDatabase where
  /-- The zone of an exact name. -/
  zone? : String → Option Zone

end Backoffice
