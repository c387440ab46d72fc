import Backoffice.Calendar.OffsetTables
import Backoffice.Calendar.ZoneNames

/-!
# Recorded zones

A database of time zones for running the library on its own.  It knows all names, and
of some zones the offsets of twenty years.  The other zones get the clock of UTC here,
so it can only stand for a full database where neither they nor other years matter.
-/

namespace Backoffice

/-- The recorded zone of a name. -/
def Calendar.recordedZone? (name : String) : Option Zone :=
  if zoneNames.contains name then
    some (Zone.ofTable name ((offsetTables.lookup name).getD (0, [])))
  else none

end Backoffice
