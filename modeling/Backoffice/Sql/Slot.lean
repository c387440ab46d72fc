import Backoffice.Sql.Template

/-!
# Quarter-hour slots

A statistic over time groups points of time by the quarter of an hour they lie
in.  The slot of a point of time is the start of that quarter in seconds since
1970-01-01T00:00:00Z, so `900 · ⌊s / 900⌋` for the second `s`.  `sqlite` has no
division that rounds down, and its remainder keeps the sign of the dividend, so
there the slot is `s - ((s % 900) + 900) % 900`.
-/

namespace Backoffice.Sql

/-- The seconds in a slot. -/
def slotSeconds : Nat := 900

/-- The slot of a point of time. -/
def Dialect.slotText (d : Dialect) (column : List Char) : List Char :=
  match d with
  | .postgres =>
      d.ofTemplate
        s!"CAST(floor(extract(epoch FROM ?) / {slotSeconds}) * {slotSeconds} AS BIGINT)" [column]
  | .mysql =>
      d.ofTemplate
        s!"CAST(FLOOR(UNIX_TIMESTAMP(?) / {slotSeconds}) * {slotSeconds} AS SIGNED)" [column]
  | .sqlite =>
      let seconds := d.ofTemplate "CAST(strftime('%s', ?) AS INTEGER)" [column]
      d.ofTemplate s!"(? - ((? % {slotSeconds}) + {slotSeconds}) % {slotSeconds})"
        [seconds, seconds]

end Backoffice.Sql
