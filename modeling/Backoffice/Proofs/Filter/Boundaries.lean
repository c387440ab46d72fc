import Backoffice.Filter.Predicate
import Backoffice.Proofs.Outcome

/-!
# The boundary of a relative time

The boundary is an instant in the calendar.  A field of points of time is compared with the
instant itself, and a field of days with the day of it in the time zone of the request.  That
day may be off the calendar although the instant is not, by the offset of the zone, and then
the request stops (`ResolvedField.boundary_eq_error`).  So a relative time on a field of days
has two ways to fail where one on points of time has one.
-/

namespace Backoffice

open Sql (Formula Value)

theorem Day.checked?_eq_some_iff {d e : Day} :
    d.checked? = some e ↔ d.inCalendar = true ∧ d = e := by
  rw [checked?]
  split
  next here => simp [here]
  next off => simp [off]

theorem Day.checked?_eq_none_iff {d : Day} : d.checked? = none ↔ d.inCalendar = false := by
  rw [checked?]
  split
  next here => simp [here]
  next off => simp [off]

/-- The clocks of a zone are on a day off the calendar. -/
def Zone.IsOffCalendar (z : Zone) (t : Instant) : Prop := (z.localTime t).day.inCalendar = false

theorem Zone.localDay?_eq_none_iff {z : Zone} {t : Instant} :
    z.localDay? t = none ↔ z.IsOffCalendar t := Day.checked?_eq_none_iff

namespace ResolvedField

variable {f : ResolvedField} {ctx : Context} {c : Condition} {formula : Formula}
variable {comparison : Sql.Comparison} {t : Instant} {value : Value} {e : Error}

theorem boundary_of_date (onDate : f.type = .date) : f.boundary ctx t = .ok (.instant t) :=
  if_neg (by simp [onDate])

theorem boundary_of_dateonly (onDay : f.type = .dateonly) : f.boundary ctx t =
    if (ctx.zone.localTime t).day.inCalendar then .ok (.day (ctx.zone.localTime t).day)
    else .error .stopped := by
  rw [boundary, if_pos onDay, Zone.localDay?, Day.checked?]
  split <;> rfl

theorem boundary_eq_error : f.boundary ctx t = .error e ↔
    f.type = .dateonly ∧ ctx.zone.IsOffCalendar t ∧ .stopped = e := by
  rw [boundary]
  split
  next onDay =>
    rw [Except.map_eq_error, Error.orStop_eq_error, Zone.localDay?_eq_none_iff]
    simp [onDay]
  next other => simp [other]

/-- A relative time compares the column of the field with its boundary. -/
theorem hoursFormula_eq_ok : f.hoursFormula ctx comparison c = .ok formula ↔
    ∃ count, c.operand = .hours count ∧ ∃ t, ctx.now.hoursBefore? count = some t ∧
      ∃ value, f.boundary ctx t = .ok value ∧ f.compares comparison value = formula := by
  rw [hoursFormula]
  split
  next count isHours =>
    rw [isHours]
    simp only [Operand.hours.injEq, exists_eq_left']
    cases ctx.now.hoursBefore? count with
    | none => simp
    | some t => simp [Except.map_eq_ok]
  next other =>
    refine iff_of_false (by simp [mismatch]) ?_
    rintro ⟨count, isHours, _⟩
    exact other count isHours

end ResolvedField

end Backoffice
