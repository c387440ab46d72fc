import Backoffice.Calendar.Zone
import Backoffice.Sql.Slot
import Mathlib.Data.Rat.Floor

/-!
# Slots and local days

A slot is a quarter of an hour in UTC.  In a zone whose offsets and changes are whole
quarters of an hour no change and no local midnight falls inside a slot, so the local
day of an instant is that of the start of its slot (`Zone.day_slotStart`).
-/

namespace Backoffice

open Sql (slotSeconds)

/-! ## The start of a slot -/

namespace Sql

/-- The start of the slot of a second. -/
def startOfSlot (s : Int) : Int := slotSeconds * ⌊(s / slotSeconds : ℚ)⌋

theorem startOfSlot_eq (s : Int) : startOfSlot s = slotSeconds * (s / slotSeconds) := by
  rw [startOfSlot, Rat.floor_intCast_div_natCast]

/-- A start of a slot is that of all seconds from it up to the next. -/
theorem startOfSlot_eq_iff (s s' : Int) : startOfSlot s = startOfSlot s' ↔
    ∃ k : Int, (slotSeconds * k ≤ s ∧ s < slotSeconds * (k + 1)) ∧
      slotSeconds * k ≤ s' ∧ s' < slotSeconds * (k + 1) := by
  rw [startOfSlot_eq, startOfSlot_eq, slotSeconds]
  constructor
  · intro same
    exact ⟨s / 900, by omega, by omega⟩
  · rintro ⟨k, within, within'⟩
    omega

end Sql

/-- The slot of an instant, as the second at which it starts. -/
def Instant.slot (t : Instant) : Int := Sql.startOfSlot t.seconds

theorem Instant.slot_eq (t : Instant) : t.slot = slotSeconds * (t.seconds / slotSeconds) :=
  Sql.startOfSlot_eq t.seconds

/-- The start of the slot of an instant. -/
def Instant.slotStart (t : Instant) : Instant := ⟨t.slot, 0⟩

/-- No midnight in UTC falls inside a slot. -/
theorem Instant.day_slotStart (t : Instant) : t.slotStart.day = t.day := by
  show Day.mk _ = Day.mk _
  simp only [slotStart, slot_eq, slotSeconds, Day.mk.injEq]
  omega

theorem Instant.inCalendar_slotStart (t : Instant) : t.slotStart.inCalendar = t.inCalendar := by
  rw [inCalendar, day_slotStart]
  rfl

namespace Zone

/-- Whether a number of seconds is a whole number of slots. -/
def isWhole (seconds : Int) : Bool := seconds % slotSeconds = 0

theorem isWhole_iff {seconds : Int} : isWhole seconds = true ↔ seconds % 900 = 0 :=
  decide_eq_true_iff

/-- Whether all offsets of a zone and the instants of their changes are whole numbers of
slots. -/
def isAligned (z : Zone) : Bool :=
  isWhole z.base && z.changes.all fun change => isWhole change.start && isWhole change.offset

/-! ## Aligned zones -/

section
variable {offset seconds : Int} {changes : List OffsetChange}

/-- A change that is aligned has happened at an instant when it has at the start of the
slot. -/
theorem offsetAfter_slot
    (aligned : changes.all fun change => isWhole change.start && isWhole change.offset) :
    offsetAfter (slotSeconds * (seconds / slotSeconds)) offset changes =
      offsetAfter seconds offset changes := by
  induction changes generalizing offset with
  | nil => rfl
  | cons change rest ih =>
      obtain ⟨here, later⟩ := Bool.and_eq_true_iff.1 aligned
      obtain ⟨start, _⟩ := Bool.and_eq_true_iff.1 here
      have same : change.start ≤ slotSeconds * (seconds / slotSeconds) ↔
          change.start ≤ seconds := by
        have := isWhole_iff.1 start
        simp only [slotSeconds]
        omega
      simp only [offsetAfter, same, ih later]

theorem isWhole_offsetAfter (base : isWhole offset)
    (aligned : changes.all fun change => isWhole change.start && isWhole change.offset) :
    isWhole (offsetAfter seconds offset changes) := by
  induction changes generalizing offset with
  | nil => exact base
  | cons change rest ih =>
      obtain ⟨here, later⟩ := Bool.and_eq_true_iff.1 aligned
      rw [offsetAfter]
      split
      · exact ih (Bool.and_eq_true_iff.1 here).2 later
      · exact base

end

/-- In an aligned zone a slot lies in one local day. -/
theorem day_slotStart {z : Zone} (aligned : z.isAligned = true) (t : Instant) :
    (z.localTime t.slotStart).day = (z.localTime t).day := by
  obtain ⟨base, changes⟩ := Bool.and_eq_true_iff.1 aligned
  have sameOffset : z.offsetAt t.slotStart = z.offsetAt t := by
    rw [offsetAt, offsetAt, Instant.slotStart, Instant.slot_eq]
    exact offsetAfter_slot changes
  have whole : z.offsetAt t % 900 = 0 := isWhole_iff.1 (isWhole_offsetAfter base changes)
  show Day.mk ((t.slot + z.offsetAt t.slotStart) / 86400) =
    Day.mk ((t.seconds + z.offsetAt t) / 86400)
  rw [sameOffset, Day.mk.injEq]
  simp only [Instant.slot_eq, slotSeconds]
  omega

end Zone

end Backoffice
