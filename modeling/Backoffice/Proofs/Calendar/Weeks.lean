import Backoffice.Proofs.Calendar.Days

/-!
# Numbered weeks

A week goes from Monday to Sunday.  The first week of a year is the one with the 4th of
January in it, which may start in the year before.  From there on the weeks are counted, up
to the first week of the next year (`Day.IsInWeek`).

Every day lies in one numbered week of one year (`Day.isInWeek_iff`).  The Thursday decides:
that of the first week is one of the first seven days of the year (`Day.firstWeek_bounds`),
so a Thursday lies in the year whose weeks its own is counted in.
-/

namespace Backoffice

open Calendar

namespace Day

/-- The Monday of the first week of a year. -/
def firstWeek (year : Int) : Day := (ofDate ⟨year, 1, 4⟩).weekStart

/-- That a day lies in the week of a number among those of a year. -/
structure IsInWeek (d : Day) (year : Int) (number : Nat) : Prop where
  /-- Weeks are numbered from 1. -/
  positive : 1 ≤ number
  /-- The weeks before are over. -/
  notBefore : (firstWeek year).number + 7 * (number - 1) ≤ d.number
  /-- The week is not. -/
  before : d.number < (firstWeek year).number + 7 * number
  /-- The weeks of the next year have not begun. -/
  inYear : d.number < (firstWeek (year + 1)).number

/-! ## Mondays -/

/-- A week starts at most six days before, on a Monday. -/
theorem weekStart_bounds (d : Day) : d.weekStart.number ≤ d.number ∧
    d.number < d.weekStart.number + 7 ∧ (d.weekStart.number + 3) % 7 = 0 := by
  simp only [weekStart, plus, daysFromMonday]
  omega

/-- The Monday at most six days before is the start of the week. -/
theorem weekStart_eq {d monday : Day} (isMonday : (monday.number + 3) % 7 = 0)
    (notAfter : monday.number ≤ d.number) (near : d.number < monday.number + 7) :
    d.weekStart = monday := by
  have bounds := weekStart_bounds d
  apply eq_of_number_eq
  omega

/-- The Thursday of the first week is one of the first seven days of the year. -/
theorem firstWeek_bounds (year : Int) : ((firstWeek year).number + 3) % 7 = 0 ∧
    daysBeforeYear year ≤ (firstWeek year).number + 3 + epochNumber ∧
    (firstWeek year).number + 3 + epochNumber < daysBeforeYear year + 7 := by
  have bounds := weekStart_bounds (ofDate ⟨year, 1, 4⟩)
  have fourth : (ofDate ⟨year, 1, 4⟩).number = daysBeforeYear year + 3 - epochNumber := by
    simp [ofDate, daysBeforeMonth]
    omega
  rw [firstWeek]
  omega

/-! ## Numbers -/

variable {d e : Day} {year : Int} {number : Nat}

theorem sinceYearOne_weekThursday (d : Day) :
    d.weekThursday.sinceYearOne = d.weekStart.number + 3 + epochNumber := rfl

/-- A numbered week starts as many weeks after the first one. -/
theorem IsInWeek.weekStart_number (inWeek : d.IsInWeek year number) :
    d.weekStart.number = (firstWeek year).number + 7 * (number - 1) := by
  have first := firstWeek_bounds year
  have positive := inWeek.positive
  have notBefore := inWeek.notBefore
  have before := inWeek.before
  have bounds := weekStart_bounds d
  omega

/-- The weeks of a year are those whose Thursday lies in it. -/
theorem IsInWeek.weekYear_eq (inWeek : d.IsInWeek year number) : d.weekYear = year := by
  have first := firstWeek_bounds year
  have next := firstWeek_bounds (year + 1)
  have positive := inWeek.positive
  have start := inWeek.weekStart_number
  have inYear := inWeek.inYear
  have bounds := weekStart_bounds d
  apply year_eq_of_bounds
  · rw [sinceYearOne_weekThursday]
    omega
  · rw [sinceYearOne_weekThursday]
    omega

theorem isInWeek_weekNumber (d : Day) : d.IsInWeek d.weekYear d.weekNumber := by
  have first := firstWeek_bounds d.weekYear
  have next := firstWeek_bounds (d.weekYear + 1)
  have bounds := weekStart_bounds d
  have inYear := year_bounds d.weekThursday
  have ofYear := d.weekThursday.sinceYearOne_eq
  rw [sinceYearOne_weekThursday] at inYear ofYear
  have isYear : d.weekThursday.year = d.weekYear := rfl
  have isNumber : d.weekNumber = d.weekThursday.dayOfYear / 7 + 1 := rfl
  rw [isYear] at inYear ofYear
  constructor
  all_goals omega

/-- Each day lies in one numbered week of one year. -/
theorem isInWeek_iff : d.IsInWeek year number ↔ year = d.weekYear ∧ number = d.weekNumber := by
  constructor
  · intro inWeek
    obtain rfl := inWeek.weekYear_eq
    have start := inWeek.weekStart_number
    have start' := (isInWeek_weekNumber d).weekStart_number
    have positive := inWeek.positive
    have positive' := (isInWeek_weekNumber d).positive
    constructor
    · rfl
    · omega
  · rintro ⟨rfl, rfl⟩
    exact isInWeek_weekNumber d

/-- Days are in one numbered week when their weeks start on one Monday. -/
theorem weekStart_eq_iff :
    d.weekStart = e.weekStart ↔ d.weekYear = e.weekYear ∧ d.weekNumber = e.weekNumber := by
  constructor
  · intro same
    simp [weekYear, weekNumber, weekThursday, same]
  · rintro ⟨sameYear, sameNumber⟩
    have start := (isInWeek_weekNumber d).weekStart_number
    have start' := (isInWeek_weekNumber e).weekStart_number
    apply eq_of_number_eq
    rw [start, start', sameYear, sameNumber]

/-- A year has at most 53 weeks. -/
theorem weekNumber_le (d : Day) : d.weekNumber ≤ 53 := by
  have inYear := year_bounds d.weekThursday
  have ofYear := d.weekThursday.sinceYearOne_eq
  have short : daysBeforeYear (d.weekThursday.year + 1) ≤
      daysBeforeYear d.weekThursday.year + 366 := by
    simp only [daysBeforeYear]
    omega
  rw [weekNumber]
  omega

end Day

end Backoffice
