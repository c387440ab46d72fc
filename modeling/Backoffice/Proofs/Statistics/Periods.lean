import Mathlib.Algebra.Order.Ring.Int
import Backoffice.Proofs.Calendar.Weeks
import Backoffice.Statistics.Period

/-!
# Periods of the calendar

A period is known by its first day.  That is not after any day of the period, and all days
from it on up to one of the period belong to the period (`StartsPeriods`).  So taking days
back to first days changes no first day and keeps the order of days, and no other period
starts inside one.

The periods are those of the calendar (`periods_follow_calendar`): days have one first day
exactly when they are the same, lie in one numbered week, in one month of a year, or in one
year.
-/

namespace Backoffice

open Calendar

/-- That a function takes each day back to the first day of its period. -/
structure StartsPeriods (start : Day → Day) : Prop where
  le : ∀ d, (start d).number ≤ d.number
  /-- Between a first day and a day of the period there are no others. -/
  eq_of_between : ∀ d e, (start d).number ≤ e.number → e.number ≤ d.number → start e = start d

namespace StartsPeriods

variable {start : Day → Day}

/-- A first day is the first day of its period. -/
theorem idem (starts : StartsPeriods start) (d : Day) : start (start d) = start d :=
  starts.eq_of_between d (start d) le_rfl (starts.le d)

/-- A period that starts after the first day of a day starts after the day. -/
theorem lt_of_lt (starts : StartsPeriods start) {d e : Day}
    (later : (start d).number < (start e).number) : d.number < (start e).number := by
  by_contra inside
  have same := starts.eq_of_between d (start e) later.le (not_lt.1 inside)
  rw [starts.idem] at same
  rw [same] at later
  exact lt_irrefl _ later

/-- Later days do not have earlier first days. -/
theorem mono (starts : StartsPeriods start) {d e : Day} (notAfter : d.number ≤ e.number) :
    (start d).number ≤ (start e).number := by
  by_contra earlier
  have after := starts.lt_of_lt (not_le.1 earlier)
  have notBefore := starts.le d
  omega

end StartsPeriods

/-! ## Weeks, months and years -/

namespace Day

variable {d e : Day}

theorem startsPeriods_weekStart : StartsPeriods weekStart where
  le d := (weekStart_bounds d).1
  eq_of_between d e notBefore notAfter := by
    have bounds := weekStart_bounds d
    apply weekStart_eq
    · exact bounds.2.2
    · exact notBefore
    · omega

theorem number_ofDate (year : ℤ) (month day : ℕ) :
    (ofDate ⟨year, month, day⟩).number = (ofDate ⟨year, month, 1⟩).number + day - 1 := by
  simp only [ofDate]
  omega

theorem monthStart_eq (d : Day) : d.monthStart = ofDate ⟨d.date.year, d.date.month, 1⟩ := by
  apply eq_of_number_eq
  have start := number_ofDate d.date.year d.date.month d.date.day
  have isDate : (ofDate ⟨d.date.year, d.date.month, d.date.day⟩).number = d.number :=
    congrArg number d.ofDate_date
  simp only [monthStart, plus]
  omega

/-- The days of a month, from the first one to a day of it, have its dates. -/
theorem date_of_between (notBefore : d.monthStart.number ≤ e.number)
    (notAfter : e.number ≤ d.number) :
    ∃ day, e.date = ⟨d.date.year, d.date.month, day⟩ := by
  have proper := d.isProper_date
  have first := proper.day
  have inMonth := proper.inMonth
  have start := number_ofDate d.date.year d.date.month d.date.day
  have isDate : (ofDate ⟨d.date.year, d.date.month, d.date.day⟩).number = d.number :=
    congrArg number d.ofDate_date
  rw [monthStart_eq] at notBefore
  obtain ⟨before, sum⟩ : ∃ before : ℕ, d.number = e.number + before :=
    ⟨(d.number - e.number).toNat, by omega⟩
  have isDay : e = ofDate ⟨d.date.year, d.date.month, d.date.day - before⟩ := by
    apply eq_of_number_eq
    rw [number_ofDate]
    omega
  refine ⟨d.date.day - before, ?_⟩
  rw [isDay]
  apply date_ofDate
  exact ⟨proper.month, show 1 ≤ d.date.day - before by omega, (Nat.sub_le _ _).trans inMonth⟩

theorem startsPeriods_monthStart : StartsPeriods monthStart where
  le d := by
    have := d.isProper_date.day
    simp only [monthStart, plus]
    omega
  eq_of_between d e notBefore notAfter := by
    obtain ⟨day, isDate⟩ := date_of_between notBefore notAfter
    rw [monthStart_eq, monthStart_eq, isDate]

theorem date_monthStart (d : Day) : d.monthStart.date = ⟨d.date.year, d.date.month, 1⟩ := by
  have proper := d.isProper_date
  rw [monthStart_eq]
  apply date_ofDate
  exact ⟨proper.month, le_rfl, proper.day.trans proper.inMonth⟩

/-- Months start on one day when they are one month of one year. -/
theorem monthStart_eq_iff : d.monthStart = e.monthStart ↔
    d.date.year = e.date.year ∧ d.date.month = e.date.month := by
  constructor
  · intro same
    have dates := congrArg date same
    simp only [date_monthStart, Date.mk.injEq] at dates
    exact ⟨dates.1, dates.2.1⟩
  · rintro ⟨sameYear, sameMonth⟩
    rw [monthStart_eq, monthStart_eq, sameYear, sameMonth]

theorem sinceYearOne_yearStart (d : Day) : d.yearStart.sinceYearOne = daysBeforeYear d.year := by
  have sum := d.sinceYearOne_eq
  simp only [yearStart, plus, sinceYearOne] at sum ⊢
  omega

theorem year_of_between (notBefore : d.yearStart.number ≤ e.number)
    (notAfter : e.number ≤ d.number) : e.year = d.year := by
  have bounds := year_bounds d
  have start := sinceYearOne_yearStart d
  simp only [sinceYearOne] at bounds start
  apply year_eq_of_bounds
  · rw [sinceYearOne]
    omega
  · rw [sinceYearOne]
    omega

theorem yearStart_of_year_eq (same : d.year = e.year) : d.yearStart = e.yearStart := by
  have start := sinceYearOne_yearStart d
  have start' := sinceYearOne_yearStart e
  rw [sinceYearOne] at start start'
  rw [same] at start
  apply eq_of_number_eq
  omega

theorem startsPeriods_yearStart : StartsPeriods yearStart where
  le d := by
    simp only [yearStart, plus]
    omega
  eq_of_between _ _ notBefore notAfter :=
    yearStart_of_year_eq (year_of_between notBefore notAfter)

theorem year_yearStart (d : Day) : d.yearStart.year = d.year :=
  year_of_between le_rfl (startsPeriods_yearStart.le d)

/-- Years start on one day when they are one. -/
theorem yearStart_eq_iff : d.yearStart = e.yearStart ↔ d.year = e.year := by
  constructor
  · intro same
    rw [← year_yearStart d, same, year_yearStart]
  · exact yearStart_of_year_eq

end Day

/-! ## Periods of a length -/

namespace TimeRange

variable (range : TimeRange)

theorem startsPeriods : StartsPeriods range.start := by
  cases range with
  | day => exact ⟨fun _ => le_rfl, fun d e notBefore notAfter =>
      Day.eq_of_number_eq (le_antisymm notAfter notBefore)⟩
  | week => exact Day.startsPeriods_weekStart
  | month => exact Day.startsPeriods_monthStart
  | year => exact Day.startsPeriods_yearStart

/-- That two days lie in one period of the calendar: they are one day, or lie in one
numbered week, in one month of a year, or in one year. -/
def Shares (d e : Day) : Prop :=
  match range with
  | day => d = e
  | week => ∃ year number, d.IsInWeek year number ∧ e.IsInWeek year number
  | month => d.date.year = e.date.year ∧ d.date.month = e.date.month
  | year => d.date.year = e.date.year

/-- Days have one first day when they lie in one period. -/
theorem start_eq_iff {d e : Day} : range.start d = range.start e ↔ range.Shares d e := by
  cases range with
  | day => exact Iff.rfl
  | week =>
      show d.weekStart = e.weekStart ↔
        ∃ year number, d.IsInWeek year number ∧ e.IsInWeek year number
      rw [Day.weekStart_eq_iff]
      constructor
      · rintro ⟨sameYear, sameNumber⟩
        exact ⟨d.weekYear, d.weekNumber, d.isInWeek_weekNumber,
          Day.isInWeek_iff.2 ⟨sameYear, sameNumber⟩⟩
      · rintro ⟨year, number, inWeek, inWeek'⟩
        obtain ⟨rfl, rfl⟩ := Day.isInWeek_iff.1 inWeek
        exact Day.isInWeek_iff.1 inWeek'
  | month => exact Day.monthStart_eq_iff
  | year => exact Day.yearStart_eq_iff

/-- A period starts in the year of its days, or at most six days before them. -/
theorem start_bounds (d : Day) : d.yearStart.number ≤ (range.start d).number ∨
    d.number ≤ (range.start d).number + 6 := by
  cases range with
  | day => exact .inr (by simp [start])
  | week =>
      have bounds := Day.weekStart_bounds d
      exact .inr (by simp only [start]; omega)
  | month =>
      left
      have inYear : d.monthStart.year = d.year := congrArg Date.year d.date_monthStart
      rw [← Day.yearStart_of_year_eq inYear]
      exact Day.startsPeriods_yearStart.le d.monthStart
  | year => exact .inl le_rfl

/-- Periods start in the calendar but for those of the first six days. -/
theorem inCalendar_start {d : Day} (inCalendar : d.inCalendar = true)
    (away : daysBeforeYear firstYear + 6 ≤ d.sinceYearOne) :
    (range.start d).inCalendar = true := by
  have notAfter := range.startsPeriods.le d
  have firstDay := d.sinceYearOne_yearStart
  have notEarly := daysBeforeYear_mono (d.year_mem inCalendar).1
  have bounds := range.start_bounds d
  rw [Day.inCalendar_iff] at inCalendar ⊢
  simp only [Day.sinceYearOne] at *
  omega

end TimeRange

/-- Periods are those of the calendar.  Days have one first day exactly when they share a
period.  First days are not after their days, stay as they are, keep the order of days and lie
in the calendar, and no other period starts inside one.  The label of a week tells the number
of the week and the year of its days. -/
theorem periods_follow_calendar (range : TimeRange) :
    (∀ d e, range.start d = range.start e ↔ range.Shares d e) ∧
    (∀ d, (range.start d).number ≤ d.number) ∧
    (∀ d, range.start (range.start d) = range.start d) ∧
    (∀ d e : Day, d.number ≤ e.number → (range.start d).number ≤ (range.start e).number) ∧
    (∀ d e, (range.start d).number < (range.start e).number → d.number < (range.start e).number) ∧
    (∀ d : Day, d.inCalendar = true → daysBeforeYear firstYear + 6 ≤ d.sinceYearOne →
      (range.start d).inCalendar = true) ∧
    ∀ d, ∃ year number, 1 ≤ number ∧ number ≤ 53 ∧
      TimeRange.week.label (TimeRange.week.start d) = String.ofList
        ('W' :: (Text.paddedDigits 2 number ++ '-' :: yearText year)) ∧
      ∀ e, TimeRange.week.start e = TimeRange.week.start d ↔ e.IsInWeek year number := by
  have starts := range.startsPeriods
  refine ⟨fun d e => range.start_eq_iff, starts.le, starts.idem, fun d e => starts.mono,
    fun d e => starts.lt_of_lt, fun d => range.inCalendar_start, fun d => ?_⟩
  have sameWeek : d.weekStart.weekStart = d.weekStart := Day.startsPeriods_weekStart.idem d
  obtain ⟨sameYear, sameNumber⟩ := Day.weekStart_eq_iff.1 sameWeek
  refine ⟨d.weekYear, d.weekNumber, d.isInWeek_weekNumber.positive, d.weekNumber_le, ?_, ?_⟩
  · show String.ofList d.weekStart.weekLabel = _
    rw [Day.weekLabel, sameYear, sameNumber]
  · intro e
    show e.weekStart = d.weekStart ↔ _
    rw [Day.weekStart_eq_iff, Day.isInWeek_iff, eq_comm, eq_comm (a := e.weekNumber)]

end Backoffice
