import Mathlib.Algebra.GroupWithZero.Nat
import Mathlib.Algebra.Ring.Int.Defs
import Mathlib.Data.List.GetD
import Mathlib.Tactic.ByContra
import Backoffice.Calendar.Day

/-!
# Dates of days

A day has the date that names it (`Day.ofDate_date`), and in the calendar that date is a
valid one (`Day.isValid_date`).  A date whose month and day there are is that of one day
(`Day.date_ofDate`).

The year is guessed from the mean length of a year.  The guess is at most one off
(`guess_bounds`), and the two comparisons after it put it right (`year_bounds`).  The month
is found by its place among the lengths of the months of that year (`locate_spec`), and it
is the only one with room for the day (`locate_eq`).
-/

namespace Backoffice

namespace Calendar

/-! ## Years -/

/-- The months make up the year. -/
theorem daysBeforeYear_succ (year : Int) :
    daysBeforeYear (year + 1) = daysBeforeYear year + (monthLengths year).sum := by
  have leap : isLeap year = decide (year % 4 = 0 ∧ (year % 100 ≠ 0 ∨ year % 400 = 0)) := by
    simp [isLeap]
  simp only [daysBeforeYear, monthLengths, leap, List.sum_cons, List.sum_nil]
  split
  next isLeap =>
    rw [decide_eq_true_eq] at isLeap
    omega
  next notLeap =>
    rw [decide_eq_true_eq] at notLeap
    omega

theorem le_of_mem_monthLengths {year : Int} {length : Nat} (member : length ∈ monthLengths year) :
    length ≤ 31 := by
  simp only [monthLengths, List.mem_cons, List.not_mem_nil, or_false] at member
  cases leap : isLeap year with
  | false =>
      simp only [leap, Bool.false_eq_true, if_false] at member
      omega
  | true =>
      simp only [leap, if_true] at member
      omega

theorem daysBeforeYear_mono {year later : Int} (before : year ≤ later) :
    daysBeforeYear year ≤ daysBeforeYear later := by
  simp only [daysBeforeYear]
  omega

/-- A number of days divided by the mean length of a year is at most one year off. -/
theorem guess_bounds (days : Int) :
    daysBeforeYear (400 * days / 146097) ≤ days ∧
      days < daysBeforeYear (400 * days / 146097 + 1 + 1 + 1) := by
  simp only [daysBeforeYear]
  omega

/-- A day lies in its year. -/
theorem year_bounds (d : Day) :
    daysBeforeYear d.year ≤ d.sinceYearOne ∧ d.sinceYearOne < daysBeforeYear (d.year + 1) := by
  rw [Day.year]
  have guess := guess_bounds d.sinceYearOne
  generalize 400 * d.sinceYearOne / 146097 = quotient at *
  split
  next early =>
    rw [Int.sub_add_cancel, Int.add_sub_cancel]
    exact ⟨guess.1, early⟩
  next notEarly =>
    rw [Int.not_lt] at notEarly
    split
    next late => exact ⟨late, guess.2⟩
    next notLate => exact ⟨notEarly, Int.not_le.1 notLate⟩

/-- A day lies in one year only. -/
theorem year_eq_of_bounds {d : Day} {year : Int} (notBefore : daysBeforeYear year ≤ d.sinceYearOne)
    (before : d.sinceYearOne < daysBeforeYear (year + 1)) : d.year = year := by
  have bounds := year_bounds d
  apply Int.le_antisymm
  · by_contra late
    have : daysBeforeYear (year + 1) ≤ daysBeforeYear d.year := daysBeforeYear_mono (by omega)
    omega
  · by_contra early
    have : daysBeforeYear (d.year + 1) ≤ daysBeforeYear year := daysBeforeYear_mono (by omega)
    omega

/-! ## Months -/

/-- A day of some runs of days is in one of them, after the days of those before it. -/
theorem locate_spec {lengths : List Nat} {days : Nat} (within : days < lengths.sum) :
    (locate lengths days).1 < lengths.length ∧
      (locate lengths days).2 < lengths.getD (locate lengths days).1 0 ∧
      (lengths.take (locate lengths days).1).sum + (locate lengths days).2 = days := by
  induction lengths generalizing days with
  | nil => simp at within
  | cons length rest ih =>
      rw [List.sum_cons] at within
      rw [locate]
      split
      next here => simp [here]
      next later =>
        have fewer : days - length < rest.sum := by omega
        obtain ⟨isRun, inRun, total⟩ := ih fewer
        refine ⟨by simpa using isRun, by simpa using inRun, ?_⟩
        simp only [List.take_succ_cons, List.sum_cons]
        omega

/-- A day of a run, after the days of those before it, is found in that run. -/
theorem locate_eq {lengths : List Nat} {runs days : Nat} (inRun : days < lengths.getD runs 0) :
    locate lengths ((lengths.take runs).sum + days) = (runs, days) := by
  induction lengths generalizing runs with
  | nil => simp at inRun
  | cons length rest ih =>
      cases runs with
      | zero =>
          rw [List.getD_cons_zero] at inRun
          simp [locate, inRun]
      | succ runs =>
          rw [List.getD_cons_succ] at inRun
          simp [locate, Nat.add_assoc, ih inRun]

/-- The days of a run end before those of all runs do. -/
theorem sum_take_add_lt {lengths : List Nat} {runs days : Nat}
    (inRun : days < lengths.getD runs 0) : (lengths.take runs).sum + days < lengths.sum := by
  induction lengths generalizing runs with
  | nil => simp at inRun
  | cons length rest ih =>
      cases runs with
      | zero =>
          rw [List.getD_cons_zero] at inRun
          simp
          omega
      | succ runs =>
          rw [List.getD_cons_succ] at inRun
          have := ih inRun
          simp
          omega

end Calendar

open Calendar

/-- That a date has a month of the year and a day of that month. -/
structure Date.IsProper (d : Date) : Prop where
  month : 1 ≤ d.month
  day : 1 ≤ d.day
  /-- The month, which is one of the year, has that many days. -/
  inMonth : d.day ≤ (monthLengths d.year).getD (d.month - 1) 0

theorem Date.IsProper.month_le {d : Date} (proper : d.IsProper) : d.month ≤ 12 := by
  by_contra late
  have none : (monthLengths d.year).getD (d.month - 1) 0 = 0 :=
    List.getD_eq_default _ _ (show 12 ≤ d.month - 1 by omega)
  have first := proper.day
  have inMonth := proper.inMonth
  omega

theorem Day.eq_of_number_eq {a b : Day} (same : a.number = b.number) : a = b := by
  cases a
  cases b
  exact congrArg Day.mk same

namespace Day

variable (d : Day)

theorem sinceYearOne_eq : d.sinceYearOne = daysBeforeYear d.year + d.dayOfYear := by
  have bounds := year_bounds d
  rw [dayOfYear]
  omega

theorem dayOfYear_lt : d.dayOfYear < (monthLengths d.year).sum := by
  have bounds := year_bounds d
  rw [daysBeforeYear_succ] at bounds
  rw [dayOfYear]
  omega

/-! ## Dates -/

/-- The months of the year that are over. -/
def monthsBefore : Nat := (locate (monthLengths d.year) d.dayOfYear).1

/-- The days of the month that are over. -/
def daysOfMonth : Nat := (locate (monthLengths d.year) d.dayOfYear).2

theorem date_eq : d.date = ⟨d.year, d.monthsBefore + 1, d.daysOfMonth + 1⟩ := rfl

/-- A day is the day of its date. -/
theorem ofDate_date : ofDate d.date = d := by
  have total : daysBeforeMonth d.year (d.monthsBefore + 1) + d.daysOfMonth = d.dayOfYear :=
    (locate_spec d.dayOfYear_lt).2.2
  have since : d.number + epochNumber = _ := d.sinceYearOne_eq
  apply eq_of_number_eq
  simp only [date_eq, ofDate]
  omega

theorem isProper_date : d.date.IsProper := by
  obtain ⟨_, inMonth, _⟩ := locate_spec d.dayOfYear_lt
  exact ⟨Nat.le_add_left 1 _, Nat.le_add_left 1 _, inMonth⟩

/-- A date is that of its day. -/
theorem date_ofDate {date : Date} (proper : date.IsProper) : (ofDate date).date = date := by
  obtain ⟨year, month, day⟩ := date
  obtain ⟨months, rfl⟩ : ∃ months, month = months + 1 := Nat.exists_eq_add_of_le' proper.month
  obtain ⟨days, rfl⟩ : ∃ days, day = days + 1 := Nat.exists_eq_add_of_le' proper.day
  have inMonth : days < (monthLengths year).getD months 0 := proper.inMonth
  have since : (ofDate ⟨year, months + 1, days + 1⟩).sinceYearOne =
      daysBeforeYear year + ((((monthLengths year).take months).sum + days : Nat) : Int) := by
    simp only [ofDate, sinceYearOne, daysBeforeMonth, Nat.add_sub_cancel, List.sum]
    omega
  have isYear : (ofDate ⟨year, months + 1, days + 1⟩).year = year := by
    have within := sum_take_add_lt inMonth
    apply year_eq_of_bounds
    · omega
    · rw [daysBeforeYear_succ]
      omega
  have isDay : (ofDate ⟨year, months + 1, days + 1⟩).dayOfYear =
      ((monthLengths year).take months).sum + days := by
    rw [dayOfYear, isYear, since]
    omega
  rw [date, isDay, isYear, locate_eq inMonth]

/-- Month and day of a date have two digits. -/
theorem date_lt : d.date.month < 100 ∧ d.date.day < 100 := by
  obtain ⟨isMonth, inMonth, _⟩ := locate_spec d.dayOfYear_lt
  have months : d.monthsBefore < (monthLengths d.year).length := isMonth
  have days : d.daysOfMonth < (monthLengths d.year)[d.monthsBefore] := by
    have isLength : (monthLengths d.year).getD d.monthsBefore 0 =
        (monthLengths d.year)[d.monthsBefore] := by
      rw [List.getD_eq_getElem?_getD, List.getElem?_eq_getElem months, Option.getD_some]
    exact isLength ▸ inMonth
  have short := le_of_mem_monthLengths (List.getElem_mem months)
  rw [date_eq]
  constructor
  · show d.monthsBefore + 1 < 100
    exact Nat.lt_of_le_of_lt months (show 12 < 100 by decide)
  · show d.daysOfMonth + 1 < 100
    exact Nat.lt_of_le_of_lt (Nat.le_trans days short) (by decide)

theorem inCalendar_iff : d.inCalendar = true ↔
    daysBeforeYear firstYear ≤ d.sinceYearOne ∧ d.sinceYearOne < daysBeforeYear (lastYear + 1) := by
  rw [inCalendar, Bool.and_eq_true, decide_eq_true_iff, decide_eq_true_iff]

theorem year_mem (inCalendar : d.inCalendar = true) : firstYear ≤ d.year ∧ d.year ≤ lastYear := by
  rw [inCalendar_iff] at inCalendar
  have bounds := year_bounds d
  constructor
  · refine Int.not_lt.1 fun early => ?_
    have : daysBeforeYear (d.year + 1) ≤ daysBeforeYear firstYear := daysBeforeYear_mono early
    omega
  · refine Int.not_lt.1 fun late => ?_
    have : daysBeforeYear (lastYear + 1) ≤ daysBeforeYear d.year := daysBeforeYear_mono late
    omega

/-- The date of a day in the calendar names a day. -/
theorem isValid_date (inCalendar : d.inCalendar = true) : d.date.isValid = true := by
  obtain ⟨isMonth, inMonth, _⟩ := locate_spec d.dayOfYear_lt
  obtain ⟨first, last⟩ := d.year_mem inCalendar
  have months : d.monthsBefore < 12 := isMonth
  have days : d.daysOfMonth + 1 ≤ (monthLengths d.year).getD (d.monthsBefore + 1 - 1) 0 := inMonth
  rw [date_eq, Date.isValid]
  simp only [Bool.and_eq_true, decide_eq_true_eq]
  omega

theorem ofDate?_date (inCalendar : d.inCalendar = true) : ofDate? d.date = some d := by
  rw [ofDate?, if_pos (d.isValid_date inCalendar), ofDate_date]

end Day

end Backoffice
