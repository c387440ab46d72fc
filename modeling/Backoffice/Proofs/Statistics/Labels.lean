import Backoffice.Proofs.Calendar.Writing
import Backoffice.Proofs.Statistics.Line
import Backoffice.Proofs.Statistics.Periods

/-!
# Labels of lines

The labels of days, weeks and years tell the periods of their kind apart: every number of a
label ends where its width does, and a year is read back from its digits.  A month shows the
last two digits of its year, so the labels of one month a hundred years apart are the same,
and no others (`TimeRange.label_start_eq_iff`).

The entries of a line are the periods of the days of its rows, each once
(`Line.starts_foldlM_addRow`).  So the labels of a line differ, but for such months
(`labels_tell_periods_apart`).
-/

namespace Backoffice

open Text (paddedDigits)

/-! ## Parts of labels -/

/-- A number of a given width ends where its width does. -/
theorem Text.paddedDigits_append_inj {width m n : ℕ} {rest rest' : List Char}
    (positive : 0 < width) (small : m < 10 ^ width) (small' : n < 10 ^ width)
    (same : paddedDigits width m ++ rest = paddedDigits width n ++ rest') :
    m = n ∧ rest = rest' := by
  have length := length_paddedDigits positive small
  have length' := length_paddedDigits positive small'
  obtain ⟨sameDigits, sameRest⟩ := List.append_inj same (length.trans length'.symm)
  have values := congrArg digitsValue sameDigits
  simp only [digitsValue_paddedDigits] at values
  exact ⟨values, sameRest⟩

namespace Calendar

/-- Years have different texts. -/
theorem yearText_injective : Function.Injective yearText := by
  intro year year' same
  have read := readYear_yearText year []
  rw [same, readYear_yearText] at read
  simpa [eq_comm] using read

/-- The names of the months have three letters. -/
theorem length_monthNames : ∀ month < 12, (monthNames.getD month "").toList.length = 3 := by
  decide +kernel

/-- The months have different names. -/
theorem monthNames_inj : ∀ month < 12, ∀ month' < 12,
    (monthNames.getD month "").toList = (monthNames.getD month' "").toList → month = month' := by
  decide +kernel

end Calendar

open Calendar

/-! ## Labels of one kind -/

namespace Day

variable {d e : Day}

theorem dayLabel_eq_iff : d.dayLabel = e.dayLabel ↔ d = e := by
  constructor
  · intro same
    obtain ⟨month, day⟩ := d.date_lt
    obtain ⟨month', day'⟩ := e.date_lt
    simp only [dayLabel, List.append_assoc, List.cons_append] at same
    obtain ⟨sameDay, same⟩ := Text.paddedDigits_append_inj (by decide) day day' same
    obtain ⟨sameMonth, same⟩ :=
      Text.paddedDigits_append_inj (by decide) month month' (List.cons_inj_right _ |>.1 same)
    have sameYear := yearText_injective (List.cons_inj_right _ |>.1 same)
    have sameDate : d.date = e.date := by
      cases isDate : d.date
      cases isDate' : e.date
      simp_all
    rw [← ofDate_date d, sameDate, ofDate_date]
  · rintro rfl
    rfl

theorem weekLabel_eq_iff : d.weekLabel = e.weekLabel ↔ d.weekStart = e.weekStart := by
  rw [weekStart_eq_iff]
  constructor
  · intro same
    have number : d.weekNumber < 10 ^ 2 := Nat.lt_of_le_of_lt d.weekNumber_le (by decide)
    have number' : e.weekNumber < 10 ^ 2 := Nat.lt_of_le_of_lt e.weekNumber_le (by decide)
    simp only [weekLabel, List.cons.injEq, true_and] at same
    obtain ⟨sameNumber, same⟩ := Text.paddedDigits_append_inj (by decide) number number' same
    exact ⟨yearText_injective (List.cons_inj_right _ |>.1 same), sameNumber⟩
  · rintro ⟨sameYear, sameNumber⟩
    rw [weekLabel, weekLabel, sameYear, sameNumber]

/-- Months have one label when they have one name and their years end in the same two digits. -/
theorem monthLabel_eq_iff : d.monthLabel = e.monthLabel ↔
    d.date.month = e.date.month ∧ (100 : ℤ) ∣ d.date.year - e.date.year := by
  have month := d.isProper_date.month_le
  have month' := e.isProper_date.month_le
  have positive := d.isProper_date.month
  have positive' := e.isProper_date.month
  constructor
  · intro same
    have length := length_monthNames (d.date.month - 1) (by omega)
    have length' := length_monthNames (e.date.month - 1) (by omega)
    simp only [monthLabel] at same
    obtain ⟨sameName, same⟩ := List.append_inj same (length.trans length'.symm)
    have sameMonth := monthNames_inj _ (by omega) _ (by omega) sameName
    have padded := congrArg Text.digitsValue (List.cons_inj_right _ |>.1 same)
    simp only [Text.digitsValue_paddedDigits] at padded
    omega
  · rintro ⟨sameMonth, sameYear⟩
    have sameDigits : d.date.year % 100 = e.date.year % 100 := by omega
    rw [monthLabel, monthLabel, sameMonth, sameDigits]

theorem yearLabel_eq_iff : d.yearLabel = e.yearLabel ↔ d.year = e.year :=
  yearText_injective.eq_iff

end Day

/-! ## Labels of periods -/

namespace TimeRange

/-- That two days lie in one month of the year, a whole number of centuries apart, and the
periods are months. -/
def IsCenturiesApart (range : TimeRange) (d e : Day) : Prop :=
  range = .month ∧ d.date.month = e.date.month ∧ (100 : ℤ) ∣ d.date.year - e.date.year

/-- Periods have one label when they are one, or are months a number of centuries apart. -/
theorem label_start_eq_iff (range : TimeRange) (d e : Day) :
    range.label (range.start d) = range.label (range.start e) ↔
      range.start d = range.start e ∨ range.IsCenturiesApart d e := by
  cases range with
  | day => simp [label, start, IsCenturiesApart, String.ofList_inj, Day.dayLabel_eq_iff]
  | week =>
      have idem := Day.startsPeriods_weekStart.idem
      simp [label, start, IsCenturiesApart, String.ofList_inj, Day.weekLabel_eq_iff, idem]
  | month =>
      simp only [label, start, IsCenturiesApart, String.ofList_inj, Day.monthLabel_eq_iff,
        Day.date_monthStart, Day.monthStart_eq_iff, true_and]
      constructor
      · exact .inr
      · rintro (⟨sameYear, sameMonth⟩ | apart)
        · exact ⟨sameMonth, by simp [sameYear]⟩
        · exact apart
  | year =>
      simp [label, start, IsCenturiesApart, String.ofList_inj, Day.yearLabel_eq_iff,
        Day.year_yearStart, Day.yearStart_eq_iff]

end TimeRange

/-! ## Entries of a line -/

namespace Line

open StatQuery (valueAlias)

variable {p : LinePlan} {row : Row} {rows : List Row} {tallies result : Tallies}

/-- That a row is one of a day of the period that starts on a day. -/
def IsOfPeriod (p : LinePlan) (start : Day) (row : Row) : Prop :=
  ∃ d, rowDay p row = .ok (some d) ∧ p.range.start d = start

/-- The tallies keep the order of time, and a row brings the period of its day. -/
theorem starts_addRow (added : addRow p tallies row = .ok result)
    (rising : IsRising (tallies.map Tally.start)) :
    IsRising (result.map Tally.start) ∧ ∀ start, start ∈ result.map Tally.start ↔
      IsOfPeriod p start row ∨ start ∈ tallies.map Tally.start := by
  rcases addRow_eq_ok.1 added with ⟨isDay, rfl⟩ | ⟨d, isDay, _, figure, _, rfl⟩
  · refine ⟨rising, fun start => ?_⟩
    simp [IsOfPeriod, isDay]
  · refine ⟨Tallies.isRising_add rising, fun start => ?_⟩
    rw [Tallies.mem_add_starts]
    simp [IsOfPeriod, isDay, eq_comm]

theorem starts_foldlM_addRow (folded : rows.foldlM (addRow p) tallies = .ok result)
    (rising : IsRising (tallies.map Tally.start)) :
    IsRising (result.map Tally.start) ∧ ∀ start, start ∈ result.map Tally.start ↔
      (∃ row ∈ rows, IsOfPeriod p start row) ∨ start ∈ tallies.map Tally.start := by
  induction rows generalizing tallies with
  | nil =>
      cases folded
      exact ⟨rising, by simp⟩
  | cons row rest ih =>
      rw [List.foldlM_cons] at folded
      obtain ⟨next, added, folded⟩ := Except.bind_eq_ok.1 folded
      obtain ⟨risingNext, isNext⟩ := starts_addRow added rising
      obtain ⟨risingResult, isResult⟩ := ih folded risingNext
      refine ⟨risingResult, fun start => ?_⟩
      rw [isResult, isNext, List.exists_mem_cons_iff, or_assoc, or_left_comm]

/-- The entries of a line are the periods of its rows in the order of time. -/
theorem exists_starts {es : List LineEntry} (done : entries p rows = .ok es) :
    ∃ starts : List Day, IsRising starts ∧
      (∀ start, start ∈ starts ↔ ∃ row ∈ rows, IsOfPeriod p start row) ∧
      es.map LineEntry.label = starts.map p.range.label := by
  obtain ⟨tallies, folded, done⟩ := Except.bind_eq_ok.1 done
  cases done
  obtain ⟨rising, isStart⟩ := starts_foldlM_addRow folded List.Pairwise.nil
  refine ⟨tallies.map Tally.start, rising, fun start => ?_, ?_⟩
  · simp [isStart start]
  · simp [entry, Function.comp_def]

/-- A line that is answered has been compiled, and its rows have been read. -/
theorem of_outcome [ZoneDatabase] {q : StatQuery} {d : Sql.Dialect} {now : Instant}
    {deadline : Option Nat} {answers : List StorageAnswer} {es : List LineEntry}
    (answered : ((session q d now).run deadline answers).outcome = some (.ok es)) :
    ∃ p rows, plan q d now = .ok p ∧ answers.headD (.rows []) = .rows rows ∧
      entries p rows = .ok es := by
  rw [session] at answered
  cases planned : plan q d now with
  | error e =>
      rw [planned] at answered
      cases answered
  | ok p =>
      rw [planned] at answered
      simp only [Session.ofCompiled, Session.query, Session.run] at answered
      cases isAnswer : answers.headD (.rows []) with
      | rows found =>
          rw [isAnswer] at answered
          exact ⟨p, found, rfl, rfl, Option.some.inj answered⟩
      | failed message =>
          rw [isAnswer] at answered
          cases answered
      | silent =>
          rw [isAnswer] at answered
          cases deadline <;> cases answered

end Line

/-- The labels of a line tell its periods apart, but for months.  Two periods have one label
exactly when they are one, or are one month of the year a number of centuries apart.  The
entries of an answered line are the periods of the days of its rows, in the order of time, and
their labels differ exactly when no two of them are such months. -/
theorem labels_tell_periods_apart [ZoneDatabase] :
    (∀ (range : TimeRange) (d e : Day),
      range.label (range.start d) = range.label (range.start e) ↔
        range.start d = range.start e ∨ range.IsCenturiesApart d e) ∧
    ∀ {q : StatQuery} {d : Sql.Dialect} {now : Instant} {deadline : Option Nat}
        {answers : List StorageAnswer} {es : List LineEntry},
      ((Line.session q d now).run deadline answers).outcome = some (.ok es) →
      ∃ p rows starts, Line.plan q d now = .ok p ∧ answers.headD (.rows []) = .rows rows ∧
        IsRising starts ∧
        (∀ start, start ∈ starts ↔ ∃ row ∈ rows, Line.IsOfPeriod p start row) ∧
        es.map LineEntry.label = starts.map p.range.label ∧
        ((es.map LineEntry.label).Nodup ↔
          ∀ d ∈ starts, ∀ e ∈ starts, p.range.IsCenturiesApart d e → d = e) := by
  refine ⟨TimeRange.label_start_eq_iff, fun {q d now deadline answers es} answered => ?_⟩
  obtain ⟨p, rows, planned, isAnswer, done⟩ := Line.of_outcome answered
  obtain ⟨starts, rising, isStart, labels⟩ := Line.exists_starts done
  refine ⟨p, rows, starts, planned, isAnswer, rising, isStart, labels, ?_⟩
  have first : ∀ d ∈ starts, p.range.start d = d := by
    intro d member
    obtain ⟨row, _, day, _, rfl⟩ := (isStart d).1 member
    exact p.range.startsPeriods.idem day
  have labels_eq_iff : ∀ d ∈ starts, ∀ e ∈ starts,
      p.range.label d = p.range.label e ↔ d = e ∨ p.range.IsCenturiesApart d e := by
    intro d member e member'
    have labels := p.range.label_start_eq_iff d e
    rwa [first d member, first e member'] at labels
  rw [labels, List.nodup_map_iff_inj_on rising.nodup]
  constructor
  · intro differ d member e member' apart
    exact differ d member e member' ((labels_eq_iff d member e member').2 (.inr apart))
  · intro differ d member e member' same
    rcases (labels_eq_iff d member e member').1 same with equal | apart
    · exact equal
    · exact differ d member e member' apart

namespace Sample

/-- The line of the weeks in which the articles were written. -/
def weeks : StatQuery := { days with request := { days.request with timeRange := some .week } }

/-- Two days of one week on both sides of a new year, and one of the next week. -/
theorem labels_tell_weeks_apart :
    ∃ es, ((Line.session weeks .sqlite ⟨0, 0⟩).run none
        [.rows [slotRow 1609718400 1, slotRow 1609459200 1, slotRow 1609113600 1]]).outcome =
          some (.ok es) ∧
      es.map LineEntry.label = ["W53-2020", "W01-2021"] ∧ (es.map LineEntry.label).Nodup := by
  have answered : ((Line.session weeks .sqlite ⟨0, 0⟩).run none
      [.rows [slotRow 1609718400 1, slotRow 1609459200 1, slotRow 1609113600 1]]).outcome =
        some (.ok _) := rfl
  obtain ⟨p, rows, starts, planned, _, _, _, _, differ⟩ := labels_tell_periods_apart.2 answered
  have isWeek : p.range = .week := by
    cases planned
    rfl
  refine ⟨_, answered, by decide +kernel, differ.2 fun d _ e _ apart => ?_⟩
  rw [TimeRange.IsCenturiesApart, isWeek] at apart
  cases apart.1

/-- The line of the months in which the articles were written. -/
def months : StatQuery := { days with request := { days.request with timeRange := some .month } }

/-- Months a century apart have one label, so a line may show it twice. -/
theorem months_share_label :
    ∃ es, ((Line.session months .sqlite ⟨0, 0⟩).run none
        [.rows [slotRow (-1445731200) 1, slotRow 1710028800 1]]).outcome = some (.ok es) ∧
      es.map LineEntry.label = ["Mar 24", "Mar 24"] ∧ ¬(es.map LineEntry.label).Nodup :=
  ⟨_, rfl, by decide +kernel, by decide +kernel⟩

end Sample

end Backoffice
