import Mathlib.Tactic.FinCases
import Backoffice.Calendar.OffsetTables
import Backoffice.Proofs.Calendar.Slots
import Backoffice.Proofs.Sample
import Backoffice.Proofs.Statistics.Tallies
import Backoffice.Proofs.Storage.Rows

/-!
# Lines of counts

The storage counts points of time by slot, and a line adds the slots up by the period
of the day on which they start.  What comes out is the histogram of those periods for
any order of the rows (`Line.entries_eq`).

In an aligned zone it is the histogram of the periods of the points of time themselves
(`lines_count_local_days`).
-/

namespace Backoffice

open StatQuery (bucketAlias valueAlias)

/-- The first day of the period that an instant lies in, by the clocks of the zone. -/
def LinePlan.periodOf (p : LinePlan) (t : Instant) : Day := p.range.start (p.zone.localTime t).day

/-- The local day of an instant and the first day of its period are in the calendar. -/
def LinePlan.Covers (p : LinePlan) (t : Instant) : Prop :=
  (p.zone.localTime t).day.inCalendar = true ∧ (p.periodOf t).inCalendar = true

/-- The entries of counted periods. -/
def LinePlan.chart (p : LinePlan) (table : List (Day × Nat)) : List LineEntry :=
  table.map fun entry => ⟨p.range.label entry.1, .nat entry.2⟩

/-- That a row has a slot and the number of instants in it. -/
def AnswersSlot (times : List Instant) (slot : Int) (row : Row) : Prop :=
  row.integer bucketAlias = .ok (some slot) ∧
    row.figure valueAlias = .ok (.int ((times.map Instant.slot).count slot))

/-- That there is a row for each slot in which there are instants. -/
def AnswersSlots (times : List Instant) (rows : List Row) : Prop :=
  ∃ slots : List Int, slots.Nodup ∧ (∀ slot, slot ∈ slots ↔ slot ∈ times.map Instant.slot) ∧
    List.Forall₂ (AnswersSlot times) slots rows

/-! ## Slots and their instants -/

/-- The items of a list, as often as they occur and sorted by which they are. -/
theorem perm_flatMap_replicate {α : Type} [DecidableEq α] {items distinct : List α}
    (nodup : distinct.Nodup) (mem_iff : ∀ x, x ∈ distinct ↔ x ∈ items) :
    (distinct.flatMap fun x => List.replicate (items.count x) x).Perm items := by
  have counts : ∀ (distinct : List α), distinct.Nodup → ∀ x,
      (distinct.flatMap fun x => List.replicate (items.count x) x).count x =
        if x ∈ distinct then items.count x else 0 := by
    intro distinct nodup x
    induction distinct with
    | nil => rfl
    | cons first rest ih =>
        obtain ⟨absent, nodup⟩ := List.nodup_cons.1 nodup
        rw [List.flatMap_cons, List.count_append, List.count_replicate, ih nodup]
        by_cases same : first = x
        · subst same
          simp [absent]
        · simp [same, Ne.symm same]
  refine List.perm_iff_count.2 fun x => ?_
  rw [counts distinct nodup x]
  split
  next => rfl
  next absent => exact (List.count_eq_zero.2 fun present => absent ((mem_iff x).2 present)).symm

namespace Line

variable {p : LinePlan} {times : List Instant} {rows : List Row} {slots : List Int}

/-! ## Adding rows -/

/-- A row of a slot adds its count to the period in which the slot starts. -/
theorem addRow_of_slot (pointsOfTime : p.type ≠ .dateonly) (tallies : Tallies) {slot : Int}
    {row : Row} (inCalendar : (Instant.mk slot 0).inCalendar = true) (covers : p.Covers ⟨slot, 0⟩)
    (answers : AnswersSlot times slot row) :
    ∃ figure, addRow p tallies row = .ok (Tallies.add (p.periodOf ⟨slot, 0⟩)
      ((times.map Instant.slot).count slot) figure tallies) := by
  obtain ⟨isSlot, isCount⟩ := answers
  have isDay : rowDay p row = .ok (some (p.zone.localTime ⟨slot, 0⟩).day) := by
    rw [rowDay_of_slot pointsOfTime isSlot inCalendar, Except.map_eq_ok]
    exact ⟨_, Error.orStop_eq_ok.2 (Day.checked?_eq_some_iff.2 ⟨covers.1, rfl⟩), rfl⟩
  exact ⟨_, addRow_eq_ok.2 (.inr ⟨_, isDay, covers.2, _, isCount, rfl⟩)⟩

/-- A row of a slot that starts off the calendar stops the line. -/
theorem addRow_of_uncovered (pointsOfTime : p.type ≠ .dateonly) (tallies : Tallies) {slot : Int}
    {row : Row} (inCalendar : (Instant.mk slot 0).inCalendar = true)
    (uncovered : ¬ p.Covers ⟨slot, 0⟩) (answers : AnswersSlot times slot row) :
    addRow p tallies row = .error .stopped := by
  obtain ⟨isSlot, isCount⟩ := answers
  have isDay := rowDay_of_slot pointsOfTime isSlot inCalendar
  by_cases here : (p.zone.localTime ⟨slot, 0⟩).day.inCalendar = true
  · have local_eq : p.zone.localDay? ⟨slot, 0⟩ = some _ :=
      Day.checked?_eq_some_iff.2 ⟨here, rfl⟩
    have off : p.range.start? (p.zone.localTime ⟨slot, 0⟩).day = none :=
      Day.checked?_eq_none_iff.2 (Bool.not_eq_true _ ▸ fun start => uncovered ⟨here, start⟩)
    rw [local_eq] at isDay
    rw [addRow, isDay]
    refine Except.bind_eq_error.2 (.inr ⟨_, rfl, Except.bind_eq_error.2 (.inr ⟨_, isCount, ?_⟩)⟩)
    rw [off]
    rfl
  · have off : p.zone.localDay? ⟨slot, 0⟩ = none :=
      Day.checked?_eq_none_iff.2 (Bool.not_eq_true _ ▸ here)
    rw [off] at isDay
    exact Except.bind_eq_error.2 (.inl isDay)

/-- Rows of some slots add the periods in which the slots start, each as often as there
are instants in the slot. -/
theorem foldlM_addRow (pointsOfTime : p.type ≠ .dateonly)
    (inCalendar : ∀ slot ∈ slots, (Instant.mk slot 0).inCalendar = true)
    (covers : ∀ slot ∈ slots, p.Covers ⟨slot, 0⟩)
    (occurs : ∀ slot ∈ slots, slot ∈ times.map Instant.slot)
    (answers : List.Forall₂ (AnswersSlot times) slots rows) {tallies : Tallies} {days : List Day}
    (tabulates : Tabulates tallies.table days)
    (small : days.length + (slots.map fun slot => (times.map Instant.slot).count slot).sum <
      Text.word64) :
    ∃ result, rows.foldlM (addRow p) tallies = .ok result ∧
      Tabulates result.table ((slots.flatMap fun slot =>
        List.replicate ((times.map Instant.slot).count slot) (p.periodOf ⟨slot, 0⟩)) ++ days) := by
  induction answers generalizing tallies days with
  | nil => exact ⟨tallies, rfl, tabulates⟩
  | @cons slot row slots rows here _ ih =>
      obtain ⟨figure, added⟩ := addRow_of_slot pointsOfTime tallies
        (inCalendar slot List.mem_cons_self) (covers slot List.mem_cons_self) here
      rw [List.map_cons, List.sum_cons] at small
      have positive : 0 < (times.map Instant.slot).count slot :=
        List.count_pos_iff.2 (occurs slot List.mem_cons_self)
      have step := Tallies.tabulates_add (p.periodOf ⟨slot, 0⟩) figure
        tabulates positive (by omega)
      obtain ⟨result, folded, tabulates⟩ := ih
        (fun slot member => inCalendar slot (.tail _ member))
        (fun slot member => covers slot (.tail _ member))
        (fun slot member => occurs slot (.tail _ member)) step (by
          rw [List.length_append, List.length_replicate]
          omega)
      refine ⟨result, ?_, tabulates.perm ?_⟩
      · rw [List.foldlM_cons, added]
        exact folded
      · rw [List.flatMap_cons, ← List.append_assoc]
        exact List.perm_append_comm.append_right days

/-- One slot that starts off the calendar stops a line, wherever its row is. -/
theorem foldlM_addRow_of_uncovered (pointsOfTime : p.type ≠ .dateonly)
    (inCalendar : ∀ slot ∈ slots, (Instant.mk slot 0).inCalendar = true)
    (uncovered : ∃ slot ∈ slots, ¬ p.Covers ⟨slot, 0⟩)
    (answers : List.Forall₂ (AnswersSlot times) slots rows) (tallies : Tallies) :
    rows.foldlM (addRow p) tallies = .error .stopped := by
  induction answers generalizing tallies with
  | nil => simp at uncovered
  | @cons slot row slots rows here _ ih =>
      have inside := inCalendar slot List.mem_cons_self
      rw [List.foldlM_cons]
      by_cases covers : p.Covers ⟨slot, 0⟩
      · obtain ⟨figure, added⟩ := addRow_of_slot pointsOfTime tallies inside covers here
        have later : ∃ slot ∈ slots, ¬ p.Covers ⟨slot, 0⟩ := by
          obtain ⟨other, member, off⟩ := uncovered
          rcases List.mem_cons.1 member with rfl | member
          · exact absurd covers off
          · exact ⟨other, member, off⟩
        rw [added]
        exact ih (fun slot member => inCalendar slot (.tail _ member)) later _
      · rw [addRow_of_uncovered pointsOfTime tallies inside covers here]
        rfl

theorem inCalendar_of_answered (inCalendar : ∀ t ∈ times, t.inCalendar = true)
    (mem_iff : ∀ slot, slot ∈ slots ↔ slot ∈ times.map Instant.slot) :
    ∀ slot ∈ slots, (Instant.mk slot 0).inCalendar = true := by
  intro slot member
  obtain ⟨t, inTimes, rfl⟩ := List.mem_map.1 ((mem_iff slot).1 member)
  exact t.inCalendar_slotStart.trans (inCalendar t inTimes)

/-- A line is the histogram of the periods in which the slots start. -/
theorem entries_eq (pointsOfTime : p.type ≠ .dateonly) (counted : p.aggregate = .count)
    (inCalendar : ∀ t ∈ times, t.inCalendar = true) (covers : ∀ t ∈ times, p.Covers t.slotStart)
    (small : times.length < 2 ^ 63) (answers : AnswersSlots times rows) :
    entries p rows = .ok (p.chart (histogram (times.map fun t => p.periodOf t.slotStart))) := by
  obtain ⟨slots, nodup, mem_iff, answers⟩ := answers
  have slotsCovered : ∀ slot ∈ slots, p.Covers ⟨slot, 0⟩ := by
    intro slot member
    obtain ⟨t, inTimes, rfl⟩ := List.mem_map.1 ((mem_iff slot).1 member)
    exact covers t inTimes
  have perm := perm_flatMap_replicate nodup mem_iff
  have total : (slots.map fun slot => (times.map Instant.slot).count slot).sum = times.length := by
    have lengths := perm.length_eq
    rw [List.length_flatMap, List.length_map] at lengths
    simpa using lengths
  obtain ⟨tallies, folded, tabulates⟩ := foldlM_addRow pointsOfTime
    (inCalendar_of_answered inCalendar mem_iff) slotsCovered (fun slot => (mem_iff slot).1) answers
    Tallies.tabulates_nil (by
      rw [total, List.length_nil, Nat.zero_add]
      exact lt_trans small (by decide))
  have periods : ((slots.flatMap fun slot =>
      List.replicate ((times.map Instant.slot).count slot) (p.periodOf ⟨slot, 0⟩)) ++ []).Perm
        (times.map fun t : Instant => p.periodOf t.slotStart) := by
    have mapped := perm.map fun slot => p.periodOf ⟨slot, 0⟩
    rw [List.map_flatMap, List.map_map] at mapped
    simp only [List.map_replicate] at mapped
    rw [List.append_nil]
    exact mapped
  have table := (tabulates.perm periods).eq_histogram
  rw [← table]
  refine Except.bind_eq_ok.2 ⟨tallies, folded, ?_⟩
  show Except.ok (tallies.map (entry p)) = .ok (p.chart tallies.table)
  rw [LinePlan.chart, Tallies.table, List.map_map]
  congr 1
  refine List.map_congr_left fun t _ => ?_
  rw [entry, counted]
  rfl

/-- A line with a slot that starts off the calendar stops. -/
theorem entries_of_uncovered (pointsOfTime : p.type ≠ .dateonly)
    (inCalendar : ∀ t ∈ times, t.inCalendar = true)
    (uncovered : ∃ t ∈ times, ¬ p.Covers t.slotStart) (answers : AnswersSlots times rows) :
    entries p rows = .error .stopped := by
  obtain ⟨slots, _, mem_iff, answers⟩ := answers
  obtain ⟨t, inTimes, off⟩ := uncovered
  have isSlot : t.slot ∈ slots := (mem_iff t.slot).2 (List.mem_map_of_mem inTimes)
  refine Except.bind_eq_error.2 (.inl (foldlM_addRow_of_uncovered pointsOfTime
    (inCalendar_of_answered inCalendar mem_iff) ⟨t.slot, isSlot, off⟩ answers []))

end Line

/-- In an aligned zone an instant lies in the period in which its slot starts. -/
theorem LinePlan.periodOf_slotStart {p : LinePlan} (aligned : p.zone.isAligned = true)
    (t : Instant) : p.periodOf t.slotStart = p.periodOf t := by
  rw [periodOf, periodOf, Zone.day_slotStart aligned]

theorem LinePlan.covers_slotStart {p : LinePlan} (aligned : p.zone.isAligned = true)
    (t : Instant) : p.Covers t.slotStart ↔ p.Covers t := by
  rw [Covers, Covers, p.periodOf_slotStart aligned, Zone.day_slotStart aligned]

/-- A line of counts is the histogram of the periods of the instants themselves exactly
when the starts of their slots lie in the same periods as often.  In an aligned zone they
do.  A slot that starts on a local day off the calendar, or in a week that begins before the
calendar, stops the request. -/
theorem lines_count_local_days [ZoneDatabase] {p : LinePlan} {times : List Instant}
    {rows : List Row} (deadline : Option Nat) (pointsOfTime : p.type ≠ .dateonly)
    (counted : p.aggregate = .count) (inCalendar : ∀ t ∈ times, t.inCalendar = true)
    (small : times.length < 2 ^ 63) (answers : AnswersSlots times rows) :
    let answer := ((Session.query p.statement (Line.entries p)).run deadline [.rows rows]).outcome
    (∀ (q : StatQuery) (d : Sql.Dialect) (now : Instant),
      Line.plan q d now = .ok p → Line.session q d now = .query p.statement (Line.entries p)) ∧
    (p.zone.isAligned = true → (∀ t ∈ times, p.Covers t) →
      answer = some (.ok (p.chart (histogram (times.map p.periodOf))))) ∧
    ((∀ t ∈ times, p.Covers t.slotStart) → ∃ table, answer = some (.ok (p.chart table)) ∧
      IsRising (table.map Prod.fst) ∧ (table.map Prod.snd).sum = times.length ∧
      (table = histogram (times.map p.periodOf) ↔
        (times.map fun t => p.periodOf t.slotStart).Perm (times.map p.periodOf)) ∧
      (p.zone.isAligned = true → table = histogram (times.map p.periodOf))) ∧
    ((∃ t ∈ times, ¬ p.Covers t.slotStart) → answer = some (.error .stopped)) := by
  have ofAligned : p.zone.isAligned = true →
      (times.map fun t => p.periodOf t.slotStart) = times.map p.periodOf :=
    fun aligned => List.map_congr_left fun t _ => p.periodOf_slotStart aligned t
  have ofCovered : (∀ t ∈ times, p.Covers t.slotStart) → Line.entries p rows =
      .ok (p.chart (histogram (times.map fun t => p.periodOf t.slotStart))) :=
    fun covers => Line.entries_eq pointsOfTime counted inCalendar covers small answers
  refine ⟨fun q d now planned => ?_, fun aligned covers => ?_, fun covers => ?_,
    fun uncovered => ?_⟩
  · rw [Line.session, planned]
    rfl
  · have startsCovered : ∀ t ∈ times, p.Covers t.slotStart :=
      fun t member => (p.covers_slotStart aligned t).2 (covers t member)
    show some (Line.entries p rows) = _
    rw [ofCovered startsCovered, ofAligned aligned]
  · refine ⟨histogram (times.map fun t => p.periodOf t.slotStart), ?_,
      (tabulates_histogram _).rising, ?_, histogram_eq_iff, fun aligned => ?_⟩
    · show some (Line.entries p rows) = _
      rw [ofCovered covers]
    · rw [sum_histogram, List.length_map]
    · rw [ofAligned aligned]
  · show some (Line.entries p rows) = _
    rw [Line.entries_of_uncovered pointsOfTime inCalendar uncovered answers]

namespace Sample

/-- A row with a slot and a count. -/
def slotRow (slot : Int) (count : Int) : Row where
  entries := [("bucket", .bigInt (some slot)), ("value", .bigInt (some count))]
  rising := List.pairwise_pair.2 (show "bucket" < "value" by decide)

/-- Points of time around a midnight in Kathmandu, which is at 18:15 in UTC. -/
def times : List Instant := [⟨1710094600, 0⟩, ⟨1710094499, 999999999⟩, ⟨1710094500, 7⟩]

theorem answersSlots_times :
    AnswersSlots times [slotRow 1710094500 2, slotRow 1710093600 1] := by
  have slots : times.map Instant.slot = [1710094500, 1710093600, 1710094500] := by
    simp only [times, List.map, Instant.slot_eq]
    decide
  refine ⟨[1710094500, 1710093600], by decide, fun slot => ?_,
    .cons ⟨rfl, ?_⟩ (.cons ⟨rfl, ?_⟩ .nil)⟩
  · rw [slots]
    simp only [List.mem_cons, List.not_mem_nil]
    tauto
  · rw [slots]
    rfl
  · rw [slots]
    rfl

/-- The line of days of the articles in Kathmandu. -/
def kathmanduDays : LinePlan where
  statement := { table := "articles" }
  type := .date
  zone := ⟨"Asia/Kathmandu", 20700, []⟩
  range := .day
  aggregate := .count

theorem tabulates_times :
    Tabulates [(⟨19792⟩, 1), (⟨19793⟩, 2)] (times.map kathmanduDays.periodOf) := by
  have periods : times.map kathmanduDays.periodOf = [⟨19793⟩, ⟨19792⟩, ⟨19793⟩] := by
    decide +kernel
  rw [periods]
  refine ⟨by simp [IsRising], fun d => ?_, by decide⟩
  simp only [List.map_cons, List.map_nil, List.mem_cons, List.not_mem_nil]
  tauto

theorem lines_count_days_in_kathmandu :
    ((Session.query kathmanduDays.statement (Line.entries kathmanduDays)).run none
        [.rows [slotRow 1710094500 2, slotRow 1710093600 1]]).outcome =
      some (.ok (kathmanduDays.chart [(⟨19792⟩, 1), (⟨19793⟩, 2)])) := by
  obtain ⟨_, ofAligned, _⟩ := lines_count_local_days none (p := kathmanduDays) (by decide) rfl
    (by decide) (by decide) answersSlots_times
  rw [tabulates_times.eq_histogram]
  refine ofAligned (by decide) fun t member => ?_
  fin_cases member <;> exact ⟨by decide +kernel, by decide +kernel⟩

/-- The slot of a single instant is answered by its row. -/
theorem answersSlots_single {t : Instant} {slot : Int}
    (isSlot : Sql.slotSeconds * (t.seconds / Sql.slotSeconds) = slot) :
    AnswersSlots [t] [slotRow slot 1] := by
  have slots : [t].map Instant.slot = [slot] := by
    rw [List.map_singleton, Instant.slot_eq, isSlot]
  refine ⟨[slot], List.nodup_singleton slot, by simp [slots], .cons ⟨rfl, ?_⟩ .nil⟩
  rw [slots, List.count_singleton_self]
  rfl

/-- The line of days of the articles in St. John's, where the clocks of 2009 were put back one
minute past midnight. -/
def stJohnsDays : LinePlan :=
  { kathmanduDays with zone := .ofTable "America/St_Johns" Calendar.stJohns }

/-- St. John's is a recorded zone, but not an aligned one: an article of the last hour of October
is shown under November, as the start of its slot came before the clocks were put back.  And in
Kathmandu, where the zone is aligned, there is no line with an article of the last hour of the
calendar: its local day is the day after the last. -/
theorem lines_miss_local_days :
    (Calendar.offsetTables.lookup "America/St_Johns" = some Calendar.stJohns ∧
      stJohnsDays.zone.isAligned = false ∧
      AnswersSlots [⟨1257043200, 0⟩] [slotRow 1257042600 1] ∧
      stJohnsDays.periodOf ⟨1257043200, 0⟩ = Day.ofDate ⟨2009, 10, 31⟩ ∧
      stJohnsDays.chart (histogram ([⟨1257043200, 0⟩].map stJohnsDays.periodOf)) =
        [⟨"31/10/2009", .nat 1⟩] ∧
      ((Session.query stJohnsDays.statement (Line.entries stJohnsDays)).run none
        [.rows [slotRow 1257042600 1]]).outcome = some (.ok [⟨"01/11/2009", .nat 1⟩])) ∧
    (kathmanduDays.zone.isAligned = true ∧
      (Instant.mk 8210266873200 0).inCalendar = true ∧
      AnswersSlots [⟨8210266873200, 0⟩] [slotRow 8210266873200 1] ∧
      ((Session.query kathmanduDays.statement (Line.entries kathmanduDays)).run none
        [.rows [slotRow 8210266873200 1]]).outcome = some (.error .stopped)) := by
  have october : AnswersSlots [⟨1257043200, 0⟩] [slotRow 1257042600 1] :=
    answersSlots_single (by decide)
  have period : stJohnsDays.periodOf ⟨1257043200, 0⟩ = ⟨14548⟩ := by decide +kernel
  refine ⟨⟨by decide, by decide, october, ?_, ?_, ?_⟩, by decide, by decide +kernel, answersSlots_single (by decide), ?_⟩
  · rw [period]
    decide +kernel
  · have label : stJohnsDays.range.label ⟨14548⟩ = "31/10/2009" := by decide +kernel
    rw [List.map_singleton, period, histogram_singleton, LinePlan.chart, List.map_singleton, label]
  · rfl
  · rfl

end Sample

end Backoffice
