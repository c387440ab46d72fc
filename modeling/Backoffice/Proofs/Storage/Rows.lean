import Backoffice.Proofs.Filter.Boundaries
import Backoffice.Statistics.Line

/-!
# Reading the rows of an answer

A cell that does not hold what it should is a fault of the storage, under the name of the
cell.  A row of a line can also stop the request: its slot may start on a local day off the
calendar, or its day lie in a week that begins before the calendar (`Line.Stops`).  A row does
nothing else than `Line.addRow_eq_ok` and `Line.addRow_eq_error` say.
-/

namespace Backoffice

open StatQuery (bucketAlias valueAlias)

/-! ## Cells that cannot be read -/

namespace Row

variable {row : Row} {name : String} {e : Error}

theorem count_eq_error (fault : row.count name = .error e) :
    e = .storage (.unreadable name) := by
  rw [count] at fault
  split at fault
  · cases fault
  · exact (Except.error.inj fault).symm

theorem figure_eq_error (fault : row.figure name = .error e) :
    e = .storage (.unreadable name) := by
  rw [figure] at fault
  split at fault
  · cases fault
  · cases fault
  · cases fault
  · exact (Except.error.inj fault).symm

theorem integer_eq_error (fault : row.integer name = .error e) :
    e = .storage (.unreadable name) := by
  rw [integer] at fault
  split at fault
  · cases fault
  · cases fault
  · exact (Except.error.inj fault).symm

theorem day_eq_error (fault : row.day name = .error e) :
    e = .storage (.unreadable name) := by
  rw [day] at fault
  split at fault
  · cases fault
  · cases fault
  next s _ =>
    cases read : Day.read? s.toList with
    | none =>
        rw [read] at fault
        exact (Except.error.inj fault).symm
    | some d =>
        rw [read] at fault
        cases fault
  · exact (Except.error.inj fault).symm

end Row

/-! ## Rows of a line -/

namespace Line

variable {p : LinePlan} {row : Row} {tallies result : Tallies} {slot : Int} {e : Error}

/-- The slot of a row starts on a local day off the calendar, or the period of its day starts
off the calendar. -/
def Stops (p : LinePlan) (row : Row) : Prop :=
  (p.type ≠ .dateonly ∧ ∃ slot, row.integer bucketAlias = .ok (some slot) ∧
    (Instant.mk slot 0).inCalendar = true ∧ p.zone.IsOffCalendar ⟨slot, 0⟩) ∨
  ∃ d, rowDay p row = .ok (some d) ∧ (p.range.start d).inCalendar = false

/-- A row of a slot in the calendar is one of the local day on which the slot starts. -/
theorem rowDay_of_slot (pointsOfTime : p.type ≠ .dateonly)
    (isSlot : row.integer bucketAlias = .ok (some slot))
    (inCalendar : (Instant.mk slot 0).inCalendar = true) :
    rowDay p row = (Error.orStop (p.zone.localDay? ⟨slot, 0⟩)).map some := by
  rw [rowDay, if_neg pointsOfTime, isSlot]
  show slotDay p.zone slot = _
  rw [slotDay, if_pos inCalendar]

theorem rowDay_eq_error (fault : rowDay p row = .error e) :
    e = .storage (.unreadable bucketAlias) ∨ Stops p row ∧ e = .stopped := by
  by_cases onDay : p.type = .dateonly
  · rw [rowDay, if_pos onDay] at fault
    exact .inl (Row.day_eq_error fault)
  · cases isSlot : row.integer bucketAlias with
    | error e' =>
        rw [rowDay, if_neg onDay, isSlot] at fault
        cases fault
        exact .inl (Row.integer_eq_error isSlot)
    | ok slot? =>
        cases slot? with
        | none =>
            rw [rowDay, if_neg onDay, isSlot] at fault
            cases fault
        | some slot =>
            by_cases inCalendar : (Instant.mk slot 0).inCalendar = true
            · rw [rowDay_of_slot onDay isSlot inCalendar, Except.map_eq_error,
                Error.orStop_eq_error, Zone.localDay?_eq_none_iff] at fault
              obtain ⟨off, rfl⟩ := fault
              exact .inr ⟨.inl ⟨onDay, slot, isSlot, inCalendar, off⟩, rfl⟩
            · rw [rowDay, if_neg onDay, isSlot] at fault
              have skipped : slotDay p.zone slot = .ok none := if_neg inCalendar
              rw [show slotDay p.zone slot = .error e from fault] at skipped
              cases skipped

/-- A row adds nothing when it has no day, and otherwise its figure to the period of the
day. -/
theorem addRow_eq_ok : addRow p tallies row = .ok result ↔
    (rowDay p row = .ok none ∧ tallies = result) ∨
    ∃ d, rowDay p row = .ok (some d) ∧ (p.range.start d).inCalendar = true ∧
      ∃ figure, row.figure valueAlias = .ok figure ∧
        Tallies.add (p.range.start d) (countOf figure) (doubleOf figure) tallies = result := by
  rw [addRow, Except.bind_eq_ok]
  constructor
  · rintro ⟨day, isDay, added⟩
    cases day with
    | none =>
        cases added
        exact .inl ⟨isDay, rfl⟩
    | some d =>
        obtain ⟨figure, isFigure, added⟩ := Except.bind_eq_ok.1 added
        obtain ⟨start, isStart, added⟩ := Except.bind_eq_ok.1 added
        cases added
        obtain ⟨inCalendar, rfl⟩ := Day.checked?_eq_some_iff.1 (Error.orStop_eq_ok.1 isStart)
        exact .inr ⟨d, isDay, inCalendar, figure, isFigure, rfl⟩
  · rintro (⟨isDay, rfl⟩ | ⟨d, isDay, inCalendar, figure, isFigure, rfl⟩)
    · exact ⟨none, isDay, rfl⟩
    · have isStart : p.range.start? d = some (p.range.start d) :=
        Day.checked?_eq_some_iff.2 ⟨inCalendar, rfl⟩
      exact ⟨some d, isDay, Except.bind_eq_ok.2 ⟨figure, isFigure, Except.bind_eq_ok.2
        ⟨_, Error.orStop_eq_ok.2 isStart, rfl⟩⟩⟩

/-- A row fails where a cell cannot be read, and where it stops the request. -/
theorem addRow_eq_error (fault : addRow p tallies row = .error e) :
    (∃ column, e = .storage (.unreadable column)) ∨ Stops p row ∧ e = .stopped := by
  rcases Except.bind_eq_error.1 fault with undated | ⟨day, isDay, fault⟩
  · rcases rowDay_eq_error undated with unread | stops
    · exact .inl ⟨_, unread⟩
    · exact .inr stops
  · cases day with
    | none => cases fault
    | some d =>
        rcases Except.bind_eq_error.1 fault with unread | ⟨figure, _, fault⟩
        · exact .inl ⟨_, Row.figure_eq_error unread⟩
        · rcases Except.bind_eq_error.1 fault with off | ⟨start, _, fault⟩
          · obtain ⟨notThere, rfl⟩ := Error.orStop_eq_error.1 off
            exact .inr ⟨.inr ⟨d, isDay, Day.checked?_eq_none_iff.1 notThere⟩, rfl⟩
          · cases fault

end Line

end Backoffice
