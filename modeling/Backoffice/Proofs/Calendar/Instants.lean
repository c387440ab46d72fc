import Mathlib.Tactic.Positivity
import Mathlib.Tactic.Ring
import Mathlib.Tactic.Tauto
import Backoffice.Proofs.Calendar.Writing

/-!
# Written instants read back

An instant is written as the day and the clock of a place, with the offset of the place from
UTC after them or, in UTC, without one.  Each part is read whatever comes after it, so what a
form makes of a text is told by what it makes of the offset.

* The strict form takes a `T` or a space before the clock and the offset right after it.
* The form after it takes a space there as well.
* Without an offset neither of them fits, and the text is a reading of the clock in UTC.

The offset is taken off again, across the ends of days, months and years: all the texts of an
instant read back as that instant (`instants_read_back`).
-/

namespace Backoffice

open Text (digitsValue isBlank isDigit paddedDigits trimStart)

/-! ## What is written -/

/-- Hour, minute and second joined by colons. -/
def Clock.plainText (c : Clock) : List Char :=
  paddedDigits 2 c.hour ++ ':' :: (paddedDigits 2 c.minute ++ ':' :: paddedDigits 2 c.second)

/-- The day and the clock in UTC with a separator between them, and a fraction after them. -/
def Instant.plainText (t : Instant) (separator : Char) (fraction : List Char) : List Char :=
  t.day.text ++ separator :: (t.clock.plainText ++ fraction)

namespace Calendar

/-- That a text is written after a second to tell the nanoseconds: nothing when there are none,
or a point and up to nine digits, as a fraction of a billion. -/
inductive IsFraction : List Char → ℕ → Prop where
  | none : IsFraction [] 0
  | digits {run : List Char} {nanos : ℕ} (some : run ≠ []) (short : run.length ≤ 9)
      (digits : run.all isDigit = true)
      (value : nanos * 10 ^ run.length = digitsValue run * 10 ^ 9) : IsFraction ('.' :: run) nanos

/-- That a text is an offset from UTC in minutes: hours and minutes behind the sign of the
direction. -/
inductive IsOffset : List Char → ℤ → Prop where
  | east {hours minutes : ℕ} (hour : hours < 24) (minute : minutes < 60) :
      IsOffset ('+' :: (paddedDigits 2 hours ++ ':' :: paddedDigits 2 minutes))
        (hours * 60 + minutes)
  | west {hours minutes : ℕ} (hour : hours < 24) (minute : minutes < 60) :
      IsOffset ('-' :: (paddedDigits 2 hours ++ ':' :: paddedDigits 2 minutes))
        (-(hours * 60 + minutes))

/-- Every whole number of minutes within a day is an offset. -/
theorem exists_isOffset {minutes : ℤ} (near : minutes.natAbs < 1440) :
    ∃ offset, IsOffset offset minutes := by
  have hour : minutes.natAbs / 60 < 24 := by omega
  have minute : minutes.natAbs % 60 < 60 := Nat.mod_lt _ (by decide)
  rcases Int.le_total 0 minutes with east | west
  · have sum : minutes = (minutes.natAbs / 60 : ℕ) * 60 + (minutes.natAbs % 60 : ℕ) := by omega
    rw [sum]
    exact ⟨_, .east hour minute⟩
  · have sum : minutes = -((minutes.natAbs / 60 : ℕ) * 60 + (minutes.natAbs % 60 : ℕ)) := by omega
    rw [sum]
    exact ⟨_, .west hour minute⟩

/-- Nine digits tell any nanoseconds. -/
theorem isFraction_nine {nanos : ℕ} (small : nanos < 10 ^ 9) :
    IsFraction ('.' :: paddedDigits 9 nanos) nanos := by
  have length := Text.length_paddedDigits (show 0 < 9 by decide) small
  refine .digits ?_ length.le (Text.all_isDigit_paddedDigits 9 nanos) ?_
  · intro isNil
    simp [isNil] at length
  · rw [length, Text.digitsValue_paddedDigits]

/-! ## Parts of clocks -/

section
variable {fraction rest : List Char} {nanos : ℕ}

/-- That neither a digit nor a point comes next. -/
def EndsFraction (rest : List Char) : Prop := ∀ c ∈ rest.head?, isDigit c = false ∧ c ≠ '.'

theorem endsFraction_nil : EndsFraction [] := by simp [EndsFraction]

/-- A fraction is read up to what can be no part of it. -/
theorem readFraction_append (isFraction : IsFraction fraction nanos) (ends : EndsFraction rest) :
    readFraction (fraction ++ rest) = some (nanos, rest) := by
  cases isFraction with
  | none =>
      rw [List.nil_append]
      unfold readFraction
      split
      next same => exact absurd rfl (ends '.' rfl).2
      next => rfl
  | @digits run _ nonempty short digits value =>
      have each := List.all_eq_true.1 digits
      have taken : (run ++ rest).takeWhile isDigit = run := by
        rw [List.takeWhile_append_of_pos each]
        cases rest with
        | nil => simp
        | cons c others => simp [(ends c rfl).1]
      have isNanos : nanosOfDigits run = nanos := by
        have split : (10 : ℕ) ^ 9 = 10 ^ (9 - run.length) * 10 ^ run.length := by
          rw [← pow_add, Nat.sub_add_cancel short]
        rw [split, ← mul_assoc] at value
        rw [nanosOfDigits, List.take_of_length_le short]
        exact (Nat.eq_of_mul_eq_mul_right (by positivity) value).symm
      simp [readFraction, taken, nonempty, isNanos]

/-- A clock is read up to what can be no part of its fraction. -/
theorem readClock_append {part : List Char → Option (ℕ × List Char)}
    (reads : ∀ {n : ℕ}, n < 100 → ∀ rest, part (paddedDigits 2 n ++ rest) = some (n, rest))
    {c : Clock} (valid : c.isValid = true) (isFraction : IsFraction fraction c.nanos)
    (ends : EndsFraction rest) :
    readClock part (c.plainText ++ (fraction ++ rest)) = some (c, rest) := by
  have bounds := valid
  simp only [Clock.isValid, Bool.and_eq_true, decide_eq_true_eq] at bounds
  have hour := reads (show c.hour < 100 by omega)
  have minute := reads (show c.minute < 100 by omega)
  have second := reads (show c.second < 100 by omega)
  simp [readClock, Clock.plainText, hour, minute, second, expect,
    readFraction_append isFraction ends, valid]

theorem trimStart_space (cs : List Char) : trimStart (' ' :: cs) = trimStart cs :=
  List.dropWhile_cons_of_pos rfl

/-- A clock may come after a space. -/
theorem readClock_space (cs : List Char) :
    readClock readPart (' ' :: cs) = readClock readPart cs := by
  simp only [readClock, readPart, trimStart_space]

end

/-! ## Offsets -/

section
variable {offset : List Char} {minutes : ℤ}

/-- An offset is read by whatever goes over its colon. -/
theorem readOffset_of_isOffset {gap : List Char → Option (List Char)}
    (colon : ∀ n, gap (':' :: paddedDigits 2 n) = some (paddedDigits 2 n))
    (isOffset : IsOffset offset minutes) :
    readOffset gap offset = some (minutes * 60, []) := by
  have two : ∀ {n : ℕ}, n < 100 → ∀ rest,
      readNumber 2 2 (paddedDigits 2 n ++ rest) = some (n, rest) := fun small rest =>
    readNumber_width (by decide) small rest
  have last : ∀ {n : ℕ}, n < 100 → readNumber 2 2 (paddedDigits 2 n) = some (n, []) := by
    intro n small
    simpa using two small []
  cases isOffset with
  | @east hours minutes hour minute =>
      have hoursRead := two (show hours < 100 by omega)
      have minutesRead := last (show minutes < 100 by omega)
      simp [readOffset, readOffsetSign, hoursRead, colon, minutesRead, minute]
      ring
  | @west hours minutes hour minute =>
      have hoursRead := two (show hours < 100 by omega)
      have minutesRead := last (show minutes < 100 by omega)
      simp [readOffset, readOffsetSign, hoursRead, colon, minutesRead, minute]
      ring

/-- No fraction goes on into an offset. -/
theorem IsOffset.endsFraction (isOffset : IsOffset offset minutes) : EndsFraction offset := by
  cases isOffset with
  | east => simp [EndsFraction, isDigit]
  | west => simp [EndsFraction, isDigit]

theorem readStrictOffset_of_isOffset (isOffset : IsOffset offset minutes) :
    readStrictOffset offset = some (minutes * 60, []) := by
  have colon : ∀ n, expect ':' (':' :: paddedDigits 2 n) = some (paddedDigits 2 n) := by
    simp [expect]
  have read := readOffset_of_isOffset colon isOffset
  cases isOffset with
  | east => exact read
  | west => exact read

theorem readLooseOffset_of_isOffset (isOffset : IsOffset offset minutes) :
    readLooseOffset offset = some (minutes * 60, []) := by
  have skips : ∀ n, (':' :: paddedDigits 2 n).dropWhile (fun c => c = ':' || isBlank c) =
      paddedDigits 2 n := by
    intro n
    have long := Text.le_length_paddedDigits 2 n
    have each := Text.all_isDigit_paddedDigits 2 n
    cases split : paddedDigits 2 n with
    | nil => simp [split] at long
    | cons first others =>
        rw [split, List.all_cons, Bool.and_eq_true] at each
        have notBlank := Text.isBlank_of_isDigit each.1
        have notColon : first ≠ ':' := by
          rintro rfl
          cases each.1
        simp [notBlank, notColon]
  have untrimmed : trimStart offset = offset := by
    cases isOffset with
    | east => rfl
    | west => rfl
  rw [readLooseOffset, untrimmed]
  exact readOffset_of_isOffset (fun n => congrArg some (skips n)) isOffset

/-- An offset may come after a space. -/
theorem readLooseOffset_space (cs : List Char) :
    readLooseOffset (' ' :: cs) = readLooseOffset cs := by
  rw [readLooseOffset, trimStart_space, readLooseOffset]

end

end Calendar

open Calendar

namespace Instant

variable {t : Instant}

/-! ## Days and clocks of instants -/

/-- Outside leap seconds, day and clock tell the instant. -/
theorem ofClock_clock (noLeap : t.nanos < 10 ^ 9) : ofClock t.day t.clock = t := by
  obtain ⟨seconds, nanos⟩ := t
  simp only at noLeap
  have notSixty : ¬(seconds % 86400).toNat % 60 + nanos / 1000000000 = 60 := by omega
  simp only [ofClock, clock, day, notSixty, if_false]
  congr 1 <;> omega

theorem nanos_clock (noLeap : t.nanos < 10 ^ 9) : t.clock.nanos = t.nanos :=
  Nat.mod_eq_of_lt noLeap

theorem isValid_clock (noLeap : t.nanos < 10 ^ 9) : t.clock.isValid = true := by
  simp only [Clock.isValid, Bool.and_eq_true, decide_eq_true_eq]
  simp only [clock]
  omega

/-- Instants less than a day from one of the years 0 to 9999 are in the calendar. -/
theorem inCalendar_shifted {offset : ℤ} (near : offset.natAbs < 86400)
    (year : 0 ≤ t.day.year ∧ t.day.year ≤ 9999) : (t.shifted offset).inCalendar = true := by
  have bounds := year_bounds t.day
  have first := daysBeforeYear_mono year.1
  have last := daysBeforeYear_mono (show t.day.year + 1 ≤ 10000 by omega)
  rw [inCalendar, Day.inCalendar_iff]
  simp only [Day.sinceYearOne, day, shifted] at *
  simp only [daysBeforeYear, firstYear, lastYear] at *
  omega

theorem inCalendar_of_year (year : 0 ≤ t.day.year ∧ t.day.year ≤ 9999) :
    t.day.inCalendar = true := by
  have inCalendar := inCalendar_shifted (show (0 : ℤ).natAbs < 86400 by decide) year
  rwa [shifted, Int.add_zero] at inCalendar

/-! ## The forms -/

variable {separator : Char} {fraction rest : List Char}

section
variable (noLeap : t.nanos < 10 ^ 9) (year : 0 ≤ t.day.year ∧ t.day.year ≤ 9999)
  (isFraction : IsFraction fraction t.nanos)
include noLeap year isFraction

/-- In the strict form the offset comes right after the clock. -/
theorem readStrictInstant_plainText (separates : separator ∈ ['T', 't', ' '])
    (ends : EndsFraction rest) :
    readStrictInstant (t.plainText separator fraction ++ rest) = (do
      let (offset, rest) ← readStrictOffset rest
      let instant ← instantAt t.day t.clock offset
      return (instant, rest)) := by
  obtain ⟨month, day⟩ := t.day.date_lt
  have digits : yearText t.day.date.year = paddedDigits 4 t.day.year.natAbs := if_pos year
  have isYear := readNumber_width (show 0 < 4 by decide) (show t.day.year.natAbs < 10 ^ 4 by omega)
  have isMonth := readNumber_width (show 0 < 2 by decide) month
  have isDay := readNumber_width (show 0 < 2 by decide) day
  have named : Day.ofDate? ⟨|t.day.year|, t.day.date.month, t.day.date.day⟩ = some t.day := by
    rw [abs_of_nonneg year.1]
    exact t.day.ofDate?_date (inCalendar_of_year year)
  have hyphen : ∀ cs, expect '-' ('-' :: cs) = some cs := by simp [expect]
  have isClock := readClock_append (fun small rest => readNumber_width (by decide) small rest)
    (isValid_clock noLeap) (nanos_clock noLeap ▸ isFraction) ends
  have separated : ∀ cs, (expect 'T' (separator :: cs)).or
      ((expect 't' (separator :: cs)).or (expect ' ' (separator :: cs))) = some cs := by
    intro cs
    simp only [List.mem_cons, List.not_mem_nil, or_false] at separates
    rcases separates with rfl | rfl | rfl <;> simp [expect]
  simp [readStrictInstant, plainText, Day.text, digits, isYear, isMonth, isDay, hyphen, named,
    separated, isClock]

/-- In the other form with an offset there may be a space before it. -/
theorem readOffsetInstant_plainText (ends : EndsFraction rest) :
    readOffsetInstant (t.plainText ' ' fraction ++ rest) = (do
      let (offset, rest) ← readLooseOffset rest
      let instant ← instantAt t.day t.clock offset
      return (instant, rest)) := by
  have isDay := Day.readDay_append (inCalendar_of_year year)
  have isClock := readClock_append readPart_append (isValid_clock noLeap)
    (nanos_clock noLeap ▸ isFraction) ends
  simp [readOffsetInstant, plainText, isDay, readClock_space, isClock]

/-- In the forms without an offset nothing comes after the clock. -/
theorem readPlainInstant_plainText (gap : List Char → Option (List Char))
    (separated : ∀ cs, (gap (separator :: cs)).bind (readClock readPart) = readClock readPart cs) :
    readPlainInstant gap (t.plainText separator fraction) = some (t, []) := by
  have isDay := Day.readDay_append (inCalendar_of_year year)
  have isClock := readClock_append readPart_append (isValid_clock noLeap)
    (nanos_clock noLeap ▸ isFraction) endsFraction_nil
  rw [List.append_nil, ← separated] at isClock
  obtain ⟨cs, isGap, isClock⟩ := Option.bind_eq_some_iff.1 isClock
  simp [readPlainInstant, plainText, isDay, isGap, isClock, ofClock_clock noLeap]

/-- Without an offset the text is a reading in UTC. -/
theorem read?_plainText (separates : separator ∈ ['T', ' ']) :
    read? (t.plainText separator fraction) = some t := by
  have isDay := Day.readDay_append (inCalendar_of_year year)
  have noStrictOffset : readStrictOffset [] = none := rfl
  have strict := readStrictInstant_plainText noLeap year isFraction
    (show separator ∈ ['T', 't', ' '] by simp at separates ⊢; tauto) endsFraction_nil
  rw [List.append_nil] at strict
  simp only [List.mem_cons, List.not_mem_nil, or_false] at separates
  rcases separates with rfl | rfl
  · have noClock : ∀ cs, readClock readPart ('T' :: cs) = none := fun _ => rfl
    have noOffset : readOffsetInstant (t.plainText 'T' fraction) = none := by
      simp [readOffsetInstant, plainText, isDay, noClock]
    have separated : ∀ cs, (expect 'T' ('T' :: cs)).bind (readClock readPart) =
        readClock readPart cs := by
      simp [expect]
    have plain := readPlainInstant_plainText noLeap year isFraction (expect 'T') separated
    simp [read?, strict, noStrictOffset, noOffset, plain, complete]
  · have noLooseOffset : readLooseOffset [] = none := rfl
    have noOffset := readOffsetInstant_plainText noLeap year isFraction endsFraction_nil
    rw [List.append_nil] at noOffset
    have noSeparator : readPlainInstant (expect 'T') (t.plainText ' ' fraction) = none := by
      simp [readPlainInstant, plainText, isDay, expect]
    have plain := readPlainInstant_plainText noLeap year isFraction some readClock_space
    simp [read?, strict, noStrictOffset, noOffset, noLooseOffset, noSeparator, plain, complete]

end

/-! ## Whole texts in a place -/

section
variable {offset : ℤ} (near : offset.natAbs < 86400) (noLeap : t.nanos < 10 ^ 9)
  (year : 0 ≤ (t.shifted offset).day.year ∧ (t.shifted offset).day.year ≤ 9999)
include near noLeap year

/-- The day and the clock of a place, with its offset, tell the instant. -/
theorem instantAt_shifted :
    instantAt (t.shifted offset).day (t.shifted offset).clock offset = some t := by
  have back : (t.shifted offset).shifted (-offset) = t := by simp [shifted]
  have inCalendar := inCalendar_shifted (show (-offset).natAbs < 86400 by omega) year
  rw [back] at inCalendar
  have reading : ofClock (t.shifted offset).day (t.shifted offset).clock = t.shifted offset :=
    ofClock_clock noLeap
  simp [instantAt, reading, back, near, inCalendar]

variable (isFraction : IsFraction fraction t.nanos) (ends : EndsFraction rest)
include isFraction ends

theorem read?_of_strictOffset (separates : separator ∈ ['T', 't', ' '])
    (isOffset : readStrictOffset rest = some (offset, [])) :
    read? ((t.shifted offset).plainText separator fraction ++ rest) = some t := by
  have strict := readStrictInstant_plainText (t := t.shifted offset) noLeap year isFraction
    separates ends
  simp [read?, strict, isOffset, instantAt_shifted near noLeap year, complete]

theorem read?_of_looseOffset (noOffset : readStrictOffset rest = none)
    (isOffset : readLooseOffset rest = some (offset, [])) :
    read? ((t.shifted offset).plainText ' ' fraction ++ rest) = some t := by
  have strict := readStrictInstant_plainText (t := t.shifted offset) noLeap year isFraction
    (show ' ' ∈ ['T', 't', ' '] by simp) ends
  have loose := readOffsetInstant_plainText (t := t.shifted offset) noLeap year isFraction ends
  simp [read?, strict, noOffset, loose, isOffset, instantAt_shifted near noLeap year, complete]

end

end Instant

/-- All the texts of an instant read back as it.

In a place some whole minutes from UTC the instant is written as the day and the clock there
and the offset of the place, with `T` or a space before the clock and, in the form that takes it,
a space before the offset.  In UTC there may be a `Z` for the offset.  Without the offset the
text is the instant at which clocks in UTC show what the clock of the place shows, and a text
that is a day is its midnight in UTC. -/
theorem instants_read_back {t : Instant} {minutes : ℤ} (noLeap : t.nanos < 10 ^ 9)
    (near : minutes.natAbs < 1440)
    (year : 0 ≤ (t.shifted (minutes * 60)).day.year ∧
      (t.shifted (minutes * 60)).day.year ≤ 9999) :
    (∃ offset fraction, IsOffset offset minutes ∧ IsFraction fraction t.nanos) ∧
    (∀ offset fraction, IsOffset offset minutes → IsFraction fraction t.nanos →
      let wall := t.shifted (minutes * 60)
      (∀ separator ∈ ['T', 't', ' '],
        Instant.read? (wall.plainText separator fraction ++ offset) = some t) ∧
      Instant.read? (wall.plainText ' ' fraction ++ ' ' :: offset) = some t ∧
      (minutes = 0 → ∀ separator ∈ ['T', 't', ' '], ∀ zulu ∈ ['Z', 'z'],
        Instant.read? (wall.plainText separator fraction ++ [zulu]) = some t) ∧
      ∀ separator ∈ ['T', ' '],
        Instant.read? (wall.plainText separator fraction) = some wall) ∧
    ∀ cs d, Day.read? cs = some d → Instant.read? cs = some ⟨d.number * 86400, 0⟩ := by
  have seconds : (minutes * 60).natAbs < 86400 := by omega
  refine ⟨?_, fun offset fraction isOffset isFraction => ⟨?_, ?_, ?_, ?_⟩, ?_⟩
  · obtain ⟨offset, isOffset⟩ := exists_isOffset near
    exact ⟨offset, _, isOffset, isFraction_nine noLeap⟩
  · intro separator separates
    exact Instant.read?_of_strictOffset seconds noLeap year isFraction isOffset.endsFraction
      separates (readStrictOffset_of_isOffset isOffset)
  · apply Instant.read?_of_looseOffset seconds noLeap year isFraction
    · simp [EndsFraction, isDigit]
    · rfl
    · rw [readLooseOffset_space, readLooseOffset_of_isOffset isOffset]
  · intro isUtc separator separates zulu isZulu
    subst isUtc
    apply Instant.read?_of_strictOffset seconds noLeap year isFraction ?_ separates
    · simp only [List.mem_cons, List.not_mem_nil, or_false] at isZulu
      rcases isZulu with rfl | rfl <;> rfl
    · simp only [List.mem_cons, List.not_mem_nil, or_false] at isZulu
      rcases isZulu with rfl | rfl <;> simp [EndsFraction, isDigit]
  · intro separator separates
    exact Instant.read?_plainText (t := t.shifted (minutes * 60)) noLeap year isFraction separates
  · intro cs d isDay
    have midnight : Instant.ofClock d .midnight = ⟨d.number * 86400, 0⟩ := by
      simp [Instant.ofClock, Clock.midnight]
    rw [Day.instant_read?_of_read? isDay, midnight]

namespace Sample

/-- At half past eight in the evening of the last day of 2023 in UTC it is already 2024 in a
place five and a half hours east. -/
theorem instants_read_back_new_year :
    Instant.read? "2024-01-01T02:00:00.25+05:30".toList = some ⟨1704054600, 250000000⟩ ∧
    Instant.read? "2024-01-01 02:00:00.25 +05:30".toList = some ⟨1704054600, 250000000⟩ ∧
    Instant.read? "2024-01-01 02:00:00.25".toList = some ⟨1704074400, 250000000⟩ := by
  have isOffset : IsOffset "+05:30".toList 330 := @IsOffset.east 5 30 (by decide) (by decide)
  have isFraction : IsFraction ".25".toList 250000000 :=
    @IsFraction.digits "25".toList 250000000 (by decide) (by decide) (by decide) (by decide)
  obtain ⟨_, readsBack, _⟩ := @instants_read_back ⟨1704054600, 250000000⟩ 330 (by decide)
    (by decide) (by decide +kernel)
  obtain ⟨strict, spaced, _, plain⟩ := readsBack _ _ isOffset isFraction
  exact ⟨strict 'T' (by decide), spaced, plain ' ' (by decide)⟩

end Sample

end Backoffice
