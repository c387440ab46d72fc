import Mathlib.Algebra.Order.Ring.Int
import Mathlib.Tactic.SplitIfs
import Backoffice.Calendar.Reading
import Backoffice.Calendar.Writing
import Backoffice.Proofs.Calendar.Days
import Backoffice.Proofs.Calendar.Reading
import Backoffice.Proofs.Text.Numeral

/-!
# Written days read back

A day of the calendar is read from its text (`Day.read?_text`).  Every number of the text
ends where the next character is no digit or where it has as many digits as are read, so
reading stops at the end of each part.
-/

namespace Backoffice

open Text (digits digitsValue isBlank isDigit paddedDigits trimStart)

namespace Text

/-! ## Digits of a fixed width -/

theorem all_isDigit_paddedDigits (width n : ℕ) : (paddedDigits width n).all isDigit = true := by
  simp [paddedDigits, isDigit]

@[simp] theorem digitsValue_paddedDigits (width n : ℕ) :
    digitsValue (paddedDigits width n) = n := by
  rw [paddedDigits, digitsValue_zeros_append, digitsValue_digits]

theorem le_length_paddedDigits (width n : ℕ) : width ≤ (paddedDigits width n).length := by
  rw [paddedDigits, List.length_append, List.length_replicate]
  omega

/-- A number below a power of ten needs no more digits than that. -/
theorem length_paddedDigits {width n : ℕ} (positive : 0 < width) (small : n < 10 ^ width) :
    (paddedDigits width n).length = width := by
  have short : (digits n).length ≤ width :=
    (Nat.length_toDigits_le_iff (by decide) positive).2 small
  rw [paddedDigits, List.length_append, List.length_replicate]
  omega

theorem isBlank_of_isDigit {c : Char} (digit : isDigit c = true) : isBlank c = false := by
  rw [isDigit, Bool.and_eq_true, decide_eq_true_eq, decide_eq_true_eq] at digit
  have low : 48 ≤ c.toNat := digit.1
  have high : c.toNat ≤ 57 := digit.2
  simp [isBlank, blankRanges]
  omega

theorem trimStart_of_isDigit {c : Char} (rest : List Char) (digit : isDigit c = true) :
    trimStart (c :: rest) = c :: rest :=
  List.dropWhile_cons_of_neg (by simp [isBlank_of_isDigit digit])

end Text

namespace Calendar

variable {run rest : List Char}

/-! ## Parts -/

/-- The digits at the start of a text are read as far as they go, or as many as may be. -/
theorem readNumber_append {least most : ℕ} (digits : run.all isDigit = true)
    (long : least ≤ run.length) (short : run.length ≤ most)
    (stop : run.length = most ∨ ∀ c ∈ rest.head?, isDigit c = false) :
    readNumber least most (run ++ rest) = some (digitsValue run, rest) := by
  have each : ∀ c ∈ run, isDigit c = true := List.all_eq_true.1 digits
  have isRun : ((run ++ rest).take most).takeWhile isDigit = run := by
    rw [List.take_append, List.take_of_length_le short, List.takeWhile_append_of_pos each]
    rcases stop with full | stop
    · simp [full]
    · cases rest with
      | nil => simp
      | cons c others =>
          have notDigit := stop c rfl
          cases most - run.length with
          | zero => simp
          | succ => simp [notDigit]
  simp [readNumber, isRun, long]

/-- A number that fills its width is read by it, whatever comes after it. -/
theorem readNumber_width {width n : ℕ} (positive : 0 < width) (small : n < 10 ^ width)
    (rest : List Char) :
    readNumber width width (paddedDigits width n ++ rest) = some (n, rest) := by
  have length := Text.length_paddedDigits positive small
  rw [readNumber_append (Text.all_isDigit_paddedDigits width n) length.ge length.le (.inl length),
    Text.digitsValue_paddedDigits]

/-- A number that is read has a digit first, so no blanks are dropped before it. -/
theorem trimStart_of_readNumber {least most n : ℕ} {cs : List Char} (positive : 0 < least)
    (read : readNumber least most cs = some (n, rest)) :
    ∃ first others, cs = first :: others ∧ isDigit first = true ∧ trimStart cs = cs := by
  cases cs with
  | nil => simp [readNumber, positive.ne'] at read
  | cons first others =>
      cases digit : isDigit first with
      | true => exact ⟨first, others, rfl, digit, Text.trimStart_of_isDigit others digit⟩
      | false =>
          cases most <;> simp [readNumber, digit, positive.ne'] at read

/-- A number of so many digits is one of fewer digits at least. -/
theorem readNumber_of_le {least least' most n : ℕ} {cs : List Char} (fewer : least' ≤ least)
    (read : readNumber least most cs = some (n, rest)) :
    readNumber least' most cs = some (n, rest) := by
  rw [readNumber] at read ⊢
  split at read
  next long =>
    rw [if_pos (fewer.trans long)]
    exact read
  next => cases read

theorem readPart_of_readNumber {n : ℕ} {cs : List Char}
    (read : readNumber 2 2 cs = some (n, rest)) : readPart cs = some (n, rest) := by
  obtain ⟨_, _, _, _, untrimmed⟩ := trimStart_of_readNumber (by decide) read
  rw [readPart, untrimmed]
  exact readNumber_of_le (by decide) read

theorem readYear_of_readNumber {n : ℕ} {cs : List Char}
    (read : readNumber 4 4 cs = some (n, rest)) : readYear cs = some ((n : ℤ), rest) := by
  obtain ⟨first, others, rfl, digit, untrimmed⟩ := trimStart_of_readNumber (by decide) read
  rw [readYear, untrimmed]
  split
  next same =>
    cases same
    cases digit
  next same =>
    cases same
    cases digit
  next =>
    rw [readNumber_of_le (by decide) read]
    rfl

/-- A number of two digits is read, whatever comes after it. -/
theorem readPart_append {n : ℕ} (small : n < 100) (rest : List Char) :
    readPart (paddedDigits 2 n ++ rest) = some (n, rest) :=
  readPart_of_readNumber (readNumber_width (by decide) small rest)

/-- The digits of a year after its sign are read up to the hyphen after them. -/
theorem readNumber_yearDigits (n : ℕ) (rest : List Char) :
    readNumber 1 (paddedDigits 4 n ++ '-' :: rest).length (paddedDigits 4 n ++ '-' :: rest) =
      some (n, '-' :: rest) := by
  have long := Text.le_length_paddedDigits 4 n
  have stop : ∀ c ∈ ('-' :: rest).head?, isDigit c = false := by
    simp [isDigit]
  rw [readNumber_append (Text.all_isDigit_paddedDigits 4 n) (by omega) (by simp) (.inr stop),
    Text.digitsValue_paddedDigits]

/-- A year is read up to the hyphen after it. -/
theorem readYear_yearText (year : ℤ) (rest : List Char) :
    readYear (yearText year ++ '-' :: rest) = some (year, '-' :: rest) := by
  have signed := readNumber_yearDigits year.natAbs rest
  rw [yearText]
  split_ifs with plain negative
  · have small : year.natAbs < 10 ^ 4 := by omega
    rw [readYear_of_readNumber (readNumber_width (by decide) small _)]
    simp [abs_of_nonneg plain.1]
  · rw [List.cons_append]
    show (readNumber 1 (paddedDigits 4 year.natAbs ++ '-' :: rest).length _).map _ = _
    rw [signed]
    simp [abs_of_neg negative]
  · rw [List.cons_append]
    show (readNumber 1 (paddedDigits 4 year.natAbs ++ '-' :: rest).length _).map _ = _
    rw [signed]
    simp [abs_of_nonneg (not_lt.1 negative)]

end Calendar

open Calendar

namespace Day

variable {d : Day}

/-! ## Days -/

/-- A day is read, whatever comes after it. -/
theorem readDay_append (inCalendar : d.inCalendar = true) (rest : List Char) :
    readDay (d.text ++ rest) = some (d, rest) := by
  obtain ⟨month, day⟩ := d.date_lt
  simp [readDay, text, readYear_yearText, readPart_append month, readPart_append day, expect,
    d.ofDate?_date inCalendar]

/-- A day of the calendar reads back. -/
theorem read?_text (inCalendar : d.inCalendar = true) : read? d.text = some d := by
  have isDay := readDay_append inCalendar []
  rw [List.append_nil] at isDay
  rw [read?, isDay]
  rfl

/-- A day has no clock, so it is no instant in the strict form. -/
theorem readStrictInstant_of_readDay {cs : List Char} (isDay : readDay cs = some (d, [])) :
    readStrictInstant cs = none := by
  refine Option.eq_none_iff_forall_not_mem.2 fun answer read => ?_
  obtain ⟨⟨year, afterYear⟩, isYear, read⟩ := Option.bind_eq_some_iff.1 read
  obtain ⟨beforeMonth, hyphen, read⟩ := Option.bind_eq_some_iff.1 read
  obtain ⟨⟨month, afterMonth⟩, isMonth, read⟩ := Option.bind_eq_some_iff.1 read
  obtain ⟨beforeDay, again, read⟩ := Option.bind_eq_some_iff.1 read
  obtain ⟨⟨day, afterDay⟩, isDayNumber, read⟩ := Option.bind_eq_some_iff.1 read
  obtain ⟨strictDay, named, read⟩ := Option.bind_eq_some_iff.1 read
  obtain ⟨beforeClock, separated, read⟩ := Option.bind_eq_some_iff.1 read
  have sameDay : readDay cs = some (strictDay, afterDay) := by
    simp [readDay, readYear_of_readNumber isYear, hyphen, readPart_of_readNumber isMonth, again,
      readPart_of_readNumber isDayNumber, named]
  rw [isDay] at sameDay
  cases sameDay
  cases separated

/-- A text that is a day is its midnight as an instant. -/
theorem instant_read?_of_read? {cs : List Char} (read : read? cs = some d) :
    Instant.read? cs = some (Instant.ofClock d .midnight) := by
  have noClock : readClock readPart [] = none := rfl
  have isDay := complete_eq_some read
  simp [Instant.read?, readStrictInstant_of_readDay isDay, readOffsetInstant, readPlainInstant,
    isDay, noClock, expect, complete, read]

/-- As an instant a day is its midnight. -/
theorem instant_read?_text (inCalendar : d.inCalendar = true) :
    Instant.read? d.text = some (Instant.ofClock d .midnight) :=
  instant_read?_of_read? (read?_text inCalendar)

end Day

end Backoffice
