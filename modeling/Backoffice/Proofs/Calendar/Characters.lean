import Backoffice.Proofs.Calendar.Reading

/-!
# Characters of days and instants

A text that is read as a day or an instant has no characters but digits, blanks and a few
marks.  Each part takes such characters off the front of the text (`Takes`), and what is
complete leaves none.
-/

namespace Backoffice

open Text (isBlank isDigit trimStart)

namespace Calendar

/-- The characters of days and instants that are neither digits nor blanks. -/
def timeMarks : List Char := ['+', '-', '\u2212', ':', '.', 'T', 't', 'Z', 'z']

/-- A character may stand in a day or an instant. -/
def IsTimeCharacter (c : Char) : Prop := isDigit c = true ∨ isBlank c = true ∨ c ∈ timeMarks

instance decidableIsTimeCharacter (c : Char) : Decidable (IsTimeCharacter c) :=
  inferInstanceAs (Decidable (isDigit c = true ∨ isBlank c = true ∨ c ∈ timeMarks))

/-- What comes before the rest of a text is made of such characters. -/
def Takes (cs rest : List Char) : Prop :=
  ∃ taken, cs = taken ++ rest ∧ ∀ c ∈ taken, IsTimeCharacter c

variable {cs between rest : List Char}

theorem Takes.refl (cs : List Char) : Takes cs cs := ⟨[], rfl, by simp⟩

theorem Takes.trans (first : Takes cs between) (second : Takes between rest) : Takes cs rest := by
  obtain ⟨taken, rfl, each⟩ := first
  obtain ⟨more, rfl, eachMore⟩ := second
  refine ⟨taken ++ more, (List.append_assoc _ _ _).symm, fun c member => ?_⟩
  exact (List.mem_append.1 member).elim (each c) (eachMore c)

theorem Takes.cons {c : Char} (first : IsTimeCharacter c) (taken : Takes cs rest) :
    Takes (c :: cs) rest := by
  obtain ⟨taken, rfl, each⟩ := taken
  exact ⟨c :: taken, rfl, List.forall_mem_cons.2 ⟨first, each⟩⟩

theorem takes_dropWhile {among : Char → Bool} (each : ∀ c, among c = true → IsTimeCharacter c)
    (cs : List Char) : Takes cs (cs.dropWhile among) := by
  refine ⟨cs.takeWhile among, List.takeWhile_append_dropWhile.symm, fun c member => ?_⟩
  exact each c (List.all_eq_true.1 (List.all_takeWhile (l := cs)) c member)

theorem takes_trimStart (cs : List Char) : Takes cs (trimStart cs) :=
  takes_dropWhile (fun _ blank => .inr (.inl blank)) cs

/-! ## Parts -/

theorem takes_expect {c : Char} (allowed : IsTimeCharacter c) (expected : expect c cs = some rest) :
    Takes cs rest := by
  cases cs with
  | nil => cases expected
  | cons first others =>
      rw [expect] at expected
      split at expected
      next same =>
        cases expected
        exact (Takes.refl rest).cons (same ▸ allowed)
      next => cases expected

theorem takes_readNumber {least most n : Nat} (read : readNumber least most cs = some (n, rest)) :
    Takes cs rest := by
  have start : (cs.take most).takeWhile isDigit <+: cs :=
    (List.takeWhile_prefix isDigit).trans (List.take_prefix most cs)
  have each := List.all_eq_true.1 (List.all_takeWhile (p := isDigit) (l := cs.take most))
  unfold readNumber at read
  simp only at read
  split at read
  next =>
    cases read
    exact ⟨_, (List.prefix_iff_eq_append.1 start).symm, fun c member => .inl (each c member)⟩
  next => cases read

theorem takes_readPart {n : Nat} (read : readPart cs = some (n, rest)) : Takes cs rest :=
  (takes_trimStart cs).trans (takes_readNumber read)

theorem takes_readYear {year : Int} (read : readYear cs = some (year, rest)) : Takes cs rest := by
  refine (takes_trimStart cs).trans ?_
  rw [readYear] at read
  split at read
  next signed split =>
    obtain ⟨_, number, same⟩ := Option.map_eq_some_iff.1 read
    cases same
    rw [split]
    exact (takes_readNumber number).cons (by decide)
  next signed split =>
    obtain ⟨_, number, same⟩ := Option.map_eq_some_iff.1 read
    cases same
    rw [split]
    exact (takes_readNumber number).cons (by decide)
  next =>
    obtain ⟨_, number, same⟩ := Option.map_eq_some_iff.1 read
    cases same
    exact takes_readNumber number

theorem takes_readFraction {nanos : Nat} (read : readFraction cs = some (nanos, rest)) :
    Takes cs rest := by
  unfold readFraction at read
  split at read
  next others =>
    simp only at read
    split at read
    next => cases read
    next =>
      cases read
      refine Takes.cons (by decide) ?_
      exact ⟨_, (List.prefix_iff_eq_append.1 (List.takeWhile_prefix isDigit)).symm,
        fun c member => .inl (List.all_eq_true.1 List.all_takeWhile c member)⟩
  next =>
    cases read
    exact .refl _

theorem takes_readDay {day : Day} (read : readDay cs = some (day, rest)) : Takes cs rest := by
  obtain ⟨_, isYear, read⟩ := Option.bind_eq_some_iff.1 read
  obtain ⟨_, hyphen, read⟩ := Option.bind_eq_some_iff.1 read
  obtain ⟨_, isMonth, read⟩ := Option.bind_eq_some_iff.1 read
  obtain ⟨_, again, read⟩ := Option.bind_eq_some_iff.1 read
  obtain ⟨_, isDay, read⟩ := Option.bind_eq_some_iff.1 read
  obtain ⟨_, _, read⟩ := Option.bind_eq_some_iff.1 read
  cases read
  exact (takes_readYear isYear).trans <| (takes_expect (by decide) hyphen).trans <|
    (takes_readPart isMonth).trans <| (takes_expect (by decide) again).trans (takes_readPart isDay)

theorem takes_readClock {part : List Char → Option (Nat × List Char)}
    (takesPart : ∀ {cs n rest}, part cs = some (n, rest) → Takes cs rest) {clock : Clock}
    (read : readClock part cs = some (clock, rest)) : Takes cs rest := by
  obtain ⟨_, isHour, read⟩ := Option.bind_eq_some_iff.1 read
  obtain ⟨_, colon, read⟩ := Option.bind_eq_some_iff.1 read
  obtain ⟨_, isMinute, read⟩ := Option.bind_eq_some_iff.1 read
  obtain ⟨_, again, read⟩ := Option.bind_eq_some_iff.1 read
  obtain ⟨_, isSecond, read⟩ := Option.bind_eq_some_iff.1 read
  obtain ⟨_, isFraction, read⟩ := Option.bind_eq_some_iff.1 read
  simp only at read
  split at read
  next =>
    cases read
    exact (takesPart isHour).trans <| (takes_expect (by decide) colon).trans <|
      (takesPart isMinute).trans <| (takes_expect (by decide) again).trans <|
      (takesPart isSecond).trans (takes_readFraction isFraction)
  next => cases read

/-! ## Offsets -/

theorem takes_readOffsetSign {sign : Int} (read : readOffsetSign cs = some (sign, rest)) :
    Takes cs rest := by
  unfold readOffsetSign at read
  split at read
  next =>
    cases read
    exact (Takes.refl rest).cons (by decide)
  next =>
    cases read
    exact (Takes.refl rest).cons (by decide)
  next =>
    cases read
    exact (Takes.refl rest).cons (by decide)
  next => cases read

theorem takes_readOffset {gap : List Char → Option (List Char)}
    (takesGap : ∀ {cs rest}, gap cs = some rest → Takes cs rest) {offset : Int}
    (read : readOffset gap cs = some (offset, rest)) : Takes cs rest := by
  obtain ⟨_, isSign, read⟩ := Option.bind_eq_some_iff.1 read
  obtain ⟨_, isHours, read⟩ := Option.bind_eq_some_iff.1 read
  obtain ⟨_, isGap, read⟩ := Option.bind_eq_some_iff.1 read
  obtain ⟨_, isMinutes, read⟩ := Option.bind_eq_some_iff.1 read
  simp only at read
  split at read
  next =>
    cases read
    exact (takes_readOffsetSign isSign).trans <| (takes_readNumber isHours).trans <|
      (takesGap isGap).trans (takes_readNumber isMinutes)
  next => cases read

theorem takes_readStrictOffset {offset : Int} (read : readStrictOffset cs = some (offset, rest)) :
    Takes cs rest := by
  unfold readStrictOffset at read
  split at read
  next =>
    cases read
    exact (Takes.refl rest).cons (by decide)
  next =>
    cases read
    exact (Takes.refl rest).cons (by decide)
  next => exact takes_readOffset (takes_expect (by decide)) read

theorem takes_readLooseOffset {offset : Int} (read : readLooseOffset cs = some (offset, rest)) :
    Takes cs rest := by
  refine (takes_trimStart cs).trans (takes_readOffset (fun {cs rest} isGap => ?_) read)
  cases isGap
  refine takes_dropWhile (fun c among => ?_) cs
  rw [Bool.or_eq_true, decide_eq_true_eq] at among
  rcases among with rfl | blank
  · exact .inr (.inr (by decide))
  · exact .inr (.inl blank)

/-! ## Instants -/

/-- A strict instant has a letter or a blank between its day and its time. -/
theorem takes_strictGap
    (gap : (expect 'T' cs).or ((expect 't' cs).or (expect ' ' cs)) = some rest) :
    Takes cs rest := by
  rcases Option.or_eq_some_iff.1 gap with upper | ⟨_, gap⟩
  · exact takes_expect (by decide) upper
  rcases Option.or_eq_some_iff.1 gap with lower | ⟨_, blank⟩
  · exact takes_expect (by decide) lower
  · exact takes_expect (by decide) blank

theorem takes_readStrictInstant {t : Instant} (read : readStrictInstant cs = some (t, rest)) :
    Takes cs rest := by
  obtain ⟨_, isYear, read⟩ := Option.bind_eq_some_iff.1 read
  obtain ⟨_, hyphen, read⟩ := Option.bind_eq_some_iff.1 read
  obtain ⟨_, isMonth, read⟩ := Option.bind_eq_some_iff.1 read
  obtain ⟨_, again, read⟩ := Option.bind_eq_some_iff.1 read
  obtain ⟨_, isDay, read⟩ := Option.bind_eq_some_iff.1 read
  obtain ⟨_, _, read⟩ := Option.bind_eq_some_iff.1 read
  obtain ⟨_, gap, read⟩ := Option.bind_eq_some_iff.1 read
  obtain ⟨_, isClock, read⟩ := Option.bind_eq_some_iff.1 read
  obtain ⟨_, isOffset, read⟩ := Option.bind_eq_some_iff.1 read
  obtain ⟨_, _, read⟩ := Option.bind_eq_some_iff.1 read
  cases read
  exact (takes_readNumber isYear).trans <| (takes_expect (by decide) hyphen).trans <|
    (takes_readNumber isMonth).trans <| (takes_expect (by decide) again).trans <|
    (takes_readNumber isDay).trans <| (takes_strictGap gap).trans <|
    (takes_readClock takes_readNumber isClock).trans (takes_readStrictOffset isOffset)

theorem takes_readOffsetInstant {t : Instant} (read : readOffsetInstant cs = some (t, rest)) :
    Takes cs rest := by
  obtain ⟨_, isDay, read⟩ := Option.bind_eq_some_iff.1 read
  obtain ⟨_, isClock, read⟩ := Option.bind_eq_some_iff.1 read
  obtain ⟨_, isOffset, read⟩ := Option.bind_eq_some_iff.1 read
  obtain ⟨_, _, read⟩ := Option.bind_eq_some_iff.1 read
  cases read
  exact (takes_readDay isDay).trans <| (takes_readClock takes_readPart isClock).trans <|
    takes_readLooseOffset isOffset

theorem takes_readPlainInstant {gap : List Char → Option (List Char)}
    (takesGap : ∀ {cs rest}, gap cs = some rest → Takes cs rest) {t : Instant}
    (read : readPlainInstant gap cs = some (t, rest)) : Takes cs rest := by
  obtain ⟨_, isDay, read⟩ := Option.bind_eq_some_iff.1 read
  obtain ⟨_, isGap, read⟩ := Option.bind_eq_some_iff.1 read
  obtain ⟨_, isClock, read⟩ := Option.bind_eq_some_iff.1 read
  cases read
  exact (takes_readDay isDay).trans <| (takesGap isGap).trans <|
    takes_readClock takes_readPart isClock

/-- A text of which nothing is left has such characters only. -/
theorem Takes.each (taken : Takes cs []) : ∀ c ∈ cs, IsTimeCharacter c := by
  obtain ⟨taken, rfl, each⟩ := taken
  rwa [List.append_nil]

end Calendar

open Calendar

variable {cs : List Char}

/-- A text that is a day has such characters only. -/
theorem Day.each_of_read? {d : Day} (read : Day.read? cs = some d) :
    ∀ c ∈ cs, IsTimeCharacter c :=
  (takes_readDay (complete_eq_some read)).each

/-- A text that is an instant has such characters only. -/
theorem Instant.each_of_read? {t : Instant} (read : Instant.read? cs = some t) :
    ∀ c ∈ cs, IsTimeCharacter c := by
  rw [Instant.read?] at read
  rcases Option.or_eq_some_iff.1 read with strict | ⟨_, read⟩
  · exact (takes_readStrictInstant (complete_eq_some strict)).each
  rcases Option.or_eq_some_iff.1 read with offset | ⟨_, read⟩
  · exact (takes_readOffsetInstant (complete_eq_some offset)).each
  rcases Option.or_eq_some_iff.1 read with plain | ⟨_, read⟩
  · exact (takes_readPlainInstant (takes_expect (by decide)) (complete_eq_some plain)).each
  rcases Option.or_eq_some_iff.1 read with blank | ⟨_, read⟩
  · refine (takes_readPlainInstant (fun {cs rest} same => ?_) (complete_eq_some blank)).each
    cases same
    exact .refl _
  obtain ⟨day, isDay, _⟩ := Option.map_eq_some_iff.1 read
  exact Day.each_of_read? isDay

end Backoffice
