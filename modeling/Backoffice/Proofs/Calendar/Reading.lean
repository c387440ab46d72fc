import Backoffice.Calendar.Reading

/-!
# Hyphens of days and instants

Every form of a day or an instant has a hyphen after its year, so a text without
hyphens is none.
-/

namespace Backoffice

namespace Calendar

variable {cs rest : List Char}

theorem suffix_of_readNumber {least most n : Nat} (read : readNumber least most cs = some (n, rest)) :
    rest <:+ cs := by
  unfold readNumber at read
  simp only at read
  split at read
  · cases read
    exact List.drop_suffix _ cs
  · cases read

theorem suffix_of_readYear {year : Int} (read : readYear cs = some (year, rest)) : rest <:+ cs := by
  have trimmed : Text.trimStart cs <:+ cs := List.dropWhile_suffix Text.isBlank
  rw [readYear] at read
  split at read
  next signed split =>
    obtain ⟨⟨n, others⟩, number, same⟩ := Option.map_eq_some_iff.1 read
    cases same
    have : rest <:+ Text.trimStart cs :=
      split ▸ (suffix_of_readNumber number).trans (List.suffix_cons '-' signed)
    exact this.trans trimmed
  next signed split =>
    obtain ⟨⟨n, others⟩, number, same⟩ := Option.map_eq_some_iff.1 read
    cases same
    have : rest <:+ Text.trimStart cs :=
      split ▸ (suffix_of_readNumber number).trans (List.suffix_cons '+' signed)
    exact this.trans trimmed
  next =>
    obtain ⟨⟨n, others⟩, number, same⟩ := Option.map_eq_some_iff.1 read
    cases same
    exact (suffix_of_readNumber number).trans trimmed

theorem mem_of_expect {c : Char} (expected : expect c cs = some rest) : c ∈ cs := by
  cases cs with
  | nil => cases expected
  | cons first others =>
      rw [expect] at expected
      split at expected
      next same => exact same ▸ List.mem_cons_self
      next => cases expected

theorem hyphen_of_readDay {day : Day} (read : readDay cs = some (day, rest)) : '-' ∈ cs := by
  obtain ⟨⟨year, afterYear⟩, isYear, read⟩ := Option.bind_eq_some_iff.1 read
  obtain ⟨afterHyphen, expected, _⟩ := Option.bind_eq_some_iff.1 read
  exact (suffix_of_readYear isYear).subset (mem_of_expect expected)

theorem hyphen_of_readStrictInstant {t : Instant} (read : readStrictInstant cs = some (t, rest)) :
    '-' ∈ cs := by
  obtain ⟨⟨year, afterYear⟩, isYear, read⟩ := Option.bind_eq_some_iff.1 read
  obtain ⟨afterHyphen, expected, _⟩ := Option.bind_eq_some_iff.1 read
  exact (suffix_of_readNumber isYear).subset (mem_of_expect expected)

theorem hyphen_of_readOffsetInstant {t : Instant} (read : readOffsetInstant cs = some (t, rest)) :
    '-' ∈ cs := by
  obtain ⟨⟨day, afterDay⟩, isDay, _⟩ := Option.bind_eq_some_iff.1 read
  exact hyphen_of_readDay isDay

theorem hyphen_of_readPlainInstant {gap : List Char → Option (List Char)} {t : Instant}
    (read : readPlainInstant gap cs = some (t, rest)) : '-' ∈ cs := by
  obtain ⟨⟨day, afterDay⟩, isDay, _⟩ := Option.bind_eq_some_iff.1 read
  exact hyphen_of_readDay isDay

theorem complete_eq_some {α : Type} {answer : Option (α × List Char)} {value : α}
    (completed : complete answer = some value) : answer = some (value, []) := by
  unfold complete at completed
  split at completed
  · cases completed
    rfl
  · cases completed

end Calendar

open Calendar

variable {cs : List Char}

/-- A text that is a day has a hyphen. -/
theorem Day.hyphen_of_read? {d : Day} (read : Day.read? cs = some d) : '-' ∈ cs :=
  hyphen_of_readDay (complete_eq_some read)

/-- A text that is an instant has a hyphen. -/
theorem Instant.hyphen_of_read? {t : Instant} (read : Instant.read? cs = some t) : '-' ∈ cs := by
  rw [Instant.read?] at read
  rcases Option.or_eq_some_iff.1 read with strict | ⟨_, read⟩
  · exact hyphen_of_readStrictInstant (complete_eq_some strict)
  rcases Option.or_eq_some_iff.1 read with offset | ⟨_, read⟩
  · exact hyphen_of_readOffsetInstant (complete_eq_some offset)
  rcases Option.or_eq_some_iff.1 read with plain | ⟨_, read⟩
  · exact hyphen_of_readPlainInstant (complete_eq_some plain)
  rcases Option.or_eq_some_iff.1 read with blank | ⟨_, read⟩
  · exact hyphen_of_readPlainInstant (complete_eq_some blank)
  obtain ⟨day, isDay, _⟩ := Option.map_eq_some_iff.1 read
  exact Day.hyphen_of_read? isDay

/-- No day starts with an apostrophe, as the literal of one does. -/
theorem Day.read?_apostrophe (cs : List Char) : Day.read? ('\'' :: cs) = none := rfl

end Backoffice
