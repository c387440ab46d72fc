import Mathlib.Data.List.TakeWhile
import Backoffice.Number.Text
import Backoffice.Proofs.Number.Shortest
import Backoffice.Proofs.Text.Numeral
import Backoffice.Proofs.Text.Pieces

/-!
# The text of a double reads back

A double is written in one of three forms of its shortest decimal: as a whole number
with `.0`, with a point among or before the digits, or with a power.  Each form reads
as a decimal of the same value (`Decimal.shows_whole`, `Decimal.shows_positional`,
`Decimal.shows_scientific`), and that is rounded to the double.

A text that is read has digits and a few marks only (`Double.each_of_read?`).
-/

namespace Backoffice

open Text (isDigit digits digitsValue)

namespace Decimal

/-! ## Reading magnitudes -/

/-- Digits with a point. -/
theorem readMagnitude_point {whole fraction : List Char} (rest : List Char)
    (wholeDigits : whole.all isDigit = true) (someDigit : whole ≠ []) (fractionDigits : fraction.all isDigit = true)
    (stop : ∀ c ∈ rest.head?, isDigit c = false) :
    readMagnitude (whole ++ '.' :: (fraction ++ rest)) = (readPower rest).map fun power =>
      ⟨digitsValue (whole ++ fraction), power - fraction.length⟩ := by
  obtain ⟨take, drop⟩ := Text.takeWhile_digits ('.' :: (fraction ++ rest)) wholeDigits
    (by rintro c ⟨⟩; rfl)
  obtain ⟨takeFraction, dropFraction⟩ := Text.takeWhile_digits rest fractionDigits stop
  rw [readMagnitude]
  simp only [take, drop, takeFraction, dropFraction]
  rw [if_neg (fun none => someDigit none.1)]

/-- Digits without a point. -/
theorem readMagnitude_plain {whole : List Char} (power : List Char) (wholeDigits : whole.all isDigit = true)
    (someDigit : whole ≠ []) :
    readMagnitude (whole ++ 'e' :: power) = (Text.integer? power).map fun power =>
      ⟨digitsValue whole, power⟩ := by
  obtain ⟨take, drop⟩ := Text.takeWhile_digits ('e' :: power) wholeDigits (by rintro c ⟨⟩; rfl)
  rw [readMagnitude]
  simp only [take, drop]
  rw [if_neg (fun none => someDigit none.1)]
  show (Text.integer? power).map (fun power =>
    (⟨digitsValue (whole ++ []), power - ([] : List Char).length⟩ : Decimal)) = _
  simp

/-! ## Written decimals -/

/-- That a text is a decimal of a double: it starts with a digit, shows by a point or a
power that it is no whole number, and reads as the decimal.  A hyphen in it is the sign
of the power. -/
structure Shows (cs : List Char) (d : Decimal) : Prop where
  digit : ∃ first rest, cs = first :: rest ∧ isDigit first = true
  mark : '.' ∈ cs ∨ 'e' ∈ cs
  read : ∃ other, readMagnitude cs = some other ∧ other.value = d.value
  hyphen : '-' ∈ cs → ∃ mantissa power, cs = mantissa ++ 'e' :: '-' :: power ∧ '-' ∉ mantissa

theorem not_mem_of_digits {cs : List Char} {c : Char} (digits : cs.all isDigit = true)
    (noDigit : isDigit c = false) : c ∉ cs := by
  intro member
  rw [List.all_eq_true.1 digits c member] at noDigit
  cases noDigit

/-- Digits around a point are a decimal. -/
theorem shows_point (whole fraction : List Char) {d : Decimal}
    (wholeDigits : whole.all isDigit = true) (someDigit : whole ≠ [])
    (fractionDigits : fraction.all isDigit = true)
    (same : (⟨digitsValue (whole ++ fraction), -fraction.length⟩ : Decimal).value = d.value) :
    Shows (whole ++ '.' :: fraction) d where
  digit := by
    cases whole with
    | nil => exact absurd rfl someDigit
    | cons first rest =>
        rw [List.all_cons, Bool.and_eq_true] at wholeDigits
        exact ⟨first, rest ++ '.' :: fraction, rfl, wholeDigits.1⟩
  mark := .inl (by simp)
  read := by
    have read := readMagnitude_point [] wholeDigits someDigit fractionDigits (by simp)
    rw [List.append_nil] at read
    refine ⟨_, read, ?_⟩
    rw [← same]
    simp
  hyphen := by
    intro member
    have inWhole : '-' ∉ whole := not_mem_of_digits wholeDigits rfl
    have inFraction : '-' ∉ fraction := not_mem_of_digits fractionDigits rfl
    simp [inWhole, inFraction] at member

variable {d : Decimal}

/-- The value of a decimal with more zeros. -/
theorem value_zeros (significand zeros : ℕ) (exponent : ℤ) :
    (⟨significand * 10 ^ zeros, exponent - zeros⟩ : Decimal).value =
      (⟨significand, exponent⟩ : Decimal).value := by
  unfold value
  push_cast
  rw [zpow_sub₀ (by norm_num), zpow_natCast]
  field_simp

/-- A whole number with `.0` after it. -/
theorem shows_whole (notNegative : 0 ≤ d.exponent) : Shows (d.positional ++ ['.', '0']) d := by
  have written : d.positional = digits d.significand ++ List.replicate d.exponent.natAbs '0' := by
    simp only [positional]
    rw [if_pos notNegative]
  rw [written]
  refine shows_point _ ['0'] ?_ ?_ rfl ?_
  · simp [List.all_append, isDigit]
  · simp
  · have zeros : List.replicate d.exponent.natAbs '0' ++ ['0'] =
        List.replicate (d.exponent.natAbs + 1) '0' := by
      rw [List.replicate_succ']
    rw [List.append_assoc, zeros, Text.digitsValue_append_zeros, Text.digitsValue_digits]
    have power : (-(['0'] : List Char).length : ℤ) =
        d.exponent - (d.exponent.natAbs + 1 : ℕ) := by
      simp only [List.length_cons, List.length_nil]
      omega
    rw [power, value_zeros]

/-- A decimal with a point among or before its digits. -/
theorem shows_positional (negative : d.exponent < 0) : Shows d.positional d := by
  have digitsAll := Text.all_isDigit_digits d.significand
  by_cases among : 0 < d.pointPlace
  · have written : d.positional = (digits d.significand).take d.pointPlace.natAbs ++
        '.' :: (digits d.significand).drop d.pointPlace.natAbs := by
      simp only [positional]
      rw [if_neg (by omega), if_pos among]
    have places : d.pointPlace.natAbs ≤ (digits d.significand).length := by
      unfold pointPlace at *
      omega
    rw [written]
    refine shows_point _ _ ?_ ?_ ?_ ?_
    · exact List.all_eq_true.2 fun c member =>
        List.all_eq_true.1 digitsAll c (List.mem_of_mem_take member)
    · have : d.pointPlace.natAbs ≠ 0 := by omega
      simp [List.take_eq_nil_iff, this]
    · exact List.all_eq_true.2 fun c member =>
        List.all_eq_true.1 digitsAll c (List.mem_of_mem_drop member)
    · rw [List.take_append_drop, Text.digitsValue_digits, List.length_drop]
      congr 2
      unfold pointPlace at *
      omega
  · have written : d.positional = ['0'] ++
        '.' :: (List.replicate d.pointPlace.natAbs '0' ++ digits d.significand) := by
      simp only [positional]
      rw [if_neg (by omega), if_neg among]
      rfl
    rw [written]
    refine shows_point _ _ rfl (by simp) ?_ ?_
    · simp [List.all_append, isDigit]
    · have zeros : ['0'] ++ (List.replicate d.pointPlace.natAbs '0' ++ digits d.significand) =
          List.replicate (d.pointPlace.natAbs + 1) '0' ++ digits d.significand := by
        rw [List.replicate_succ]
        rfl
      rw [zeros, Text.digitsValue_zeros_append, Text.digitsValue_digits]
      congr 2
      rw [List.length_append, List.length_replicate]
      unfold pointPlace at *
      omega

/-- The power of ten of a decimal reads back. -/
theorem integer?_powerText (power : ℤ) : Text.integer? (powerText power) = some power := by
  rw [powerText]
  split
  next negative =>
    rw [Text.integer?, Text.natural?_digits, Option.map_some, Int.ofNat_eq_natCast]
    congr 1
    omega
  next notNegative =>
    rw [Text.integer?, Text.natural?_digits, Option.map_some, Int.ofNat_eq_natCast]
    congr 1
    omega

/-- A mantissa and a power are a decimal, when they read as one. -/
theorem shows_power {first : Char} {others : List Char} {power : ℤ} {other : Decimal}
    (digit : isDigit first = true) (noHyphen : '-' ∉ first :: others)
    (read : readMagnitude (first :: others ++ 'e' :: powerText power) = some other)
    (same : other.value = d.value) : Shows (first :: others ++ 'e' :: powerText power) d where
  digit := ⟨first, _, rfl, digit⟩
  mark := .inr (by simp)
  read := ⟨other, read, same⟩
  hyphen := by
    intro member
    refine ⟨first :: others, digits power.natAbs, ?_, noHyphen⟩
    have inPower : '-' ∈ powerText power := by
      rw [List.mem_append] at member
      simpa [noHyphen] using member
    have noDigit : '-' ∉ digits power.natAbs := not_mem_of_digits (by simp) rfl
    unfold powerText at inPower ⊢
    split at inPower
    next negative => rw [if_pos negative]
    next => simp [noDigit] at inPower

/-- A decimal with a power. -/
theorem shows_scientific (d : Decimal) : Shows d.scientific d := by
  cases split : digits d.significand with
  | nil => exact absurd split (Text.digits_ne_nil _)
  | cons first rest =>
      have digitsAll := Text.all_isDigit_digits d.significand
      rw [split, List.all_cons, Bool.and_eq_true] at digitsAll
      obtain ⟨firstDigit, restDigits⟩ := digitsAll
      have singleDigits : [first].all isDigit = true := by simp [firstDigit]
      have placed : d.pointPlace = d.exponent + (rest.length + 1) := by
        simp [pointPlace, split]
      have significand : digitsValue (first :: rest) = d.significand := by
        rw [← split, Text.digitsValue_digits]
      cases rest with
      | nil =>
          have written : d.scientific = [first] ++ 'e' :: powerText (d.pointPlace - 1) := by
            simp only [scientific, split]
          have read := readMagnitude_plain (powerText (d.pointPlace - 1)) singleDigits
            (by simp)
          rw [integer?_powerText, Option.map_some] at read
          rw [written]
          refine shows_power firstDigit (not_mem_of_digits singleDigits rfl) read ?_
          rw [significand, placed]
          congr 2
          simp
      | cons second others =>
          have written : d.scientific =
              first :: '.' :: second :: others ++ 'e' :: powerText (d.pointPlace - 1) := by
            simp only [scientific, split]
          have noHyphen : '-' ∉ first :: '.' :: second :: others := by
            have inFirst : '-' ∉ [first] := not_mem_of_digits singleDigits rfl
            have inRest : '-' ∉ second :: others := not_mem_of_digits restDigits rfl
            simp only [List.mem_cons, not_or] at inFirst inRest ⊢
            exact ⟨inFirst.1, by decide, inRest⟩
          have read := readMagnitude_point ('e' :: powerText (d.pointPlace - 1)) singleDigits
            (by simp) restDigits (by rintro c ⟨⟩; rfl)
          have power : readPower ('e' :: powerText (d.pointPlace - 1)) = some (d.pointPlace - 1) :=
            integer?_powerText (d.pointPlace - 1)
          rw [power, Option.map_some] at read
          rw [written]
          refine shows_power firstDigit noHyphen read ?_
          show (⟨digitsValue (first :: second :: others), _⟩ : Decimal).value = _
          rw [significand, placed]
          congr 2
          simp only [List.length_cons]
          omega

end Decimal

/-! ## Written doubles -/

namespace Double

variable {x : Double}

/-- Zero is the only double without a significand. -/
theorem shortest_of_zero (zero : x.scaled.significand = 0) (tie : Tie) :
    x.shortest tie = ⟨0, 0⟩ := by
  rw [shortest, Scaled.shortest, if_pos zero]

/-- The magnitude of a double, as it is written before its sign. -/
def markedMagnitude (x : Double) : List Char :=
  let d := x.shortest .even
  if d.significand = 0 then ['0', '.', '0']
  else if 0 ≤ d.exponent ∧ d.pointPlace ≤ 16 then d.positional ++ ['.', '0']
  else if -5 < d.pointPlace ∧ d.pointPlace ≤ 16 then d.positional
  else d.scientific

theorem markedText_eq (x : Double) : x.markedText = x.signed x.markedMagnitude := rfl

/-- A double is written as its shortest decimal. -/
theorem shows_markedMagnitude (x : Double) :
    Decimal.Shows x.markedMagnitude (x.shortest .even) := by
  unfold markedMagnitude
  simp only
  split
  next zero =>
    refine Decimal.shows_point ['0'] ['0'] rfl (by simp) rfl ?_
    simp [Decimal.value, zero, digitsValue, Text.digitValue]
  next =>
    split
    next whole => exact Decimal.shows_whole whole.1
    next notWhole =>
      split
      next positional => exact Decimal.shows_positional (by omega)
      next => exact Decimal.shows_scientific _

/-- Any decimal of value zero reads as the zero with the sign. -/
theorem ofDecimal_of_zero (zero : x.scaled.significand = 0) {d : Decimal} (same : d.value = 0) :
    ofDecimal x.isNegative d.significand d.exponent = x := by
  have isZero : d.significand = 0 := by
    rcases mul_eq_zero.1 same with significand | power
    · exact_mod_cast significand
    · exact absurd power (ten_zpow_pos d.exponent).ne'
  have subnormal : x.exponentBits = 0 := by
    by_contra normal
    have large : 2 ^ 52 ≤ x.scaled.significand := by
      rw [scaled, if_neg normal]
      exact Nat.le_add_right _ _
    rw [zero] at large
    norm_num at large
  have word : x.scaled.word = 0 := by
    rw [Scaled.word, zero, scaled, if_pos subnormal]
    simp
  have written := x.ofWord_scaled
  rw [word] at written
  unfold ofDecimal
  simp only
  rw [if_pos (.inl isZero), written]

/-- The shortest decimal of a finite double reads as the double. -/
theorem ofDecimal_eq_of_shortest (finite : x.isFinite = true) {d : Decimal}
    (same : d.value = (x.shortest .even).value) :
    ofDecimal x.isNegative d.significand d.exponent = x := by
  by_cases zero : x.scaled.significand = 0
  · rw [shortest_of_zero zero] at same
    refine ofDecimal_of_zero zero ?_
    simpa [Decimal.value] using same
  · exact ofDecimal_shortest finite zero same

/-- A decimal text with a sign, from its magnitude. -/
theorem decimal_read?_signed {cs : List Char} {d : Decimal} (shows : Decimal.Shows cs d) :
    Decimal.read? (x.signed cs) = (Decimal.readMagnitude cs).map (x.isNegative, ·) := by
  rw [signed]
  cases x.isNegative with
  | true => rfl
  | false =>
      obtain ⟨first, rest, rfl, digit⟩ := shows.digit
      rw [if_neg Bool.false_ne_true, Decimal.read?]
      · rintro _ ⟨⟩
        cases digit
      · rintro _ ⟨⟩
        cases digit

/-- The text of a finite double reads as the double. -/
theorem read?_markedText (finite : x.isFinite = true) : Double.read? x.markedText = some x := by
  have shows := x.shows_markedMagnitude
  obtain ⟨other, read, same⟩ := shows.read
  rw [Double.read?, markedText_eq, decimal_read?_signed shows, read]
  simp [ofDecimal_eq_of_shortest finite same, finite]

/-- The text of a double is no whole number. -/
theorem int64?_markedText (x : Double) : Text.int64? x.markedText = none := by
  have shows := x.shows_markedMagnitude
  cases whole : Text.int64? x.markedText with
  | none => rfl
  | some n =>
      exfalso
      have numeral := Text.isNumeral_of_int64? whole
      have inText : ∀ c ∈ x.markedMagnitude, c ∈ x.markedText := by
        intro c member
        rw [markedText_eq, signed]
        split
        · exact .tail _ member
        · exact member
      rcases shows.mark with point | power
      · have := numeral '.' (inText '.' point)
        revert this
        decide
      · have := numeral 'e' (inText 'e' power)
        revert this
        decide

end Double

/-! ## Texts that end too early -/

namespace Decimal

/-- Taking digits away leaves the mark of a power. -/
theorem dropWhile_of_mark (cs : List Char) :
    ∃ rest, (cs ++ ['e']).dropWhile isDigit = rest ++ ['e'] := by
  induction cs with
  | nil => exact ⟨[], rfl⟩
  | cons c cs ih =>
      rw [List.cons_append, List.dropWhile_cons]
      split
      · exact ih
      · exact ⟨c :: cs, rfl⟩

theorem integer?_of_mark (cs : List Char) : Text.integer? (cs ++ ['e']) = none := by
  cases read : Text.integer? (cs ++ ['e']) with
  | none => rfl
  | some n =>
      exfalso
      have numeral := Text.isNumeral_of_integer? read 'e' (by simp)
      revert numeral
      decide

theorem readPower_of_mark (cs : List Char) : readPower (cs ++ ['e']) = none := by
  cases cs with
  | nil => rfl
  | cons c cs =>
      show (if c = 'e' ∨ c = 'E' then Text.integer? (cs ++ ['e']) else none) = none
      rw [integer?_of_mark]
      split <;> rfl

/-- A mark of a power without a power is no decimal. -/
theorem readMagnitude_of_mark (cs : List Char) : readMagnitude (cs ++ ['e']) = none := by
  obtain ⟨afterWhole, dropped⟩ := dropWhile_of_mark cs
  rw [readMagnitude]
  simp only [dropped]
  split
  next tail point =>
    cases afterWhole with
    | nil => cases point
    | cons c others =>
        obtain ⟨rfl, rfl⟩ := List.cons.inj point
        obtain ⟨rest, droppedFraction⟩ := dropWhile_of_mark others
        have noPower : readPower ((others.append ['e']).dropWhile isDigit) = none :=
          droppedFraction ▸ readPower_of_mark rest
        simp only [noPower]
        split <;> rfl
  next =>
    simp only [readPower_of_mark]
    split <;> rfl

theorem read?_of_mark (cs : List Char) : read? (cs ++ ['e']) = none := by
  cases cs with
  | nil => rfl
  | cons c others =>
      by_cases minus : c = '-'
      · subst minus
        show (readMagnitude (others ++ ['e'])).map _ = none
        rw [readMagnitude_of_mark]
        rfl
      · by_cases plus : c = '+'
        · subst plus
          show (readMagnitude (others ++ ['e'])).map _ = none
          rw [readMagnitude_of_mark]
          rfl
        · rw [read?, readMagnitude_of_mark]
          · rfl
          · rintro rest ⟨⟩
            exact minus rfl
          · rintro rest ⟨⟩
            exact plus rfl

end Decimal

/-- A mark of a power without a power is no double. -/
theorem Double.read?_of_mark (cs : List Char) : Double.read? (cs ++ ['e']) = none := by
  rw [Double.read?, Decimal.read?_of_mark]
  rfl

/-- What stands before a hyphen of the text of a double is empty or ends in the mark of
a power. -/
theorem Double.before_hyphen {x : Double} {before after : List Char}
    (split : x.markedText = before ++ '-' :: after) (noHyphen : '-' ∉ before) :
    before = [] ∨ ∃ mantissa, before = mantissa ++ ['e'] := by
  cases before with
  | nil => exact .inl rfl
  | cons first others =>
      right
      have magnitude : x.markedMagnitude = first :: others ++ '-' :: after := by
        rw [markedText_eq, signed] at split
        cases sign : x.isNegative with
        | false => simpa [sign] using split
        | true =>
            rw [sign, if_pos rfl] at split
            obtain ⟨rfl, _⟩ := List.cons.inj split
            exact absurd List.mem_cons_self noHyphen
      obtain ⟨mantissa, power, shown, absent⟩ := x.shows_markedMagnitude.hyphen (by simp [magnitude])
      have cut := Text.splitFirst_eq_some_iff.2 ⟨magnitude, noHyphen⟩
      have shown' : x.markedMagnitude = (mantissa ++ ['e']) ++ '-' :: power := by simp [shown]
      have cut' := Text.splitFirst_eq_some_iff.2 ⟨shown', by simp [absent]⟩
      rw [cut, Option.some.injEq, Prod.mk.injEq] at cut'
      exact ⟨mantissa, cut'.1⟩

/-! ## Characters of decimals -/

namespace Decimal

/-- The characters of decimals that are no digits. -/
def marks : List Char := ['+', '-', '.', 'e', 'E']

/-- A character may stand in a decimal. -/
def IsDecimalCharacter (c : Char) : Prop := isDigit c = true ∨ c ∈ marks

instance decidableIsDecimalCharacter (c : Char) : Decidable (IsDecimalCharacter c) :=
  inferInstanceAs (Decidable (isDigit c = true ∨ c ∈ marks))

variable {cs : List Char}

theorem each_of_integer? {n : ℤ} (read : Text.integer? cs = some n) :
    ∀ c ∈ cs, IsDecimalCharacter c := by
  intro c member
  rcases Text.isNumeral_of_integer? read c member with digit | rfl | rfl
  · exact .inl digit
  · exact .inr (by decide)
  · exact .inr (by decide)

theorem each_of_readPower {power : ℤ} (read : readPower cs = some power) :
    ∀ c ∈ cs, IsDecimalCharacter c := by
  cases cs with
  | nil => simp
  | cons mark rest =>
      rw [readPower] at read
      split at read
      next isMark =>
        refine List.forall_mem_cons.2 ⟨.inr ?_, each_of_integer? read⟩
        rcases isMark with rfl | rfl <;> decide
      next => cases read

theorem each_of_takeWhile (cs : List Char) : ∀ c ∈ cs.takeWhile isDigit, IsDecimalCharacter c :=
  fun _ member => .inl (List.mem_takeWhile_imp member)

theorem each_of_readMagnitude {d : Decimal} (read : readMagnitude cs = some d) :
    ∀ c ∈ cs, IsDecimalCharacter c := by
  rw [← List.takeWhile_append_dropWhile (p := isDigit) (l := cs), List.forall_mem_append]
  refine ⟨each_of_takeWhile cs, ?_⟩
  rw [readMagnitude] at read
  split at read
  next fraction rest cut =>
    split at read
    next => cases read
    next =>
      obtain ⟨power, isPower, _⟩ := Option.map_eq_some_iff.1 read
      split at cut
      next tail point =>
        cases cut
        rw [point, List.forall_mem_cons,
          ← List.takeWhile_append_dropWhile (p := isDigit) (l := tail), List.forall_mem_append]
        exact ⟨.inr (by decide), each_of_takeWhile tail, each_of_readPower isPower⟩
      next =>
        cases cut
        exact each_of_readPower isPower

theorem each_of_read? {negative : Bool} {d : Decimal} (read : read? cs = some (negative, d)) :
    ∀ c ∈ cs, IsDecimalCharacter c := by
  unfold read? at read
  split at read
  next =>
    obtain ⟨_, magnitude, _⟩ := Option.map_eq_some_iff.1 read
    exact List.forall_mem_cons.2 ⟨.inr (by decide), each_of_readMagnitude magnitude⟩
  next =>
    obtain ⟨_, magnitude, _⟩ := Option.map_eq_some_iff.1 read
    exact List.forall_mem_cons.2 ⟨.inr (by decide), each_of_readMagnitude magnitude⟩
  next =>
    obtain ⟨_, magnitude, _⟩ := Option.map_eq_some_iff.1 read
    exact each_of_readMagnitude magnitude

end Decimal

/-- A text that is a double has such characters only. -/
theorem Double.each_of_read? {x : Double} {cs : List Char} (read : Double.read? cs = some x) :
    ∀ c ∈ cs, Decimal.IsDecimalCharacter c := by
  obtain ⟨⟨_, _⟩, decimal, _⟩ := Option.map_eq_some_iff.1 (Option.filter_eq_some_iff.1 read).1
  exact Decimal.each_of_read? decimal

end Backoffice
