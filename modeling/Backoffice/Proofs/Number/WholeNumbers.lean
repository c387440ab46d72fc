import Backoffice.Proofs.Number.Text

/-!
# Whole numbers as doubles

A whole number of 53 places or more is rounded to 53 of them.  It keeps its value exactly
when the places below them are zero (`wholeSignificand_mul_eq_iff`), and the rounded number
is finite exactly below the middle between the greatest double and the next power of two
(`isFinite_ofRatio_whole`).
-/

namespace Backoffice

namespace Double

/-! ## Values -/

/-- The absolute value of a finite double. -/
def magnitude (x : Double) : ℚ := x.scaled.significand * 2 ^ x.scaled.power

/-- The value of a finite double. -/
def value (x : Double) : ℚ := if x.isNegative then -x.magnitude else x.magnitude

section
variable {negative : Bool} {word : ℕ}

theorem toNat_ofWord (small : word < 2 ^ 63) :
    (ofWord negative word).bits.toNat = word + if negative then 2 ^ 63 else 0 := by
  rw [ofWord, Nat.pow_eq, UInt64.toNat_ofNat']
  refine Nat.mod_eq_of_lt ?_
  split <;> omega

theorem isNegative_ofWord (small : word < 2 ^ 63) :
    (ofWord negative word).isNegative = negative := by
  rw [isNegative, toNat_ofWord small, Nat.pow_eq]
  cases negative with
  | true => simp
  | false => simpa using small

theorem exponentBits_ofWord (small : word < 2 ^ 63) :
    (ofWord negative word).exponentBits = word / 2 ^ 52 := by
  rw [exponentBits, toNat_ofWord small, Nat.pow_eq, Nat.pow_eq]
  split <;> omega

theorem fractionBits_ofWord (small : word < 2 ^ 63) :
    (ofWord negative word).fractionBits = word % 2 ^ 52 := by
  rw [fractionBits, toNat_ofWord small, Nat.pow_eq]
  split <;> omega

theorem isFinite_ofWord (least : word ≤ infinityWord) :
    (ofWord negative word).isFinite = true ↔ word < infinityWord := by
  rw [infinityWord, Nat.pow_eq] at least ⊢
  rw [isFinite, exponentBits_ofWord (by omega), bne_iff_ne]
  omega

end

/-- A word of a normal significand, or of one more than the greatest, has their value. -/
theorem magnitude_ofWord {negative : Bool} {significand power : ℕ} (least : 2 ^ 52 ≤ significand)
    (most : significand ≤ 2 ^ 53)
    (finite : significand + (power + 1074) * 2 ^ 52 < infinityWord) :
    (ofWord negative (significand + (power + 1074) * 2 ^ 52)).magnitude =
      significand * 2 ^ power := by
  rw [infinityWord, Nat.pow_eq] at finite
  have small : significand + (power + 1074) * 2 ^ 52 < 2 ^ 63 := by omega
  rw [magnitude, scaled, exponentBits_ofWord small, fractionBits_ofWord small, Nat.pow_eq]
  rcases most.lt_or_eq with below | carry
  · have exponent : (significand + (power + 1074) * 2 ^ 52) / 2 ^ 52 = power + 1075 := by omega
    have fraction : 2 ^ 52 + (significand + (power + 1074) * 2 ^ 52) % 2 ^ 52 = significand := by
      omega
    rw [exponent, if_neg (by omega), fraction]
    simp
  · have exponent : (significand + (power + 1074) * 2 ^ 52) / 2 ^ 52 = power + 1076 := by omega
    have fraction : (significand + (power + 1074) * 2 ^ 52) % 2 ^ 52 = 0 := by omega
    have twice : ((power + 1076 : ℕ) : ℤ) - 1075 = (power + 1 : ℕ) := by omega
    rw [exponent, if_neg (by omega), fraction, carry, twice, zpow_natCast]
    push_cast
    ring

/-! ## Rounded quotients -/

/-- The rounded quotient is at most half away, and even where it is half away. -/
theorem divideToEven_spec {n d : ℕ} (positive : 0 < d) :
    2 * (divideToEven n d * d) ≤ 2 * n + d ∧ 2 * n ≤ 2 * (divideToEven n d * d) + d ∧
      (2 * n = 2 * (divideToEven n d * d) + d → divideToEven n d % 2 = 0) := by
  have parts : n / d * d + n % d = n := Nat.div_add_mod' n d
  have remainder : n % d < d := Nat.mod_lt n positive
  rw [divideToEven]
  split
  next down =>
    refine ⟨by omega, by omega, fun half => ?_⟩
    rcases down with less | tie
    · omega
    · exact tie.2
  next notDown =>
    have expand : (n / d + 1) * d = n / d * d + d := Nat.add_one_mul _ d
    rw [expand]
    refine ⟨by omega, by omega, fun half => ?_⟩
    omega

/-- A whole quotient is not rounded. -/
theorem divideToEven_mul_eq_iff {n d : ℕ} (positive : 0 < d) :
    divideToEven n d * d = n ↔ d ∣ n := by
  constructor
  · exact fun same => ⟨divideToEven n d, by rw [Nat.mul_comm, same]⟩
  · rintro ⟨quotient, rfl⟩
    have whole : d * quotient % d = 0 := Nat.mul_mod_right d quotient
    rw [divideToEven, whole, Nat.mul_div_cancel_left quotient positive,
      if_pos (.inl (by simpa using positive)), Nat.mul_comm]

/-- Below an even number a quotient stays as long as it is more than half away. -/
theorem divideToEven_lt_iff {n d bound : ℕ} (positive : 0 < d) (even : bound % 2 = 0) :
    divideToEven n d < bound ↔ 2 * n + d < 2 * (bound * d) := by
  obtain ⟨low, high, tie⟩ := divideToEven_spec (n := n) positive
  generalize divideToEven n d = k at *
  constructor
  · intro below
    obtain ⟨more, rfl⟩ := Nat.exists_eq_add_of_lt below
    have expand : (k + more + 1) * d = k * d + more * d + d := by ring
    rcases Nat.eq_zero_or_pos more with rfl | isMore
    · have : 2 * n ≠ 2 * (k * d) + d := fun half => by
        have := tie half
        omega
      omega
    · have : d ≤ more * d := Nat.le_mul_of_pos_left d isMore
      omega
  · intro far
    by_contra above
    have : bound * d ≤ k * d := Nat.mul_le_mul_right d (by omega)
    omega

/-! ## Rounded whole numbers -/

/-- The places of a whole number that do not fit into a significand. -/
def excess (n : ℕ) : ℕ := Nat.log 2 n - 52

variable {n : ℕ}

theorem excess_bounds (large : 2 ^ 52 ≤ n) :
    2 ^ (excess n + 52) ≤ n ∧ n < 2 ^ (excess n + 53) := by
  have places : 52 ≤ Nat.log 2 n := Nat.le_log_of_pow_le (by decide) large
  have isLog : excess n + 52 = Nat.log 2 n := by
    rw [excess]
    omega
  rw [show excess n + 53 = Nat.log 2 n + 1 by omega, isLog]
  exact ⟨Nat.pow_log_le_self 2 (by omega), Nat.lt_pow_succ_log_self (by decide) n⟩

theorem powerFor_whole (large : 2 ^ 52 ≤ n) : powerFor n 1 = excess n := by
  have places : 52 ≤ Nat.log 2 n := Nat.le_log_of_pow_le (by decide) large
  have whole : Int.log 2 ((n : ℚ) / (1 : ℕ)) = Nat.log 2 n := by
    rw [Nat.cast_one, div_one, Int.log_natCast]
  rw [powerFor_eq (by omega) one_pos, whole, excess]
  omega

/-- The significand of a whole number. -/
def wholeSignificand (n : ℕ) : ℕ := divideToEven n (2 ^ excess n)

theorem wholeSignificand_bounds (large : 2 ^ 52 ≤ n) :
    2 ^ 52 ≤ wholeSignificand n ∧ wholeSignificand n ≤ 2 ^ 53 := by
  obtain ⟨low, high⟩ := excess_bounds large
  have positive : 0 < 2 ^ excess n := by positivity
  obtain ⟨below, above, _⟩ := divideToEven_spec (n := n) positive
  rw [pow_add] at low high
  rw [wholeSignificand]
  generalize divideToEven n (2 ^ excess n) = k at *
  generalize 2 ^ excess n = d at *
  constructor
  · by_contra small
    have : (k + 1) * d ≤ 2 ^ 52 * d := Nat.mul_le_mul_right d (by omega)
    rw [Nat.add_one_mul] at this
    omega
  · by_contra big
    have : (2 ^ 53 + 1) * d ≤ k * d := Nat.mul_le_mul_right d (by omega)
    omega

theorem wordOfRatio_whole (large : 2 ^ 52 ≤ n) :
    wordOfRatio n 1 = min (wholeSignificand n + (excess n + 1074) * 2 ^ 52) infinityWord := by
  rw [wordOfRatio, if_neg (by omega)]
  simp only [powerFor_whole large]
  rw [divideScaled, if_neg (by omega)]
  have power : ((excess n : ℤ) + 1074).toNat = excess n + 1074 := by omega
  rw [power, Nat.pow_eq, Nat.pow_eq, Int.natAbs_natCast, one_mul]
  rfl

/-- A whole number of 52 places or more is finite below the middle between the greatest double
and the next power of two. -/
theorem isFinite_ofRatio_whole {negative : Bool} (large : 2 ^ 52 ≤ n) :
    (ofRatio negative n 1).isFinite = true ↔ n < 2 ^ 1024 - 2 ^ 970 := by
  obtain ⟨low, high⟩ := excess_bounds large
  obtain ⟨least, most⟩ := wholeSignificand_bounds large
  rw [ofRatio, isFinite_ofWord (by rw [wordOfRatio_whole large]; omega), wordOfRatio_whole large,
    min_lt_iff, or_iff_left (lt_irrefl _), infinityWord, Nat.pow_eq]
  -- all bounds in units of half the last place of the greatest double
  have next : 2 ^ 1024 = 2 ^ 54 * 2 ^ 970 := by rw [← pow_add]
  have place : 2 ^ 971 = 2 * 2 ^ 970 := by rw [← pow_succ']
  have positive : 0 < 2 ^ 970 := by positivity
  rcases lt_trichotomy (excess n) 971 with less | same | more
  · have : 2 ^ (excess n + 53) ≤ 2 ^ (53 + 970) := pow_le_pow_right₀ (by decide) (by omega)
    rw [pow_add 2 53] at this
    refine iff_of_true (by omega) ?_
    rw [next]
    omega
  · have isBelow : divideToEven n (2 ^ 971) < 2 ^ 53 ↔ 2 * n + 2 ^ 971 < 2 * (2 ^ 53 * 2 ^ 971) :=
      divideToEven_lt_iff (by positivity) (by decide)
    rw [← same, ← wholeSignificand, same, place] at isBelow
    rw [next]
    omega
  · have : 2 ^ 1024 ≤ 2 ^ (excess n + 52) := pow_le_pow_right₀ (by decide) (by omega)
    refine iff_of_false (by omega) (not_lt.2 ?_)
    exact (Nat.sub_le _ _).trans (this.trans low)

/-- A finite whole number has its rounded value. -/
theorem magnitude_ofRatio_whole {negative : Bool} (large : 2 ^ 52 ≤ n)
    (finite : (ofRatio negative n 1).isFinite = true) :
    (ofRatio negative n 1).magnitude = (wholeSignificand n * 2 ^ excess n : ℕ) ∧
      (ofRatio negative n 1).isNegative = negative := by
  obtain ⟨least, most⟩ := wholeSignificand_bounds large
  have word := wordOfRatio_whole large
  rw [ofRatio, isFinite_ofWord (by rw [word]; omega), word, min_lt_iff,
    or_iff_left (lt_irrefl _)] at finite
  rw [Nat.min_eq_left finite.le] at word
  rw [ofRatio, word]
  constructor
  · rw [magnitude_ofWord least most finite]
    push_cast
    rfl
  · rw [infinityWord, Nat.pow_eq] at finite
    exact isNegative_ofWord (by omega)

/-! ## Exact numbers -/

/-- A whole number is a double: its places but for at most 53 are zero. -/
def IsWholeDouble (n : ℕ) : Prop := ∃ significand power, significand < 2 ^ 53 ∧
  n = significand * 2 ^ power

/-- Rounding keeps exactly the whole numbers that are doubles. -/
theorem wholeSignificand_mul_eq_iff (large : 2 ^ 52 ≤ n) :
    wholeSignificand n * 2 ^ excess n = n ↔ IsWholeDouble n := by
  obtain ⟨low, high⟩ := excess_bounds large
  rw [wholeSignificand, divideToEven_mul_eq_iff (by positivity)]
  constructor
  · rintro ⟨significand, split⟩
    refine ⟨significand, excess n, ?_, by rw [Nat.mul_comm, ← split]⟩
    rw [pow_add] at high
    have : 2 ^ excess n * significand < 2 ^ excess n * 2 ^ 53 := split ▸ high
    exact Nat.lt_of_mul_lt_mul_left this
  · rintro ⟨significand, power, small, split⟩
    have enough : excess n ≤ power := by
      have : 2 ^ (excess n + 52) < 2 ^ (53 + power) := by
        rw [pow_add 2 53]
        calc 2 ^ (excess n + 52) ≤ n := low
          _ = significand * 2 ^ power := split
          _ < 2 ^ 53 * 2 ^ power := Nat.mul_lt_mul_of_pos_right small (by positivity)
      have := (Nat.pow_lt_pow_iff_right (by decide)).1 this
      omega
    have divides : 2 ^ excess n ∣ significand * 2 ^ power :=
      (pow_dvd_pow 2 enough).mul_left significand
    rwa [← split] at divides

/-- Rounding changes a whole number by at most one part in `2^53`. -/
theorem wholeSignificand_near (large : 2 ^ 52 ≤ n) :
    |((wholeSignificand n * 2 ^ excess n : ℕ) : ℚ) - n| * 2 ^ 53 ≤ n := by
  obtain ⟨low, _⟩ := excess_bounds large
  obtain ⟨below, above, _⟩ := divideToEven_spec (n := n) (d := 2 ^ excess n) (by positivity)
  rw [← wholeSignificand] at below above
  rw [pow_add] at low
  generalize wholeSignificand n * 2 ^ excess n = rounded at *
  have distance : |(rounded : ℚ) - n| * 2 ≤ (2 ^ excess n : ℕ) := by
    have below' : (2 * rounded : ℚ) ≤ 2 * n + (2 ^ excess n : ℕ) := by exact_mod_cast below
    have above' : (2 * n : ℚ) ≤ 2 * rounded + (2 ^ excess n : ℕ) := by exact_mod_cast above
    rw [← le_div_iff₀ two_pos, abs_le]
    constructor <;> linarith
  calc (|(rounded : ℚ) - n| * 2 ^ 53 : ℚ) = |(rounded : ℚ) - n| * 2 * 2 ^ 52 := by ring
    _ ≤ ((2 ^ excess n : ℕ) * 2 ^ 52 : ℚ) := by gcongr
    _ ≤ (n : ℚ) := by exact_mod_cast low

/-- The numbers of 64 bits are finite, signed or not. -/
theorem lt_infinite : 2 ^ 64 < 2 ^ 1024 - 2 ^ 970 := by
  have next : 2 ^ 1024 = 2 ^ 54 * 2 ^ 970 := by rw [← pow_add]
  have large : 2 ^ 64 ≤ 2 ^ 970 := pow_le_pow_right₀ (by decide) (by decide)
  omega

/-! ## Decimals -/

/-- A whole number is finite as the double nearest to its decimal where it is as the one nearest
to itself, and then the two are one. -/
theorem ofDecimal_whole (negative : Bool) (large : 2 ^ 52 ≤ n) :
    ((ofDecimal negative n 0).isFinite = true ↔ n < 2 ^ 1024 - 2 ^ 970) ∧
      (n < 2 ^ 1024 - 2 ^ 970 → ofDecimal negative n 0 = ofRatio negative n 1) := by
  rw [ofDecimal]
  simp only [zero_add, Nat.pow_eq, Int.natAbs_zero, pow_zero, mul_one]
  rw [if_neg (by omega)]
  split
  next long =>
    -- more than 400 digits are far beyond every finite double
    have far : 2 ^ 1024 ≤ n := by
      have digits : 10 ^ 400 ≤ n := by
        by_contra few
        have := (Nat.length_toDigits_le_iff (b := 10) (by decide) (by decide)).2 (not_le.1 few)
        omega
      calc 2 ^ 1024 ≤ 2 ^ (3 * 400) := pow_le_pow_right₀ (by decide) (by decide)
        _ = (2 ^ 3) ^ 400 := pow_mul 2 3 400
        _ ≤ 10 ^ 400 := pow_le_pow_left₀ (by decide) (by decide) 400
        _ ≤ n := digits
    have notBelow : ¬ n < 2 ^ 1024 - 2 ^ 970 := not_lt.2 ((Nat.sub_le _ _).trans far)
    rw [isFinite_ofWord le_rfl]
    exact ⟨iff_of_false (lt_irrefl _) notBelow, fun below => absurd below notBelow⟩
  next =>
    rw [if_neg (by decide)]
    exact ⟨isFinite_ofRatio_whole large, fun _ => rfl⟩

end Double

/-! ## Numerals -/

namespace Decimal

variable {cs : List Char}

/-- Digits alone are a decimal without a power. -/
theorem readMagnitude_of_natural? {n : ℕ} (read : Text.natural? cs = some n) :
    readMagnitude cs = some ⟨n, 0⟩ := by
  obtain ⟨someDigit, digits⟩ := Text.natural?_eq_some read
  rw [Text.natural?, if_pos ⟨someDigit, digits⟩, Option.some.injEq] at read
  obtain ⟨take, drop⟩ := Text.takeWhile_digits [] digits (by simp)
  rw [List.append_nil] at take drop
  simp [readMagnitude, take, drop, someDigit, readPower, read]

/-- A numeral is a decimal with its sign and its digits. -/
theorem read?_of_integer? {n : ℤ} (read : Text.integer? cs = some n) :
    ∃ negative, Decimal.read? cs = some (negative, ⟨n.natAbs, 0⟩) ∧
      n = if negative then -(n.natAbs : ℤ) else n.natAbs := by
  unfold Text.integer? at read
  split at read
  next =>
    obtain ⟨m, natural, rfl⟩ := Option.map_eq_some_iff.1 read
    exact ⟨false, by rw [Decimal.read?, readMagnitude_of_natural? natural]; rfl, rfl⟩
  next =>
    obtain ⟨m, natural, rfl⟩ := Option.map_eq_some_iff.1 read
    refine ⟨true, ?_, by simp⟩
    rw [Decimal.read?, readMagnitude_of_natural? natural]
    simp
  next notPlus notMinus =>
    obtain ⟨m, natural, rfl⟩ := Option.map_eq_some_iff.1 read
    refine ⟨false, ?_, rfl⟩
    rw [Decimal.read?, readMagnitude_of_natural? natural]
    · rfl
    · exact notMinus
    · exact notPlus

end Decimal

namespace Double

variable {cs : List Char} {n : ℤ}

/-- A numeral of 52 places or more gives no double where it is too large, and else one that is
at most one part in `2^53` away, and the same number exactly where it is a double. -/
theorem read?_of_integer? (read : Text.integer? cs = some n) (large : 2 ^ 52 ≤ n.natAbs) :
    (2 ^ 1024 - 2 ^ 970 ≤ n.natAbs → read? cs = none) ∧
      (n.natAbs < 2 ^ 1024 - 2 ^ 970 → ∃ x, read? cs = some x ∧ x.isFinite = true ∧
        (x.value = n ↔ IsWholeDouble n.natAbs) ∧ |x.value - n| * 2 ^ 53 ≤ |n|) := by
  obtain ⟨negative, decimal, sign⟩ := Decimal.read?_of_integer? read
  obtain ⟨isFinite, isRatio⟩ := ofDecimal_whole negative large
  have isRead : read? cs = (some (ofDecimal negative n.natAbs 0)).filter Double.isFinite := by
    rw [read?, decimal]
    rfl
  constructor
  · intro infinite
    rw [isRead, Option.filter_some, if_neg (mt isFinite.1 (not_lt.2 infinite))]
  · intro below
    refine ⟨_, by rw [isRead, Option.filter_some, if_pos (isFinite.2 below)], isFinite.2 below, ?_⟩
    rw [isRatio below] at isFinite ⊢
    obtain ⟨magnitude, isNegative⟩ := magnitude_ofRatio_whole large (isFinite.2 below)
    have near := wholeSignificand_near large
    have exact := wholeSignificand_mul_eq_iff large
    rw [value, isNegative, magnitude]
    rw [← exact, ← Nat.cast_inj (R := ℚ)]
    generalize wholeSignificand n.natAbs * 2 ^ excess n.natAbs = rounded at near ⊢
    generalize n.natAbs = m at sign near ⊢
    cases negative with
    | false =>
        rw [if_neg Bool.false_ne_true] at sign ⊢
        rw [sign, Int.cast_natCast, Nat.abs_cast]
        exact ⟨Iff.rfl, near⟩
    | true =>
        rw [if_pos rfl] at sign ⊢
        rw [sign, Int.cast_neg, Int.cast_natCast, neg_inj, abs_neg, Nat.abs_cast, ← neg_sub',
          abs_neg]
        exact ⟨Iff.rfl, near⟩

end Double

end Backoffice
