import Backoffice.Proofs.Number.Rounding

/-!
# The shortest decimal rounds back

The search tries decimals against the interval in whole units.  A decimal it admits
is one that the interval covers (`admits_iff`), so whatever it finds rounds back to
the double.

It finds one within twenty grids.  A grid as fine as a quarter of the last place has
a point between the lower end of the interval and the value (`onGrid_isSome`), and the
nineteenth grid below the first digit is as fine as that (`grid_le_quarter`), since
`30103 / 100000` is the logarithm of two but for the sixth place.
-/

namespace Backoffice

/-- The value of a decimal. -/
def Decimal.value (d : Decimal) : ℚ := d.significand * 10 ^ d.exponent

namespace Double

theorem ten_zpow_pos (power : ℤ) : (0 : ℚ) < 10 ^ power := zpow_pos (by norm_num) power

/-- A power of ten is at most a power of two, by fractions next to the logarithm of
two: `3 / 10` is below it, and `13 / 43` above. -/
theorem ten_zpow_le {k power : ℤ} (below : 10 * k ≤ 3 * power) (above : 43 * k ≤ 13 * power) :
    (10 : ℚ) ^ k ≤ 2 ^ power := by
  rcases Int.le_total 0 power with up | down
  · refine le_of_pow_le_pow_left₀ (n := 10) (by norm_num) (two_zpow_pos power).le ?_
    calc ((10 : ℚ) ^ k) ^ 10 = 10 ^ (10 * k) := by
          rw [← zpow_natCast, ← zpow_mul, mul_comm]
          rfl
      _ ≤ 10 ^ (3 * power) := zpow_le_zpow_right₀ (by norm_num) below
      _ = (10 ^ 3) ^ power := by
          rw [zpow_mul]
          rfl
      _ ≤ (2 ^ 10) ^ power := zpow_le_zpow_left₀ up (by norm_num) (by norm_num)
      _ = (2 ^ power) ^ 10 := by
          rw [← zpow_natCast, ← zpow_natCast, ← zpow_mul, ← zpow_mul, mul_comm]
  · have inverse : (2 : ℚ) ^ (-power) ≤ 10 ^ (-k) := by
      refine le_of_pow_le_pow_left₀ (n := 43) (by norm_num) (ten_zpow_pos (-k)).le ?_
      calc ((2 : ℚ) ^ (-power)) ^ 43 = (2 ^ 43) ^ (-power) := by
            rw [← zpow_natCast, ← zpow_natCast, ← zpow_mul, ← zpow_mul, mul_comm]
        _ ≤ (10 ^ 13) ^ (-power) := zpow_le_zpow_left₀ (by omega) (by norm_num) (by norm_num)
        _ = 10 ^ (13 * -power) := by
            rw [zpow_mul]
            rfl
        _ ≤ 10 ^ (43 * -k) := zpow_le_zpow_right₀ (by norm_num) (by omega)
        _ = (10 ^ (-k)) ^ 43 := by
            rw [← zpow_natCast, ← zpow_mul, mul_comm]
            rfl
    rw [zpow_neg, zpow_neg] at inverse
    exact (inv_le_inv₀ (two_zpow_pos power) (ten_zpow_pos k)).1 inverse

namespace Scaled

variable (v : Scaled)

/-! ## Decimals in the interval -/

/-- A power, up or down, with its denominator cleared. -/
theorem clear_zpow (base : ℕ) (positive : 0 < base) (power : ℤ) :
    ((if power < 0 then 1 else base ^ power.natAbs : ℕ) : ℚ) =
      (if power < 0 then base ^ power.natAbs else 1 : ℕ) * (base : ℚ) ^ power := by
  have basePos : (base : ℚ) ≠ 0 := by exact_mod_cast positive.ne'
  split
  next negative =>
    have : power = -(power.natAbs : ℤ) := by omega
    conv_rhs => rw [this, zpow_neg, zpow_natCast]
    rw [Int.natAbs_neg, Int.natAbs_natCast]
    push_cast
    exact (mul_inv_cancel₀ (pow_ne_zero power.natAbs basePos)).symm
  next notNegative =>
    have : power = (power.natAbs : ℤ) := by omega
    conv_rhs => rw [this, zpow_natCast]
    simp

/-- Grid step and quarter are the same multiples of what they stand for. -/
theorem unitsAt_eq (k : ℤ) : ∃ unit : ℚ, 0 < unit ∧ ((v.unitsAt k).step : ℚ) = unit * 10 ^ k ∧
    ((v.unitsAt k).quarter : ℚ) = unit * 2 ^ (v.power - 2) := by
  have ten := clear_zpow 10 (by norm_num) k
  have two := clear_zpow 2 (by norm_num) (v.power - 2)
  push_cast at ten two
  refine ⟨(if k < 0 then 10 ^ k.natAbs else 1) *
    (if v.power - 2 < 0 then 2 ^ (v.power - 2).natAbs else 1), ?_, ?_, ?_⟩
  · split <;> split <;> positivity
  · simp only [unitsAt, Nat.pow_eq]
    push_cast
    rw [ten]
    ring
  · simp only [unitsAt, Nat.pow_eq]
    push_cast
    rw [two]
    ring

/-- A grid point and a number of quarters compare as they do in units. -/
theorem units_compare (k : ℤ) (point quarters : ℕ) :
    (quarters * (v.unitsAt k).quarter ≤ point * (v.unitsAt k).step ↔
      (quarters * 2 ^ (v.power - 2) : ℚ) ≤ point * 10 ^ k) ∧
    (point * (v.unitsAt k).step ≤ quarters * (v.unitsAt k).quarter ↔
      (point * 10 ^ k : ℚ) ≤ quarters * 2 ^ (v.power - 2)) := by
  obtain ⟨unit, unitPos, step, quarter⟩ := v.unitsAt_eq k
  have inUnits : ((quarters * (v.unitsAt k).quarter : ℕ) : ℚ) =
      unit * (quarters * 2 ^ (v.power - 2)) := by
    push_cast
    rw [quarter]
    ring
  have inSteps : ((point * (v.unitsAt k).step : ℕ) : ℚ) = unit * (point * 10 ^ k) := by
    push_cast
    rw [step]
    ring
  constructor
  · rw [← Nat.cast_le (α := ℚ), inUnits, inSteps, mul_le_mul_iff_right₀ unitPos]
  · rw [← Nat.cast_le (α := ℚ), inUnits, inSteps, mul_le_mul_iff_right₀ unitPos]

/-- The search admits the decimals that the interval covers. -/
theorem admits_iff (k : ℤ) (point : ℕ) :
    v.admits (v.unitsAt k) point = true ↔ v.Covers (point * 10 ^ k) := by
  have low := v.units_compare k point v.lowerEnd
  have high := v.units_compare k point v.upperEnd
  rw [admits, Covers]
  cases v.closed with
  | true => simp [low.1, high.2]
  | false => simp [← not_le, low.2, high.1]

/-- A grid offers a point that is admitted, unless it has none next to the value. -/
theorem onGrid_cases (tie : Tie) (k : ℤ) :
    (v.onGrid tie k = none ∧
      v.admits (v.unitsAt k)
        (v.quadruple * (v.unitsAt k).quarter / (v.unitsAt k).step) = false) ∨
    ∃ point, v.onGrid tie k = some point ∧ v.admits (v.unitsAt k) point = true := by
  unfold onGrid
  simp only
  generalize v.quadruple * (v.unitsAt k).quarter / (v.unitsAt k).step = below
  cases atBelow : v.admits (v.unitsAt k) below with
  | false =>
      cases atAbove : v.admits (v.unitsAt k) (below + 1) with
      | false => exact .inl ⟨rfl, rfl⟩
      | true => exact .inr ⟨below + 1, rfl, atAbove⟩
  | true =>
      right
      cases atAbove : v.admits (v.unitsAt k) (below + 1) with
      | false => exact ⟨below, rfl, atBelow⟩
      | true =>
          simp only
          split
          · exact ⟨below, rfl, atBelow⟩
          · split
            · exact ⟨below + 1, rfl, atAbove⟩
            · cases tie with
              | even =>
                  simp only
                  split
                  · exact ⟨below, rfl, atBelow⟩
                  · exact ⟨below + 1, rfl, atAbove⟩
              | up => exact ⟨below + 1, rfl, atAbove⟩

/-- What a grid offers is covered. -/
theorem onGrid_covers {tie : Tie} {k : ℤ} {point : ℕ} (found : v.onGrid tie k = some point) :
    v.Covers (point * 10 ^ k) := by
  rw [← admits_iff]
  obtain ⟨nothing, _⟩ | ⟨other, offered, admitted⟩ := v.onGrid_cases tie k
  · rw [nothing] at found
    cases found
  · rw [offered] at found
    cases found
    exact admitted

/-- What the search finds is covered. -/
theorem search_covers {tie : Tie} {tries : ℕ} {k : ℤ} {d : Decimal}
    (found : v.search tie tries k = some d) : v.Covers d.value := by
  induction tries generalizing k with
  | zero => cases found
  | succ tries ih =>
      rw [search] at found
      split at found
      next point onGrid =>
        cases found
        exact v.onGrid_covers onGrid
      next => exact ih found

/-! ## The search succeeds -/

theorem lowerEnd_lt (positive : 0 < v.significand) : v.lowerEnd + 1 ≤ v.quadruple := by
  rw [lowerEnd, quadruple]
  split <;> omega

/-- A grid as fine as a quarter of the last place has a point in the interval, the one
below the value. -/
theorem onGrid_isSome (tie : Tie) {k : ℤ} (positive : 0 < v.significand)
    (fine : (10 : ℚ) ^ k ≤ 2 ^ (v.power - 2)) : ∃ point, v.onGrid tie k = some point := by
  obtain ⟨unit, unitPos, step, quarter⟩ := v.unitsAt_eq k
  have stepPos : 0 < (v.unitsAt k).step := by
    rw [← Nat.cast_pos (α := ℚ), step]
    exact mul_pos unitPos (ten_zpow_pos k)
  have step_le : (v.unitsAt k).step ≤ (v.unitsAt k).quarter := by
    rw [← Nat.cast_le (α := ℚ), step, quarter]
    exact mul_le_mul_of_nonneg_left fine unitPos.le
  have lowerEnd_le := Nat.mul_le_mul_right (v.unitsAt k).quarter (v.lowerEnd_lt positive)
  obtain ⟨-, rejected⟩ | ⟨point, offered, -⟩ := v.onGrid_cases tie k
  · exfalso
    have down := Nat.div_add_mod (v.quadruple * (v.unitsAt k).quarter) (v.unitsAt k).step
    have near := Nat.mod_lt (v.quadruple * (v.unitsAt k).quarter) stepPos
    generalize v.quadruple * (v.unitsAt k).quarter / (v.unitsAt k).step = below at *
    rw [Nat.mul_comm] at down
    rw [Nat.add_mul, Nat.one_mul] at lowerEnd_le
    have upperEnd_eq : v.upperEnd * (v.unitsAt k).quarter =
        v.quadruple * (v.unitsAt k).quarter + 2 * (v.unitsAt k).quarter := by
      rw [upperEnd, Nat.add_mul]
    have low : v.lowerEnd * (v.unitsAt k).quarter < below * (v.unitsAt k).step := by omega
    have high : below * (v.unitsAt k).step < v.upperEnd * (v.unitsAt k).quarter := by omega
    simp [admits, low, high, low.le, high.le] at rejected
  · exact ⟨point, offered⟩

variable {v}

/-- The last grid of the search is as fine as a quarter of the last place. -/
theorem IsDouble.grid_le_quarter (double : v.IsDouble) :
    (10 : ℚ) ^ (v.topGrid - 19) ≤ 2 ^ (v.power - 2) := by
  have log_lt : v.significand.log2 < 53 := by
    rw [Nat.log2_lt double.positive.ne']
    exact double.significand_lt
  have power_ge := double.least_le
  have power_le := double.power_le
  rw [topGrid]
  exact ten_zpow_le (by omega) (by omega)

/-- The search finds a decimal as soon as one of its grids has one. -/
theorem search_isSome {tie : Tie} {tries offset : ℕ} {k : ℤ} (within : offset < tries)
    (offered : ∃ point, v.onGrid tie (k - offset) = some point) :
    ∃ d, v.search tie tries k = some d := by
  induction tries generalizing offset k with
  | zero => omega
  | succ tries ih =>
      rw [search]
      cases here : v.onGrid tie k with
      | some point => exact ⟨⟨point, k⟩, rfl⟩
      | none =>
          cases offset with
          | zero =>
              obtain ⟨point, offered⟩ := offered
              rw [Int.natCast_zero, Int.sub_zero, here] at offered
              cases offered
          | succ offset =>
              refine ih (Nat.lt_of_succ_lt_succ within) ?_
              have later : k - 1 - offset = k - (offset + 1 : ℕ) := by omega
              rwa [later]

/-- The shortest decimal of a double is in its interval. -/
theorem IsDouble.shortest_covers (double : v.IsDouble) (tie : Tie) :
    v.Covers (v.shortest tie).value := by
  have offered := v.onGrid_isSome tie double.positive double.grid_le_quarter
  have within : 19 < 20 := by norm_num
  obtain ⟨d, found⟩ := search_isSome within offered
  have isShortest : v.shortest tie = d := by
    rw [shortest, if_neg double.positive.ne', found]
    rfl
  rw [isShortest]
  exact v.search_covers found

end Scaled

/-! ## Doubles and their intervals -/

/-- The absolute value of a finite double is zero or one of a positive double. -/
theorem scaled_isDouble {x : Double} (finite : x.isFinite = true)
    (notZero : x.scaled.significand ≠ 0) : x.scaled.IsDouble := by
  have fraction_lt : x.fractionBits < 2 ^ 52 := Nat.mod_lt _ (by norm_num)
  have exponent_lt : x.exponentBits < 2 ^ 11 := Nat.mod_lt _ (by norm_num)
  have notAll : x.exponentBits ≠ 2047 := by simpa [isFinite] using finite
  unfold scaled at *
  split at notZero
  next subnormal =>
    rw [if_pos subnormal]
    exact ⟨Nat.pos_of_ne_zero notZero, by simp only; omega, by simp, by simp, fun _ => rfl⟩
  next normal =>
    rw [if_neg normal, Nat.pow_eq]
    exact ⟨by simp only; omega, by simp only; omega, by simp only; omega, by simp only; omega,
      by simp only; omega⟩

/-- The word of the absolute value of a double is its word without the sign. -/
theorem word_scaled (x : Double) : x.scaled.word = x.bits.toNat % 2 ^ 63 := by
  have parts : x.bits.toNat % 2 ^ 63 = x.exponentBits * 2 ^ 52 + x.fractionBits := by
    rw [exponentBits, fractionBits]
    simp only [Nat.pow_eq]
    omega
  rw [parts]
  rw [scaled, Scaled.word]
  split
  next subnormal =>
    rw [subnormal]
    simp
  next normal =>
    have : ((x.exponentBits : ℤ) - 1075 + 1074).toNat = x.exponentBits - 1 := by omega
    simp only [this, Nat.pow_eq]
    omega

/-- A double is made of its sign and the word of its absolute value. -/
theorem ofWord_scaled (x : Double) : ofWord x.isNegative x.scaled.word = x := by
  have bits_lt : x.bits.toNat < 2 ^ 64 := x.bits.toNat_lt
  have whole : x.bits.toNat % 2 ^ 63 + (if x.isNegative = true then 2 ^ 63 else 0) =
      x.bits.toNat := by
    rw [isNegative]
    rw [Nat.pow_eq]
    by_cases negative : 2 ^ 63 ≤ x.bits.toNat
    · rw [if_pos (by simpa using negative)]
      omega
    · rw [if_neg (by simpa using negative)]
      omega
  rw [ofWord, Nat.pow_eq, word_scaled, whole, UInt64.ofNat_toNat]

/-- A number that a double covers is rounded to the double. -/
theorem ofRatio_eq {x : Double} (finite : x.isFinite = true)
    (notZero : x.scaled.significand ≠ 0) {n d : ℕ} (dPos : 0 < d)
    (covers : x.scaled.Covers (n / d)) : ofRatio x.isNegative n d = x := by
  rw [ofRatio, (scaled_isDouble finite notZero).wordOfRatio_eq dPos covers, ofWord_scaled]

/-! ## Decimals of doubles -/

namespace Scaled

variable {v : Scaled} {q : ℚ}

theorem IsDouble.least_lt (double : v.IsDouble) (covers : v.Covers q) :
    (2 : ℚ) ^ (-1076 : ℤ) < q := by
  have atLeast := (covers.roundsTo double.positive).lower
  have onePlace : (1 : ℚ) ≤ v.significand := by exact_mod_cast double.positive
  have unitPos := two_zpow_pos v.power
  have half : (1 / 2 : ℚ) ≤ q / 2 ^ v.power := by linarith
  rw [le_div_iff₀ unitPos] at half
  calc (2 : ℚ) ^ (-1076 : ℤ) < 2 ^ (-1075 : ℤ) := zpow_lt_zpow_right₀ (by norm_num) (by norm_num)
    _ = 1 / 2 * 2 ^ (-1074 : ℤ) := by
        rw [show (-1075 : ℤ) = -1 + -1074 by norm_num, zpow_add₀ (by norm_num)]
        norm_num
    _ ≤ 1 / 2 * 2 ^ v.power := by
        gcongr
        · norm_num
        · exact double.least_le
    _ ≤ q := half

theorem IsDouble.lt_most (double : v.IsDouble) (covers : v.Covers q) :
    q < (2 : ℚ) ^ (1024 : ℤ) := by
  have atMost := (covers.roundsTo double.positive).upper
  have below : (v.significand : ℚ) + 1 ≤ 2 ^ (53 : ℤ) := by
    exact_mod_cast double.significand_lt
  have unitPos := two_zpow_pos v.power
  have places : q / 2 ^ v.power < 2 ^ (53 : ℤ) := by linarith
  rw [div_lt_iff₀ unitPos, ← zpow_add₀ (by norm_num)] at places
  have := double.power_le
  exact places.trans_le (zpow_le_zpow_right₀ (by norm_num) (by omega))

end Scaled

/-- The value of a decimal other than zero lies between the powers of ten that its
digits reach. -/
theorem decimal_bounds {d : Decimal} (positive : 0 < d.significand) :
    (10 : ℚ) ^ (d.exponent + (Nat.toDigits 10 d.significand).length - 1) ≤ d.value ∧
      d.value < 10 ^ (d.exponent + (Nat.toDigits 10 d.significand).length) := by
  have lengthPos : 0 < (Nat.toDigits 10 d.significand).length := Nat.length_toDigits_pos
  have unitPos := ten_zpow_pos d.exponent
  constructor
  · have reached : 10 ^ ((Nat.toDigits 10 d.significand).length - 1) ≤ d.significand := by
      by_contra short
      rw [not_le] at short
      by_cases single : (Nat.toDigits 10 d.significand).length = 1
      · rw [single] at short
        omega
      · have := (Nat.length_toDigits_le_iff (by norm_num) (by omega)).2 short
        omega
    have inPlaces : d.exponent + (Nat.toDigits 10 d.significand).length - 1 =
        ((Nat.toDigits 10 d.significand).length - 1 : ℕ) + d.exponent := by omega
    rw [inPlaces, zpow_add₀ (by norm_num), Decimal.value]
    have : ((10 : ℚ) ^ ((Nat.toDigits 10 d.significand).length - 1)) ≤ d.significand := by
      exact_mod_cast reached
    rw [zpow_natCast]
    gcongr
  · have below := (Nat.length_toDigits_le_iff (by norm_num) lengthPos).1
      (le_refl (Nat.toDigits 10 d.significand).length)
    have : (d.significand : ℚ) < 10 ^ (Nat.toDigits 10 d.significand).length := by
      exact_mod_cast below
    rw [add_comm, zpow_add₀ (by norm_num), Decimal.value, zpow_natCast]
    gcongr

/-- A decimal that a double covers reads as the double. -/
theorem ofDecimal_eq {x : Double} (finite : x.isFinite = true)
    (notZero : x.scaled.significand ≠ 0) {d : Decimal} (covers : x.scaled.Covers d.value) :
    ofDecimal x.isNegative d.significand d.exponent = x := by
  have double := scaled_isDouble finite notZero
  have positive : 0 < d.significand := by
    rcases Nat.eq_zero_or_pos d.significand with zero | positive
    · have := covers.pos double.positive
      simp [Decimal.value, zero] at this
    · exact positive
  obtain ⟨low, high⟩ := decimal_bounds positive
  -- the digits count: the decimal is not out of the reach of all doubles
  have notTiny : ¬ (d.exponent + (Nat.toDigits 10 d.significand).length < -400) := by
    intro tiny
    have : d.value < 2 ^ (-1076 : ℤ) :=
      high.trans_le (ten_zpow_le (by omega) (by omega))
    exact absurd (double.least_lt covers) this.not_gt
  have notHuge : ¬ (d.exponent + (Nat.toDigits 10 d.significand).length > 400) := by
    intro huge
    have inverse : (10 : ℚ) ^ (-400 : ℤ) ≤ 2 ^ (-1024 : ℤ) := ten_zpow_le (by norm_num) (by norm_num)
    rw [zpow_neg, zpow_neg, inv_le_inv₀ (ten_zpow_pos 400) (two_zpow_pos 1024)] at inverse
    have : (10 : ℚ) ^ (400 : ℤ) ≤ d.value :=
      (zpow_le_zpow_right₀ (by norm_num) (by omega)).trans low
    exact absurd (double.lt_most covers) (inverse.trans this).not_gt
  rw [ofDecimal]
  simp only [Nat.pow_eq]
  rw [if_neg (by omega), if_neg notHuge]
  split
  next negative =>
    refine ofRatio_eq finite notZero (by positivity) ?_
    have : d.exponent = -(d.exponent.natAbs : ℤ) := by omega
    rw [Decimal.value, this, zpow_neg, zpow_natCast, ← div_eq_mul_inv] at covers
    exact_mod_cast covers
  next notNegative =>
    refine ofRatio_eq finite notZero (by norm_num) ?_
    have : d.exponent = (d.exponent.natAbs : ℤ) := by omega
    rw [Decimal.value, this, zpow_natCast] at covers
    push_cast
    rwa [div_one]

/-- The shortest decimal of a finite double other than zero reads as the double. -/
theorem ofDecimal_shortest {x : Double} (finite : x.isFinite = true)
    (notZero : x.scaled.significand ≠ 0) {d : Decimal} {tie : Tie}
    (same : d.value = (x.shortest tie).value) :
    ofDecimal x.isNegative d.significand d.exponent = x := by
  refine ofDecimal_eq finite notZero ?_
  rw [same]
  exact (scaled_isDouble finite notZero).shortest_covers tie

end Double

end Backoffice
