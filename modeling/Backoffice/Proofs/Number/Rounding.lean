import Mathlib.Algebra.Order.Field.Power
import Mathlib.Data.Int.Log
import Mathlib.Data.Rat.Floor
import Mathlib.Tactic.FieldSimp
import Mathlib.Tactic.Linarith
import Mathlib.Tactic.NormNum
import Mathlib.Tactic.Positivity
import Mathlib.Tactic.Ring
import Backoffice.Number.Shortest

/-!
# Rounding to the nearest double

The numbers that round to a double are the ones its interval covers.  An interval
was defined for the search of the shortest decimal (`Scaled.lowerEnd`,
`Scaled.upperEnd`); here it is read as a set of rationals (`Scaled.Covers`), and
`ofRatio` takes each of them to the double (`ofRatio_eq`).

A quotient has a power of two that is found from the lengths of its two parts
(`powerFor_eq`) and a significand that is its multiple of that power, rounded
(`divideScaled_eq`).  Just below a power of two the quotient has one binary place
more than the double it rounds to.  There the significand rounds up to `2^53`, and
the carry gives the same word.
-/

namespace Backoffice.Double

/-! ## Rounded quotients -/

/-- That a whole number is nearest to a rational, and even if another one is as near. -/
structure RoundsTo (q : ℚ) (m : ℕ) : Prop where
  lower : m - 1 / 2 ≤ q
  upper : q ≤ m + 1 / 2
  even : q = m - 1 / 2 ∨ q = m + 1 / 2 → m % 2 = 0

/-- The rounded quotient of two whole numbers. -/
theorem divideToEven_eq {n d m : ℕ} (positive : 0 < d) (rounds : RoundsTo (n / d) m) :
    divideToEven n d = m := by
  have dPos : (0 : ℚ) < d := by exact_mod_cast positive
  obtain ⟨lower, upper, even⟩ := rounds
  rw [sub_le_iff_le_add, ← sub_le_iff_le_add, le_div_iff₀ dPos] at lower
  rw [div_le_iff₀ dPos] at upper
  rw [div_eq_iff dPos.ne', div_eq_iff dPos.ne'] at even
  have lower' : 2 * (m * d) ≤ 2 * n + d := by
    have : (2 * (m * d) : ℚ) ≤ 2 * n + d := by linarith
    exact_mod_cast this
  have upper' : 2 * n ≤ 2 * (m * d) + d := by
    have : (2 * n : ℚ) ≤ 2 * (m * d) + d := by linarith
    exact_mod_cast this
  have evenBelow : 2 * n + d = 2 * (m * d) → m % 2 = 0 := by
    intro tie
    have : (2 * n + d : ℚ) = 2 * (m * d) := by exact_mod_cast tie
    exact even (.inl (by linarith))
  have evenAbove : 2 * n = 2 * (m * d) + d → m % 2 = 0 := by
    intro tie
    have : (2 * n : ℚ) = 2 * (m * d) + d := by exact_mod_cast tie
    exact even (.inr (by linarith))
  have split : d * (n / d) + n % d = n := Nat.div_add_mod n d
  have remainder : n % d < d := Nat.mod_lt n positive
  rw [divideToEven]
  generalize n / d = k at *
  generalize n % d = r at *
  -- the whole part of the quotient is `m` or the number before it
  have notAbove : m ≤ k + 1 := by
    by_contra above
    have : d * (k + 2) ≤ d * m := Nat.mul_le_mul_left d (by omega)
    have : d * m = m * d := Nat.mul_comm d m
    have : d * (k + 2) = d * k + 2 * d := by ring
    omega
  have notBelow : k ≤ m := by
    by_contra below
    have : d * (m + 1) ≤ d * k := Nat.mul_le_mul_left d (by omega)
    have : d * (m + 1) = m * d + d := by ring
    omega
  have swapped : d * k = k * d := Nat.mul_comm d k
  obtain same | next : m = k ∨ m = k + 1 := by omega
  · subst same
    have low : 2 * r < d ∨ 2 * r = d := by omega
    rw [if_pos]
    rcases low with low | tie
    · exact .inl low
    · exact .inr ⟨tie, evenAbove (by omega)⟩
  · subst next
    have expand : (k + 1) * d = k * d + d := by ring
    rw [if_neg]
    rintro (low | ⟨tie, even⟩)
    · omega
    · have := evenBelow (by omega)
      omega

/-! ## The power of a quotient -/

/-- A power of two, up or down, as it is cleared from a comparison of whole numbers. -/
theorem two_zpow_cases (power : ℤ) :
    ((2 : ℚ) ^ power = if power < 0 then 1 / 2 ^ power.natAbs else 2 ^ power.natAbs) := by
  split
  next negative =>
    have : power = -(power.natAbs : ℤ) := by omega
    conv_lhs => rw [this, zpow_neg, zpow_natCast]
    rw [one_div]
  next notNegative =>
    have : power = (power.natAbs : ℤ) := by omega
    conv_lhs => rw [this, zpow_natCast]

theorem two_zpow_pos (power : ℤ) : (0 : ℚ) < 2 ^ power := zpow_pos (by norm_num) power

theorem quotientBelow_iff {n d : ℕ} (positive : 0 < d) (power : ℤ) :
    quotientBelow n d power = true ↔ (n / d : ℚ) < 2 ^ power := by
  have dPos : (0 : ℚ) < d := by exact_mod_cast positive
  rw [two_zpow_cases, quotientBelow, div_lt_iff₀ dPos]
  split
  · rw [decide_eq_true_eq, div_mul_eq_mul_div, lt_div_iff₀ (by positivity), one_mul]
    exact_mod_cast Iff.rfl
  · rw [decide_eq_true_eq, mul_comm]
    exact_mod_cast Iff.rfl

/-- The multiple of a power of two, rounded. -/
theorem divideScaled_eq {n d m : ℕ} {power : ℤ} (positive : 0 < d)
    (rounds : RoundsTo (n / d / 2 ^ power) m) : divideScaled n d power = m := by
  rw [two_zpow_cases] at rounds
  rw [divideScaled]
  simp only [Nat.pow_eq]
  split
  next negative =>
    rw [if_pos negative, div_div_eq_mul_div, div_one] at rounds
    refine divideToEven_eq positive ?_
    push_cast
    rwa [mul_div_right_comm]
  next notNegative =>
    rw [if_neg notNegative, div_div] at rounds
    refine divideToEven_eq (by positivity) ?_
    push_cast
    exact rounds

/-- The power is that of the first binary place, 52 places down, but never less than
the least power of a double. -/
theorem powerFor_eq {n d : ℕ} (nPos : 0 < n) (dPos : 0 < d) :
    powerFor n d = max (Int.log 2 (n / d : ℚ) - 52) (-1074) := by
  have qPos : (0 : ℚ) < n / d := by positivity
  have nLow : (2 : ℚ) ^ n.log2 ≤ n := by exact_mod_cast Nat.log2_self_le nPos.ne'
  have nHigh : (n : ℚ) < 2 ^ (n.log2 + 1) := by exact_mod_cast Nat.lt_log2_self
  have dLow : (2 : ℚ) ^ d.log2 ≤ d := by exact_mod_cast Nat.log2_self_le dPos.ne'
  have dHigh : (d : ℚ) < 2 ^ (d.log2 + 1) := by exact_mod_cast Nat.lt_log2_self
  have dPos' : (0 : ℚ) < d := by exact_mod_cast dPos
  have low : (2 : ℚ) ^ ((n.log2 : ℤ) - d.log2 - 1) ≤ n / d := by
    rw [le_div_iff₀ dPos', sub_sub, zpow_sub₀ (by norm_num)]
    calc (2 : ℚ) ^ (n.log2 : ℤ) / 2 ^ ((d.log2 : ℤ) + 1) * d
        ≤ 2 ^ (n.log2 : ℤ) / 2 ^ ((d.log2 : ℤ) + 1) * 2 ^ ((d.log2 : ℤ) + 1) := by
          gcongr
          exact_mod_cast dHigh.le
      _ = 2 ^ n.log2 := by
          rw [div_mul_cancel₀ _ (two_zpow_pos _).ne', zpow_natCast]
      _ ≤ n := nLow
  have high : (n / d : ℚ) < 2 ^ ((n.log2 : ℤ) - d.log2 + 1) := by
    rw [div_lt_iff₀ dPos', sub_add_eq_add_sub, zpow_sub₀ (by norm_num)]
    calc (n : ℚ) < 2 ^ ((n.log2 : ℤ) + 1) := by exact_mod_cast nHigh
      _ = 2 ^ ((n.log2 : ℤ) + 1) / 2 ^ (d.log2 : ℤ) * 2 ^ d.log2 := by
          rw [← zpow_natCast (2 : ℚ) d.log2, div_mul_cancel₀ _ (two_zpow_pos _).ne']
      _ ≤ 2 ^ ((n.log2 : ℤ) + 1) / 2 ^ (d.log2 : ℤ) * d := by gcongr
  have logLow : (n.log2 : ℤ) - d.log2 - 1 ≤ Int.log 2 (n / d : ℚ) :=
    (Int.zpow_le_iff_le_log (by norm_num) qPos).1 (by exact_mod_cast low)
  have logHigh : Int.log 2 (n / d : ℚ) < (n.log2 : ℤ) - d.log2 + 1 :=
    (Int.lt_zpow_iff_log_lt (by norm_num) qPos).1 (by exact_mod_cast high)
  have below : quotientBelow n d ((n.log2 : ℤ) - d.log2) = true ↔
      Int.log 2 (n / d : ℚ) < (n.log2 : ℤ) - d.log2 := by
    rw [quotientBelow_iff dPos]
    exact_mod_cast Int.lt_zpow_iff_log_lt (by norm_num) qPos
  unfold powerFor
  simp only
  split
  next isBelow =>
    have := below.1 isBelow
    congr 1
    omega
  next notBelow =>
    have := mt below.2 notBelow
    congr 1
    omega

/-! ## The interval of a double -/

namespace Scaled

/-- That a number is in the interval of the reals that round to a value. -/
def Covers (v : Scaled) (q : ℚ) : Prop :=
  if v.closed then v.lowerEnd * 2 ^ (v.power - 2) ≤ q ∧ q ≤ v.upperEnd * 2 ^ (v.power - 2)
  else v.lowerEnd * 2 ^ (v.power - 2) < q ∧ q < v.upperEnd * 2 ^ (v.power - 2)

/-- That a value is the absolute value of a finite double other than zero. -/
structure IsDouble (v : Scaled) : Prop where
  positive : 0 < v.significand
  significand_lt : v.significand < 2 ^ 53
  least_le : -1074 ≤ v.power
  power_le : v.power ≤ 971
  power_eq : v.significand < 2 ^ 52 → v.power = -1074

/-- The lower 63 bits of the double of a value. -/
def word (v : Scaled) : ℕ := v.significand + (v.power + 1074).toNat * 2 ^ 52

variable {v : Scaled} {q : ℚ}

/-- Where a covered number lies, counted in last places of the value. -/
theorem Covers.places (covers : v.Covers q) :
    (v.lowerEnd / 4 : ℚ) ≤ q / 2 ^ v.power ∧ q / 2 ^ v.power ≤ (v.upperEnd / 4 : ℚ) ∧
      (v.closed = false → (v.lowerEnd / 4 : ℚ) < q / 2 ^ v.power ∧
        q / 2 ^ v.power < (v.upperEnd / 4 : ℚ)) := by
  have unitPos := two_zpow_pos v.power
  have quarter : (2 : ℚ) ^ (v.power - 2) = 2 ^ v.power / 4 := by
    rw [zpow_sub₀ (by norm_num)]
    norm_num
  rw [Covers] at covers
  rw [quarter] at covers
  rw [le_div_iff₀ unitPos, div_le_iff₀ unitPos, lt_div_iff₀ unitPos, div_lt_iff₀ unitPos]
  split at covers
  next closed =>
    refine ⟨by linarith [covers.1], by linarith [covers.2], fun notClosed => ?_⟩
    rw [closed] at notClosed
    cases notClosed
  next =>
    exact ⟨by linarith [covers.1], by linarith [covers.2], fun _ =>
      ⟨by linarith [covers.1], by linarith [covers.2]⟩⟩

theorem lowerEnd_ge (v : Scaled) : v.quadruple - 2 ≤ v.lowerEnd := by
  rw [lowerEnd]
  split <;> omega

/-- A covered number rounds to the significand, at the power of the value. -/
theorem Covers.roundsTo (covers : v.Covers q) (positive : 0 < v.significand) :
    RoundsTo (q / 2 ^ v.power) v.significand := by
  obtain ⟨low, high, inside⟩ := covers.places
  have lowerEnd_le : (4 * v.significand - 2 : ℚ) ≤ v.lowerEnd := by
    have := v.lowerEnd_ge
    have : 4 * v.significand ≤ v.lowerEnd + 2 := by unfold quadruple at this; omega
    have : (4 * v.significand : ℚ) ≤ v.lowerEnd + 2 := by exact_mod_cast this
    linarith
  have upperEnd_eq : (v.upperEnd : ℚ) = 4 * v.significand + 2 := by
    simp [upperEnd, quadruple]
  refine ⟨by linarith, by linarith, fun tie => ?_⟩
  by_contra odd
  have notClosed : v.closed = false := by simpa [closed] using odd
  obtain ⟨above, below⟩ := inside notClosed
  rcases tie with tie | tie
  · linarith
  · linarith

theorem Covers.pos (covers : v.Covers q) (positive : 0 < v.significand) : 0 < q := by
  have atLeast := (covers.roundsTo positive).lower
  have onePlace : (1 : ℚ) ≤ v.significand := by exact_mod_cast positive
  have : (0 : ℚ) < q / 2 ^ v.power := by linarith
  exact (div_pos_iff_of_pos_right (two_zpow_pos v.power)).1 this

/-- The words of finite doubles are below that of infinity. -/
theorem IsDouble.word_lt (double : v.IsDouble) : v.word < infinityWord := by
  have := double.significand_lt
  have := double.power_le
  have := double.least_le
  have := double.power_eq
  rw [word, infinityWord]
  rw [Nat.pow_eq]
  omega

/-- A number below the normal significands is covered by the least of them, if the
power is not the least one. -/
theorem IsDouble.significand_eq (double : v.IsDouble) (covers : v.Covers q)
    (normal : q / 2 ^ v.power < 2 ^ 52) (notLeast : v.power ≠ -1074) :
    v.significand = 2 ^ 52 := by
  have large : 2 ^ 52 ≤ v.significand := by
    by_contra small
    exact notLeast (double.power_eq (by omega))
  rcases Nat.eq_or_lt_of_le large with same | more
  · exact same.symm
  · exfalso
    have atLeast := (covers.roundsTo double.positive).lower
    have : (2 ^ 52 + 1 : ℚ) ≤ v.significand := by exact_mod_cast more
    linarith

end Scaled

/-! ## Words of quotients -/

section
variable {q : ℚ} {power : ℤ} {n d m : ℕ}

theorem log_lt_of_places_lt (positive : 0 < q) (place : ℕ) (below : q / 2 ^ power < 2 ^ place) :
    Int.log 2 q < place + power := by
  refine (Int.lt_zpow_iff_log_lt (by norm_num) positive).1 ?_
  rw [div_lt_iff₀ (two_zpow_pos power)] at below
  push_cast
  rwa [zpow_add₀ (by norm_num), zpow_natCast]

theorem le_log_of_le_places (positive : 0 < q) (place : ℕ) (above : 2 ^ place ≤ q / 2 ^ power) :
    place + power ≤ Int.log 2 q := by
  refine (Int.zpow_le_iff_le_log (by norm_num) positive).1 ?_
  rw [le_div_iff₀ (two_zpow_pos power)] at above
  push_cast
  rwa [zpow_add₀ (by norm_num), zpow_natCast]

/-- The word of a quotient is made of its power and its rounded significand. -/
theorem wordOfRatio_of_power (nPos : 0 < n) (dPos : 0 < d) (isPower : powerFor n d = power)
    (rounds : RoundsTo (n / d / 2 ^ power) m) :
    wordOfRatio n d = min (m + (power + 1074).toNat * 2 ^ 52) infinityWord := by
  rw [wordOfRatio]
  simp only [if_neg nPos.ne', isPower, divideScaled_eq dPos rounds, Nat.pow_eq]

end

namespace Scaled

variable {v : Scaled}

/-- A number that a value covers gives the word of the value. -/
theorem IsDouble.wordOfRatio_eq (double : v.IsDouble) {n d : ℕ} (dPos : 0 < d)
    (covers : v.Covers (n / d)) : wordOfRatio n d = v.word := by
  have rounds := covers.roundsTo double.positive
  have qPos : (0 : ℚ) < n / d := covers.pos double.positive
  have nPos : 0 < n := by
    rcases Nat.eq_zero_or_pos n with zero | positive
    · simp [zero] at qPos
    · exact positive
  have power_ge := double.least_le
  -- the word has the power and the significand of the value, unless there is a carry
  have direct : powerFor n d = v.power → wordOfRatio n d = v.word := fun isPower =>
    (wordOfRatio_of_power nPos dPos isPower rounds).trans (Nat.min_eq_left double.word_lt.le)
  have logHigh : Int.log 2 (n / d : ℚ) < (53 : ℕ) + v.power := by
    have := rounds.upper
    have : (v.significand : ℚ) + 1 ≤ 2 ^ 53 := by exact_mod_cast double.significand_lt
    have below : (n / d / 2 ^ v.power : ℚ) < 2 ^ 53 := by linarith
    exact log_lt_of_places_lt qPos 53 below
  by_cases normal : (2 : ℚ) ^ 52 ≤ n / d / 2 ^ v.power
  · have := le_log_of_le_places qPos 52 normal
    refine direct ?_
    rw [powerFor_eq nPos dPos]
    omega
  · rw [not_le] at normal
    have logBelow := log_lt_of_places_lt qPos 52 normal
    by_cases least : v.power = -1074
    · refine direct ?_
      rw [powerFor_eq nPos dPos]
      omega
    · have isLeast := double.significand_eq covers normal least
      have low : (2 ^ 52 - 1 / 4 : ℚ) ≤ n / d / 2 ^ v.power := by
        have lowerEnd_eq : v.lowerEnd = 4 * 2 ^ 52 - 1 := by
          rw [lowerEnd, quadruple]
          rw [if_pos ⟨isLeast, by omega⟩, isLeast]
        have := covers.places.1
        rw [lowerEnd_eq] at this
        norm_num at this ⊢
        exact this
      have above : (2 ^ 51 : ℚ) ≤ n / d / 2 ^ v.power := by
        norm_num at low ⊢
        linarith
      have logLow := le_log_of_le_places qPos 51 above
      have isPower : powerFor n d = v.power - 1 := by
        rw [powerFor_eq nPos dPos]
        omega
      have twice : (n / d / 2 ^ (v.power - 1) : ℚ) = 2 * (n / d / 2 ^ v.power) := by
        rw [zpow_sub₀ (by norm_num)]
        field_simp
      have carry : RoundsTo (n / d / 2 ^ (v.power - 1)) (2 ^ 53) := by
        rw [twice]
        push_cast
        exact ⟨by linarith, by linarith, fun _ => by norm_num⟩
      have sameWord : 2 ^ 53 + (v.power - 1 + 1074).toNat * 2 ^ 52 = v.word := by
        rw [word]
        omega
      rw [wordOfRatio_of_power nPos dPos isPower carry, sameWord]
      exact Nat.min_eq_left double.word_lt.le

end Scaled

end Backoffice.Double
