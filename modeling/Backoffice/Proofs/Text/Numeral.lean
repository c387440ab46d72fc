import Mathlib.Algebra.Group.Int.Defs
import Mathlib.Algebra.Group.Nat.Defs
import Backoffice.Text.Numeral

/-!
# Numerals

What the digits of a number read as, and which characters a numeral has.  A numeral
that is read has digits only, but for one sign in front.
-/

namespace Backoffice.Text

theorem digitsValue_eq (cs : List Char) : digitsValue cs = Nat.ofDigitChars 10 cs 0 := rfl

/-- Leading zeros add nothing. -/
theorem digitsValue_zeros_append (zeros : Nat) (cs : List Char) :
    digitsValue (List.replicate zeros '0' ++ cs) = digitsValue cs := by
  rw [digitsValue_eq, Nat.ofDigitChars_append, Nat.ofDigitChars_replicate_zero, Nat.mul_zero]
  rfl

/-- Each trailing zero is a factor ten. -/
theorem digitsValue_append_zeros (cs : List Char) (zeros : Nat) :
    digitsValue (cs ++ List.replicate zeros '0') = digitsValue cs * 10 ^ zeros := by
  rw [digitsValue_eq, Nat.ofDigitChars_append, Nat.ofDigitChars_replicate_zero, Nat.mul_comm]
  rfl

/-! ## The digits of a number -/

@[simp] theorem digitsValue_digits (n : Nat) : digitsValue (digits n) = n :=
  Nat.ofDigitChars_ten_toDigits

@[simp] theorem digits_ne_nil (n : Nat) : digits n ≠ [] := Nat.toDigits_ne_nil

theorem isDigit_of_mem_digits {n : Nat} {c : Char} (member : c ∈ digits n) : isDigit c = true :=
  Nat.isDigit_of_mem_toDigits (by decide) (by decide) member

@[simp] theorem all_isDigit_digits (n : Nat) : (digits n).all isDigit = true :=
  List.all_eq_true.2 fun _ member => isDigit_of_mem_digits member

/-- The digits of a number start with a digit. -/
theorem digits_eq_cons (n : Nat) : ∃ first rest, digits n = first :: rest ∧
    isDigit first = true ∧ rest.all isDigit = true := by
  cases split : digits n with
  | nil => exact absurd split (digits_ne_nil n)
  | cons first rest =>
      have all := all_isDigit_digits n
      rw [split, List.all_cons, Bool.and_eq_true] at all
      exact ⟨first, rest, rfl, all⟩

/-- Digits are taken up to the first character that is none. -/
theorem takeWhile_digits {whole : List Char} (rest : List Char) (digits : whole.all isDigit = true)
    (stop : ∀ c ∈ rest.head?, isDigit c = false) :
    (whole ++ rest).takeWhile isDigit = whole ∧ (whole ++ rest).dropWhile isDigit = rest := by
  have all : ∀ c ∈ whole, isDigit c = true := List.all_eq_true.1 digits
  rw [List.takeWhile_append_of_pos all, List.dropWhile_append_of_pos all]
  cases rest with
  | nil => simp
  | cons c rest =>
      have : isDigit c = false := stop c rfl
      simp [this]

/-! ## Reading -/

@[simp] theorem natural?_digits (n : Nat) : natural? (digits n) = some n := by
  simp [natural?]

theorem natural?_eq_some {cs : List Char} {n : Nat} (read : natural? cs = some n) :
    cs ≠ [] ∧ cs.all isDigit = true := by
  rw [natural?] at read
  split at read
  next digits => exact digits
  next => cases read

/-- Without a sign, an integer is a natural number. -/
theorem integer?_of_digit {first : Char} {rest : List Char} (digit : isDigit first = true) :
    integer? (first :: rest) = (natural? (first :: rest)).map Int.ofNat := by
  unfold integer?
  split
  next same =>
    cases same
    cases digit
  next same =>
    cases same
    cases digit
  next => rfl

/-- An integer reads back. -/
@[simp] theorem integer?_signedDigits (n : Int) : integer? (signedDigits n) = some n := by
  rw [signedDigits]
  split
  next negative =>
    rw [integer?, natural?_digits, Option.map_some]
    rw [Int.ofNat_eq_natCast]
    congr 1
    omega
  next notNegative =>
    obtain ⟨first, rest, split, digit, _⟩ := digits_eq_cons n.natAbs
    rw [split, integer?_of_digit digit, ← split, natural?_digits, Option.map_some]
    rw [Int.ofNat_eq_natCast]
    congr 1
    omega

theorem isInt64_iff {n : Int} : isInt64 n = true ↔ -2 ^ 63 ≤ n ∧ n < 2 ^ 63 := by
  rw [isInt64, Bool.and_eq_true, decide_eq_true_iff, decide_eq_true_iff, Nat.pow_eq]
  exact Iff.rfl

/-- A 64-bit integer reads back, and no other integer does. -/
theorem int64?_signedDigits (n : Int) :
    int64? (signedDigits n) = if isInt64 n then some n else none := by
  rw [int64?, integer?_signedDigits, Option.filter_some]

/-- A numeral has signs and digits only. -/
theorem isNumeral_of_integer? {cs : List Char} {n : Int} (read : integer? cs = some n) :
    ∀ c ∈ cs, isDigit c = true ∨ c = '-' ∨ c = '+' := by
  have digitsOnly : ∀ {rest : List Char} {f : Nat → Int}, (natural? rest).map f = some n →
      ∀ c ∈ rest, isDigit c = true := by
    intro rest f mapped c member
    obtain ⟨m, natural, _⟩ := Option.map_eq_some_iff.1 mapped
    exact List.all_eq_true.1 (natural?_eq_some natural).2 c member
  unfold integer? at read
  split at read
  · rintro c (_ | ⟨_, member⟩)
    · exact .inr (.inr rfl)
    · exact .inl (digitsOnly read c member)
  · rintro c (_ | ⟨_, member⟩)
    · exact .inr (.inl rfl)
    · exact .inl (digitsOnly read c member)
  · intro c member
    exact .inl (digitsOnly read c member)

theorem isNumeral_of_int64? {cs : List Char} {n : Int} (read : int64? cs = some n) :
    ∀ c ∈ cs, isDigit c = true ∨ c = '-' ∨ c = '+' :=
  isNumeral_of_integer? (Option.filter_eq_some_iff.1 read).1

end Backoffice.Text
