import Backoffice.Proofs.Filter.SearchLeaves
import Backoffice.Proofs.Filter.TypedLiterals
import Backoffice.Proofs.Number.WholeNumbers
import Backoffice.Proofs.Sql.Scales

/-!
# Whole numbers on number fields

What the digits of a whole number ask of a number field, in an id, in a filter and in a search.
All three read one operand from them (`ResolvedField.Asks`) or refuse them
(`ResolvedField.Refuses`).  Up to 64 bits the operand is the number itself.  Beyond, it is the
nearest double: the number itself only where a double has it, and else a number beside it,
whose rows are then found instead.
-/

namespace Backoffice

open Sql (Comparison Engine JoinedRow Value)

/-- The number that a value of a statement is. -/
def Sql.Value.number? : Value → Option ℚ
  | bigInt n => some n
  | bigUnsigned n => some n
  | double x => if x.isFinite then some x.value else none
  | bool _ | text _ | uuid _ | day _ | instant _ => none

namespace Operator

variable {operator : Operator} {comparison : Comparison}

/-- How an operator compares the field with its operand. -/
def comparison? : Operator → Option Comparison
  | equals => some .equal
  | notEquals => some .notEqual
  | greaterThan => some .greater
  | lessThan => some .less
  | _ => none

/-- The filter value that compares with the operand of a text. -/
def written (operator : Operator) (text : String) : String :=
  match operator with
  | notEquals => "!" ++ text
  | greaterThan => ">" ++ text
  | lessThan => "<" ++ text
  | _ => text

theorem isComparison_of_comparison? (compares : operator.comparison? = some comparison) :
    operator.isComparison = true := by
  cases operator with
  | equals | notEquals | greaterThan | lessThan => rfl
  | _ => cases compares

/-- Numbers are compared in all four ways. -/
theorem supports_of_comparison? (compares : operator.comparison? = some comparison) :
    operator.supports .number = true := by
  cases operator with
  | equals | notEquals | greaterThan | lessThan => rfl
  | _ => cases compares

end Operator

/-! ## Texts of operands -/

/-- The sign of a comparison leaves a plain text as it is. -/
theorem Grammar.classify_written {type : SemanticType} {operator : Operator}
    {comparison : Comparison} {text : String} (plain : IsPlain text.toList)
    (notBool : type ≠ .boolean) (compares : operator.comparison? = some comparison) :
    classify type (operator.written text).toList = (operator, text.toList) := by
  cases operator with
  | equals => exact classify_of_isPlain plain notBool
  | notEquals =>
      rw [Operator.written, String.toList_append]
      exact classifyNegated_of_isPlain plain notBool
  | greaterThan | lessThan =>
      rw [Operator.written, String.toList_append]
      rfl
  | _ => cases compares

namespace ResolvedField

variable {f : ResolvedField} {ctx : Context} {text : String} {v : Operand} {value : Value}

/-- A text is compared with a field as an operand with a value: in an id, in a filter and in a
search. -/
structure Asks (f : ResolvedField) (ctx : Context) (text : String) (v : Operand) (value : Value) :
    Prop where
  id : ∀ path, Condition.equals path text f.type = .ok ⟨path, text, .equals, v⟩
  filter : ∀ path (operator : Operator) comparison, operator.comparison? = some comparison →
    Condition.parse path (operator.written text) f.type =
      .ok ⟨path, operator.written text, operator, v⟩
  compiles : ∀ path raw (operator : Operator) comparison, operator.comparison? = some comparison →
    f.compile ctx ⟨path, raw, operator, v⟩ =
      .ok (f.predicate ⟨path, raw, operator, v⟩ (f.compares comparison value))
  search : f.searchLeaf? ctx.dialect text =
    some (f.predicate ⟨f.path, text, .equals, v⟩ (f.compares .equal value))

/-- A text is no operand of a field: it is a fault in an id and in a filter, and the field takes
no part in a search for it. -/
structure Refuses (f : ResolvedField) (ctx : Context) (text : String) : Prop where
  id : ∀ path, Condition.equals path text f.type = .error (.typeMismatch path text f.type)
  filter : ∀ path (operator : Operator) comparison, operator.comparison? = some comparison →
    Condition.parse path (operator.written text) f.type =
      .error (.typeMismatch path (operator.written text) f.type)
  search : f.searchLeaf? ctx.dialect text = none

/-! ## Numbers -/

/-- A number field compares with the value of a number. -/
theorem compile_number (onNumber : f.type = .number) (isValue : v.value? = some value)
    {path raw : String} {operator : Operator} {comparison : Comparison}
    (compares : operator.comparison? = some comparison) :
    f.compile ctx ⟨path, raw, operator, v⟩ =
      .ok (f.predicate ⟨path, raw, operator, v⟩ (f.compares comparison value)) := by
  have supported := Operator.supports_of_comparison? compares
  rw [← onNumber] at supported
  have notEnum : f.type ≠ .enum := by simp [onNumber]
  have isFormula : f.formula ctx ⟨path, raw, operator, v⟩ = .ok (f.compares comparison value) := by
    cases operator with
    | equals | notEquals =>
        cases compares
        simp [formula, equalityFormula, isValue, notEnum]
    | greaterThan | lessThan =>
        cases compares
        simp [formula, orderFormula, isValue]
    | _ => cases compares
  rw [compile_of_supports supported, isFormula]
  rfl

/-- A number field asks for the number that a text is. -/
theorem asks_of_number? (onNumber : f.type = .number) (plain : Grammar.IsPlain text.toList)
    (read : Operand.number? text.toList = some v) (isValue : v.value? = some value) :
    f.Asks ctx text v value where
  id path := by
    rw [onNumber]
    exact (Condition.equals_eq_ok_iff rfl).2 read
  filter path operator comparison compares := by
    rw [onNumber, Condition.parse, Grammar.classify_written plain (by decide) compares]
    exact (Condition.assemble_eq_ok_iff (Operator.isComparison_of_comparison? compares)
      (Operator.supports_of_comparison? compares)).2 read
  compiles path raw operator comparison compares := compile_number onNumber isValue compares
  search := by
    have compiled : f.compile ctx ⟨f.path, text, .equals, v⟩ = .ok _ :=
      compile_number onNumber isValue rfl
    rw [searchLeaf?_eq_some_of_isExact (.inl onNumber), onNumber]
    exact ⟨v, read, compiled⟩

/-- A number field refuses a text that is no number. -/
theorem refuses_of_number? (onNumber : f.type = .number) (plain : Grammar.IsPlain text.toList)
    (unread : Operand.number? text.toList = none) : f.Refuses ctx text where
  id path := by
    rw [onNumber]
    exact Condition.assemble_eq_error rfl rfl unread
  filter path operator comparison compares := by
    rw [onNumber, Condition.parse, Grammar.classify_written plain (by decide) compares]
    exact Condition.assemble_eq_error (Operator.isComparison_of_comparison? compares)
      (Operator.supports_of_comparison? compares) unread
  search := by
    rw [searchLeaf?_eq_none_of_isExact (.inl onNumber), onNumber]
    exact unread

/-- The rows of which a comparison with a number is true, in a database that compares numbers by
their values. -/
theorem truth_compares_number {V : Type} {e : Engine V} {t : e.Typing} {row : JoinedRow V} {q : ℚ}
    (onNumber : f.type = .number) (typed : f.IsTyped ctx.dialect t row)
    (numbers : t.Scale .number Value.number?) (isNumber : value.number? = some q)
    (comparison : Comparison) :
    (f.compares comparison value).truth (e.reading row) = .yes ↔
      ∃ w, row.value f.ref = some w ∧ comparison.holds (compare (numbers.place w) q) = true := by
  have isKind : value.kind = .number := by
    cases value with
    | bigInt | bigUnsigned | double => rfl
    | _ => cases isNumber
  refine Sql.Formula.truth_compare_of_scale numbers (fun w isValue => ?_) isKind isNumber comparison
  rw [kind_value typed (by simp [onNumber]) isValue, onNumber]
  rfl

end ResolvedField

/-! ## Whole numbers -/

section
variable {cs : List Char} {n : ℤ} (read : Text.integer? cs = some n)

theorem Text.natAbs_le_of_isInt64 (small : Text.isInt64 n = true) : n.natAbs ≤ 2 ^ 64 := by
  rw [isInt64_iff] at small
  omega

/-- A whole number of more than 64 bits has more places than a double. -/
theorem Text.le_natAbs_of_isInt64 (large : Text.isInt64 n = false) : 2 ^ 52 ≤ n.natAbs := by
  rw [← Bool.not_eq_true, isInt64_iff] at large
  omega

include read

theorem Operand.number?_of_isInt64 (small : Text.isInt64 n = true) :
    Operand.number? cs = some (.integer n) := by
  have isInteger : Text.int64? cs = some n := by
    rw [Text.int64?, read, Option.filter_some, if_pos small]
  rw [number?, isInteger]

theorem Operand.number?_of_large (large : Text.isInt64 n = false) :
    Operand.number? cs = (Double.read? cs).map .double := by
  have notSmall : Text.int64? cs = Option.none := by
    rw [Text.int64?, read, Option.filter_some, large]
    rfl
  rw [number?, notSmall]

/-- A whole number of 64 bits is its own operand.  Any other has the nearest double, which is the
same number only where a double has it, or none where that is infinite. -/
theorem Operand.exists_number_of_integer? :
    (2 ^ 1024 - 2 ^ 970 ≤ n.natAbs → Operand.number? cs = Option.none) ∧
      (n.natAbs < 2 ^ 1024 - 2 ^ 970 → ∃ v value q, Operand.number? cs = some v ∧
        v.value? = some value ∧ value.number? = some q ∧
        (q = n ↔ Text.isInt64 n = true ∨ Double.IsWholeDouble n.natAbs) ∧
        |q - n| * 2 ^ 53 ≤ |n|) := by
  cases size : Text.isInt64 n with
  | true =>
      have below : n.natAbs < 2 ^ 1024 - 2 ^ 970 :=
        (Text.natAbs_le_of_isInt64 size).trans_lt Double.lt_infinite
      refine ⟨fun huge => absurd below (not_lt.2 huge), fun _ => ?_⟩
      refine ⟨.integer n, .bigInt n, n, number?_of_isInt64 read size, rfl, rfl, ?_, ?_⟩
      · simp
      · simp
  | false =>
      obtain ⟨infinite, finite⟩ := Double.read?_of_integer? read (Text.le_natAbs_of_isInt64 size)
      rw [number?_of_large read size]
      constructor
      · intro huge
        rw [infinite huge]
        rfl
      · intro below
        obtain ⟨x, isDouble, isFinite, exact, near⟩ := finite below
        refine ⟨.double x, .double x, x.value, ?_, rfl, if_pos isFinite, ?_, near⟩
        · rw [isDouble]
          rfl
        · simpa using exact

end

/-- A whole number on a number field, written with an optional sign and any number of digits,
is refused everywhere exactly where its nearest double is infinite.  Elsewhere an id, a filter
and a search all ask for one number beside it, at most one part in `2^53` away, and in a
database that compares numbers by their values the rows found are those of that number.  It is
the number written exactly for the numbers of 64 bits and those that a double has. -/
theorem whole_numbers_are_rounded {text : String} {n : ℤ} (f : ResolvedField) (ctx : Context)
    (onNumber : f.type = .number) (isInteger : Text.integer? text.toList = some n) :
    (f.Refuses ctx text ↔ 2 ^ 1024 - 2 ^ 970 ≤ n.natAbs) ∧
      (n.natAbs < 2 ^ 1024 - 2 ^ 970 → ∃ v value q, f.Asks ctx text v value ∧
        value.number? = some q ∧ |q - n| * 2 ^ 53 ≤ |n| ∧
        (q = n ↔ Text.isInt64 n = true ∨ Double.IsWholeDouble n.natAbs) ∧
        ∀ {V : Type} {e : Engine V} {t : e.Typing} (numbers : t.Scale .number Value.number?)
          (row : JoinedRow V), f.IsTyped ctx.dialect t row → ∀ comparison,
            (f.compares comparison value).truth (e.reading row) = .yes ↔
              ∃ w, row.value f.ref = some w ∧
                comparison.holds (compare (numbers.place w) q) = true) := by
  have plain : Grammar.IsPlain text.toList :=
    Grammar.isPlain_of_each (Decimal.each_of_integer? isInteger) (by decide)
  obtain ⟨infinite, finite⟩ := Operand.exists_number_of_integer? isInteger
  constructor
  · constructor
    · intro refused
      by_contra below
      obtain ⟨v, value, q, read, isValue, _⟩ := finite (not_le.1 below)
      have asks : f.Asks ctx text v value :=
        ResolvedField.asks_of_number? onNumber plain read isValue
      have := asks.search.symm.trans refused.search
      cases this
    · exact fun huge => ResolvedField.refuses_of_number? onNumber plain (infinite huge)
  · intro below
    obtain ⟨v, value, q, read, isValue, isNumber, exact, near⟩ := finite below
    refine ⟨v, value, q, ResolvedField.asks_of_number? onNumber plain read isValue, isNumber, near,
      exact, fun numbers row typed comparison => ?_⟩
    exact ResolvedField.truth_compares_number onNumber typed numbers isNumber comparison

namespace Sample

/-- The number of a counter, an unsigned one of 64 bits. -/
def count : ResolvedField where
  path := "id"
  association := none
  table := "counters"
  field := (Column.named "id" .bigUnsigned).asPrimaryKey.field?.get rfl

/-- A counter with a number. -/
def counted (n : ℕ) : JoinedRow Value := JoinedRow.single "counters" fun _ => some (.bigUnsigned n)

/-- Numbers in their order. -/
def numberOrder (v w : Value) : Ordering :=
  match w.number? with
  | some q => compare (v.number?.getD 0) q
  | none => if v = w then .eq else .lt

/-- A database in which each number has its own place. -/
def numberScale : (Engine.typingOfOrder numberOrder).Scale .number Value.number? where
  place v := v.number?.getD 0
  order_eq _ isNumber := by simp only [Engine.typingOfOrder, numberOrder, isNumber]

/-- The double of `2^63`. -/
def wordSize : Double := ⟨0x43e0000000000000⟩

/-- The number after `2^63` finds the counter before it and not its own, and a number of 310
digits is refused. -/
theorem whole_numbers_are_rounded_in_counters :
    count.Asks articles "9223372036854775809" (.double wordSize) (.double wordSize) ∧
      (count.compares .equal (.double wordSize)).truth
        ((Engine.ofOrder numberOrder).reading (counted 9223372036854775808)) = .yes ∧
      (count.compares .equal (.double wordSize)).truth
        ((Engine.ofOrder numberOrder).reading (counted 9223372036854775809)) ≠ .yes ∧
      count.Refuses articles (String.ofList ('1' :: List.replicate 309 '0')) := by
  have isInteger : Text.integer? "9223372036854775809".toList = some 9223372036854775809 := by
    decide
  obtain ⟨v, value, q, asks, isNumber, _, _, rows⟩ :=
    (whole_numbers_are_rounded count articles rfl isInteger).2
      (lt_of_le_of_lt (by decide) Double.lt_infinite)
  have leaf : count.searchLeaf? articles.dialect "9223372036854775809" =
      some (count.predicate ⟨"id", "9223372036854775809", .equals, .double wordSize⟩
        (count.compares .equal (.double wordSize))) := by decide +kernel
  have same := asks.search.symm.trans leaf
  have isOperand : v = .double wordSize :=
    congrArg (fun p => p.condition.operand) (Option.some.inj same)
  have isValue : value = .double wordSize :=
    (Sql.Formula.compare.inj (congrArg Predicate.formula (Option.some.inj same))).2.2
  subst isOperand isValue
  have isSize : Value.number? (.double wordSize) = some 9223372036854775808 := by decide +kernel
  cases isNumber.symm.trans isSize
  have typed : ∀ n,
      count.IsTyped articles.dialect (Engine.typingOfOrder numberOrder) (counted n) := by
    rintro n w ⟨⟩
    exact .inl rfl
  refine ⟨asks, ?_, ?_, ?_⟩
  · exact (rows numberScale _ (typed _) .equal).2 ⟨_, rfl, by decide +kernel⟩
  · intro found
    obtain ⟨_, ⟨⟩, holds⟩ := (rows numberScale _ (typed _) .equal).1 found
    revert holds
    decide +kernel
  · have digits : Text.integer? (String.ofList ('1' :: List.replicate 309 '0')).toList =
        some (10 ^ 309) := by
      rw [String.toList_ofList]
      decide +kernel
    exact (whole_numbers_are_rounded count articles rfl digits).1.2 (by decide +kernel)

end Sample

end Backoffice
