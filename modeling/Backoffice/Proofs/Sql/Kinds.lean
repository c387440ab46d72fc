import Backoffice.Proofs.Sql.Database

/-!
# Comparisons of values of one kind

What a database has to do for comparisons to mean anything is little.  A value compares
with one of its own kind by some order, and a text fits a pattern or it does not
(`Engine.Typing`).  Which order it is, and which texts fit, is left open.

Comparisons of one column then exclude each other and leave out no value: an equality and
its negation (`count_equal_notEqual`), equal, less and greater (`count_equal_less_greater`).
Both are unknown of null, unless a formula asks for null itself (`count_other_given`,
`count_fits_notFits`).
-/

namespace Backoffice.Sql

/-- The kind of a value.  Only values of one kind are compared. -/
inductive ValueKind where
  | number
  | text
  | bool
  | uuid
  | day
  | instant
  /-- What is not compared with any value. -/
  | other
deriving DecidableEq, Repr

/-- The kind of a value in a statement. -/
def Value.kind : Value → ValueKind
  | bool _ => .bool
  | bigInt _ | bigUnsigned _ | double _ => .number
  | text _ => .text
  | uuid _ => .uuid
  | day _ => .day
  | instant _ => .instant

/-- Whether a comparison is true of values that stand in an order. -/
def Comparison.holds : Comparison → Ordering → Bool
  | equal, order => order == .eq
  | notEqual, order => order != .eq
  | greater, order => order == .gt
  | less, order => order == .lt

variable {V : Type}

/-- How a database treats values of the same kind. -/
structure Engine.Typing (e : Engine V) where
  kind : V → ValueKind
  /-- Where a value stands to a value of a statement. -/
  order : V → Value → Ordering
  compare_eq : ∀ {v value}, kind v = value.kind → ∀ comparison,
    e.compare comparison v value = .ofBool (comparison.holds (order v value))
  kind_asText : ∀ v, kind (e.asText v) = .text
  fits_known : ∀ {v}, kind v = .text → ∀ style pattern, e.fits style v pattern ≠ .unknown

/-- The value that a subject reads of a column. -/
def Engine.seen (e : Engine V) : Subject → V → V
  | .column _, v => v
  | .castToText _, v => e.asText v

namespace Formula

variable {e : Engine V} {row : JoinedRow V} {subject : Subject} {v : V}

theorem truth_not (r : Reading) (formula : Formula) :
    (not formula).truth r = (formula.truth r).not := rfl

theorem truth_and (r : Reading) (left right : Formula) :
    (and left right).truth r = (left.truth r).and (right.truth r) := rfl

theorem truth_or (r : Reading) (left right : Formula) :
    (or left right).truth r = (left.truth r).or (right.truth r) := rfl

theorem truth_compare_of_null (null : row.value subject.ref = none) (comparison : Comparison)
    (value : Value) : (compare comparison subject value).truth (e.reading row) = .unknown := by
  cases subject <;> simp only [truth, Engine.reading, null]

theorem truth_compare_of_value (isValue : row.value subject.ref = some v)
    (comparison : Comparison) (value : Value) :
    (compare comparison subject value).truth (e.reading row) =
      e.compare comparison (e.seen subject v) value := by
  cases subject <;> simp only [truth, Engine.reading, isValue, Engine.seen]

theorem truth_fits_of_null (null : row.value subject.ref = none) (style : MatchStyle)
    (pattern : String) : (fits style subject pattern).truth (e.reading row) = .unknown := by
  cases subject <;> simp only [truth, Engine.reading, null]

theorem truth_fits_of_value (isValue : row.value subject.ref = some v) (style : MatchStyle)
    (pattern : String) :
    (fits style subject pattern).truth (e.reading row) =
      e.fits style (e.seen subject v) pattern := by
  cases subject <;> simp only [truth, Engine.reading, isValue, Engine.seen]

theorem truth_isNull (ref : ColumnRef) :
    (isNull ref).truth (e.reading row) = .ofBool (row.value ref).isNone := rfl

theorem truth_isNotNull (ref : ColumnRef) :
    (isNotNull ref).truth (e.reading row) = .ofBool (row.value ref).isSome := by
  rw [truth, Engine.reading, Option.not_isNone]

/-! ## Opposite formulas -/

section
variable (t : e.Typing) (subject : Subject) (value : Value)
variable (typed : ∀ v, row.value subject.ref = some v → t.kind (e.seen subject v) = value.kind)

include typed

/-- Equal and not equal exclude each other, and one of the two holds of a value. -/
theorem count_equal_notEqual :
    [(compare .equal subject value).truth (e.reading row),
      (compare .notEqual subject value).truth (e.reading row)].count .yes =
      if (row.value subject.ref).isSome then 1 else 0 := by
  cases isValue : row.value subject.ref with
  | none =>
      rw [truth_compare_of_null isValue, truth_compare_of_null isValue]
      rfl
  | some v =>
      rw [truth_compare_of_value isValue, truth_compare_of_value isValue,
        t.compare_eq (typed v isValue), t.compare_eq (typed v isValue)]
      cases t.order (e.seen subject v) value with
      | lt | eq | gt => rfl

/-- A value is equal, less or greater. -/
theorem count_equal_less_greater :
    [(compare .equal subject value).truth (e.reading row),
      (compare .less subject value).truth (e.reading row),
      (compare .greater subject value).truth (e.reading row)].count .yes =
      if (row.value subject.ref).isSome then 1 else 0 := by
  cases isValue : row.value subject.ref with
  | none =>
      simp only [truth_compare_of_null isValue]
      rfl
  | some v =>
      simp only [truth_compare_of_value isValue, t.compare_eq (typed v isValue)]
      cases t.order (e.seen subject v) value with
      | lt | eq | gt => rfl

/-- A value other than the given one is there, or the value is missing or the given one. -/
theorem count_other_given {ref : ColumnRef} (sameRef : subject.ref = ref) :
    [(and (isNotNull ref) (compare .notEqual subject value)).truth (e.reading row),
      (or (isNull ref) (compare .equal subject value)).truth (e.reading row)].count .yes = 1 := by
  rw [truth_and, truth_or, truth_isNull, truth_isNotNull, ← sameRef]
  cases isValue : row.value subject.ref with
  | none =>
      rw [truth_compare_of_null isValue, truth_compare_of_null isValue]
      rfl
  | some v =>
      rw [truth_compare_of_value isValue, truth_compare_of_value isValue,
        t.compare_eq (typed v isValue), t.compare_eq (typed v isValue)]
      cases t.order (e.seen subject v) value with
      | lt | eq | gt => rfl

end

theorem count_isNull_isNotNull (ref : ColumnRef) :
    [(isNull ref).truth (e.reading row), (isNotNull ref).truth (e.reading row)].count .yes = 1 := by
  rw [truth_isNull, truth_isNotNull]
  cases row.value ref with
  | none => rfl
  | some v => rfl

/-- A text is found, or it is not found or there is none to search. -/
theorem count_fits_notFits (t : e.Typing) {subject : Subject} {style : MatchStyle}
    {pattern : String} {ref : ColumnRef} (sameRef : subject.ref = ref)
    (typed : ∀ v, row.value subject.ref = some v → t.kind (e.seen subject v) = .text) :
    [(fits style subject pattern).truth (e.reading row),
      (or (not (fits style subject pattern)) (isNull ref)).truth (e.reading row)].count .yes =
      1 := by
  rw [truth_or, truth_not, truth_isNull, ← sameRef]
  cases isValue : row.value subject.ref with
  | none =>
      rw [truth_fits_of_null isValue]
      rfl
  | some v =>
      have known := t.fits_known (typed v isValue) style pattern
      rw [truth_fits_of_value isValue]
      cases fitting : e.fits style (e.seen subject v) pattern with
      | yes | no => rfl
      | unknown => exact absurd fitting known

end Formula

end Backoffice.Sql
