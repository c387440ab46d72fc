import Backoffice.Proofs.Sql.Kinds

/-!
# Values on a scale

A database that knows what its values mean compares numbers by what they count and points of
time by when they are.  A `Scale` says that of one kind of values: each has a place on a line,
and comparisons go by these places (`Formula.truth_compare_of_scale`).
-/

namespace Backoffice.Sql

variable {V α : Type} [Ord α]

/-- The values of a kind have places, and a value of a statement is compared by the place that
`place?` gives it. -/
structure Engine.Typing.Scale {e : Engine V} (t : e.Typing) (kind : ValueKind)
    (place? : Value → Option α) where
  place : V → α
  order_eq : ∀ {v value point}, t.kind v = kind → place? value = some point →
    t.order v value = Ord.compare (place v) point

namespace Formula

variable {e : Engine V} {t : e.Typing} {row : JoinedRow V} {ref : ColumnRef} {kind : ValueKind}
  {place? : Value → Option α} {value : Value} {point : α}

/-- A comparison of a column is true where the value is there and its place compares. -/
theorem truth_compare_of_scale (scale : t.Scale kind place?)
    (typed : ∀ v, row.value ref = some v → t.kind v = kind) (isKind : value.kind = kind)
    (isPlace : place? value = some point) (comparison : Comparison) :
    (Formula.compare comparison (.column ref) value).truth (e.reading row) = .yes ↔
      ∃ v, row.value ref = some v ∧
        comparison.holds (Ord.compare (scale.place v) point) = true := by
  cases isValue : row.value ref with
  | none =>
      have isNull : row.value (Subject.column ref).ref = none := isValue
      rw [truth_compare_of_null isNull]
      simp
  | some v =>
      have isThere : row.value (Subject.column ref).ref = some v := isValue
      rw [truth_compare_of_value isThere, Engine.seen,
        t.compare_eq ((typed v isValue).trans isKind.symm),
        scale.order_eq (typed v isValue) isPlace, Truth.ofBool_eq_yes]
      simp

end Formula

/-! ## Databases of values -/

/-- A database of the values that statements are written with, in a given order.  Patterns and
sums are left out of it. -/
def Engine.ofOrder (order : Value → Value → Ordering) : Engine Value where
  same v w := v = w
  compare comparison v w :=
    if v.kind = w.kind then .ofBool (comparison.holds (order v w)) else .unknown
  fits _ _ _ := .no
  asText v := .text (String.ofList (Dialect.sqlite.literal v))
  sum _ := none
  slot := id

/-- Its values are typed by their kinds. -/
def Engine.typingOfOrder (order : Value → Value → Ordering) : (ofOrder order).Typing where
  kind := Value.kind
  order := order
  compare_eq same _ := if_pos same
  kind_asText _ := rfl
  fits_known _ _ _ := nofun

end Backoffice.Sql
