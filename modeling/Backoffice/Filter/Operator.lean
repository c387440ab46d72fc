import Backoffice.Schema.SemanticType

/-!
# Filter operators

What a filter asks of a field, and the semantic types it can be asked of.
-/

namespace Backoffice

/-- What a filter asks of a field. -/
inductive Operator where
  | equals
  | notEquals
  | greaterThan
  | lessThan
  | contains
  | notContains
  | startsWith
  | endsWith
  | isNull
  | isNotNull
  | isTrue
  | isFalse
  /-- Not true, which leaves out null. -/
  | isNotTrue
  /-- Not false, which leaves out null. -/
  | isNotFalse
  /-- Earlier than a number of hours ago. -/
  | hoursBefore
  /-- Later than a number of hours ago. -/
  | hoursAfter
  /-- Neither null nor empty. -/
  | isPresent
  /-- Null or empty. -/
  | isBlank
deriving DecidableEq, Repr, Inhabited

namespace Operator

/-- Every operator. -/
def all : List Operator :=
  [equals, notEquals, greaterThan, lessThan, contains, notContains, startsWith, endsWith, isNull,
   isNotNull, isTrue, isFalse, isNotTrue, isNotFalse, hoursBefore, hoursAfter, isPresent, isBlank]

/-- The words for an operator. -/
def label : Operator → String
  | equals => "equals"
  | notEquals => "not equals"
  | greaterThan => "greater than"
  | lessThan => "less than"
  | contains => "contains"
  | notContains => "not contains"
  | startsWith => "starts with"
  | endsWith => "ends with"
  | isNull => "is null"
  | isNotNull => "is not null"
  | isTrue => "is true"
  | isFalse => "is false"
  | isNotTrue => "is not true"
  | isNotFalse => "is not false"
  | hoursBefore => "hours before"
  | hoursAfter => "hours after"
  | isPresent => "is present"
  | isBlank => "is blank"

/-- Whether an operator can be asked of fields of a type. -/
def supports (operator : Operator) (type : SemanticType) : Bool :=
  match operator with
  | equals | notEquals => type ≠ .json && type ≠ .unsupported
  | greaterThan | lessThan => type.isOrdered
  | contains | notContains | startsWith | endsWith | isPresent | isBlank => type = .string
  | isNull | isNotNull => type ≠ .unsupported
  | isTrue | isFalse | isNotTrue | isNotFalse => type = .boolean
  | hoursBefore | hoursAfter => type.isTemporal

/-- Every operator is in the list of all operators. -/
theorem mem_all (operator : Operator) : operator ∈ all := by cases operator <;> decide

end Operator

end Backoffice
