import Backoffice.Calendar.Reading
import Backoffice.Error
import Backoffice.Number.Text
import Backoffice.Text.Pieces
import Backoffice.Uuid

/-!
# The filter grammar

A filter value is a text.  Its first and last characters choose the operator and
what is left is the operand.

* `!x` is not equals, and `!*x*` does not contain.
* `>x` and `<x` are greater than and less than.
* `*x*` contains, `*x` ends with and `x*` starts with.
* `null` is null and `!null` is not null.
* On a boolean field `true` and `false`, with or without `!`, ask for the value.
* `$present` is neither null nor empty and `$blank` is null or empty.
* `$24HoursBefore` and `$24HoursAfter` compare with the time 24 hours ago.
* Any other text is equals.

The operator is checked against the type of the field before the operand is
read, so `>abc` on a text field is a fault of the operator.
-/

namespace Backoffice

open Text (dropStart? dropEnd? isDigit)

/-! ## Conditions -/

/-- What a field is compared with. -/
inductive Operand where
  | none
  | integer (value : Int)
  | double (value : Double)
  | text (value : String)
  | instant (value : Instant)
  | day (value : Day)
  | uuid (value : Uuid)
  /-- A number of hours before now. -/
  | hours (count : Nat)
deriving DecidableEq, Repr

/-- What a filter asks of one field. -/
structure Condition where
  /-- The path of the field. -/
  field : String
  /-- The filter value as it came. -/
  raw : String
  operator : Operator
  operand : Operand
deriving DecidableEq, Repr

/-! ## Operands -/

namespace Operand

/-- A whole number of 64 bits, else the nearest finite double. -/
def number? (cs : List Char) : Option Operand :=
  match Text.int64? cs with
  | some n => some (integer n)
  | Option.none => (Double.read? cs).map double

/-- The operand of a type that a text stands for. -/
def ofText? (type : SemanticType) (cs : List Char) : Option Operand :=
  match type with
  | .number => number? cs
  | .string | .enum => some (text (String.ofList cs))
  | .uuid => (Uuid.read? cs).map uuid
  | .date => (Instant.read? cs).map instant
  | .dateonly => (Day.read? cs).map day
  | .boolean | .json | .unsupported => Option.none

end Operand

/-! ## The choice of the operator -/

namespace Grammar

/-- The text `null`. -/
def nullWord : List Char := ['n', 'u', 'l', 'l']

/-- The text `true`. -/
def trueWord : List Char := ['t', 'r', 'u', 'e']

/-- The text `false`. -/
def falseWord : List Char := ['f', 'a', 'l', 's', 'e']

/-- The text `$present`. -/
def presentWord : List Char := ['$', 'p', 'r', 'e', 's', 'e', 'n', 't']

/-- The text `$blank`. -/
def blankWord : List Char := ['$', 'b', 'l', 'a', 'n', 'k']

/-- The end of a relative time before a number of hours ago. -/
def beforeWord : List Char := ['H', 'o', 'u', 'r', 's', 'B', 'e', 'f', 'o', 'r', 'e']

/-- The end of a relative time after a number of hours ago. -/
def afterWord : List Char := ['H', 'o', 'u', 'r', 's', 'A', 'f', 't', 'e', 'r']

/-- The text between two wildcards. -/
def betweenWildcards? (cs : List Char) : Option (List Char) :=
  (dropStart? ['*'] cs).bind (dropEnd? ['*'])

/-- The number of hours written by digits alone, when it has 32 bits. -/
def hours? (cs : List Char) : Option Nat :=
  (Text.natural? cs).filter (· < Text.word32)

/-- The operator and the count of a relative time, without its `$`. -/
def timeParts? (cs : List Char) : Option (Operator × List Char) :=
  match dropEnd? beforeWord cs with
  | some count => some (.hoursBefore, count)
  | none => (dropEnd? afterWord cs).map fun count => (.hoursAfter, count)

/-- The operator and the digits of a relative time. -/
def relativeTime? (cs : List Char) : Option (Operator × List Char) :=
  ((dropStart? ['$'] cs).bind timeParts?).filter fun parts => (hours? parts.2).isSome

/-- The operator and the operand text after a `!`. -/
def classifyNegated (type : SemanticType) (cs : List Char) : Operator × List Char :=
  match betweenWildcards? cs with
  | some inner => (.notContains, inner)
  | none =>
      if cs = nullWord then (.isNotNull, cs)
      else if type = .boolean ∧ cs = trueWord then (.isNotTrue, cs)
      else if type = .boolean ∧ cs = falseWord then (.isNotFalse, cs)
      else (.notEquals, cs)

/-- The operator and the operand text of a text without wildcard or leading sign. -/
def classifyWord (type : SemanticType) (cs : List Char) : Operator × List Char :=
  if cs = nullWord then (.isNull, cs)
  else if type = .boolean ∧ cs = trueWord then (.isTrue, cs)
  else if type = .boolean ∧ cs = falseWord then (.isFalse, cs)
  else if cs = presentWord then (.isPresent, cs)
  else if cs = blankWord then (.isBlank, cs)
  else (relativeTime? cs).getD (.equals, cs)

/-- The operator and the operand text of a text without leading sign. -/
def classifyPlain (type : SemanticType) (cs : List Char) : Operator × List Char :=
  match betweenWildcards? cs, dropStart? ['*'] cs, dropEnd? ['*'] cs with
  | some inner, _, _ => (.contains, inner)
  | none, some rest, _ => (.endsWith, rest)
  | none, none, some rest => (.startsWith, rest)
  | none, none, none => classifyWord type cs

/-- The operator a filter value chooses on a field of a type, and its operand text. -/
def classify (type : SemanticType) : List Char → Operator × List Char
  | '!' :: rest => classifyNegated type rest
  | '>' :: rest => (.greaterThan, rest)
  | '<' :: rest => (.lessThan, rest)
  | cs => classifyPlain type cs

/-- The operand of an operator on a field of a type that a text stands for. -/
def operand? (operator : Operator) (type : SemanticType) (cs : List Char) : Option Operand :=
  match operator with
  | .equals | .notEquals | .greaterThan | .lessThan => Operand.ofText? type cs
  | .contains | .notContains | .startsWith | .endsWith => some (.text (String.ofList cs))
  | .hoursBefore | .hoursAfter => (hours? cs).map .hours
  | _ => some .none

end Grammar

/-! ## Reading conditions -/

namespace Condition

/-- A condition on a field of a type, once the operator and the operand text are
known. -/
def assemble (field raw : String) (type : SemanticType) (operator : Operator)
    (operandText : List Char) : Except Error Condition :=
  if operator.supports type then
    match Grammar.operand? operator type operandText with
    | some operand => .ok ⟨field, raw, operator, operand⟩
    | none => .error (.typeMismatch field raw type)
  else .error (.unsupportedOperator field raw operator type)

/-- The condition of a filter value on a field of a type. -/
def parse (field raw : String) (type : SemanticType) : Except Error Condition :=
  let (operator, operandText) := Grammar.classify type raw.toList
  assemble field raw type operator operandText

/-- The condition that a field equals a text, which is not read by the grammar. -/
def equals (field value : String) (type : SemanticType) : Except Error Condition :=
  assemble field value type .equals value.toList

end Condition

end Backoffice
