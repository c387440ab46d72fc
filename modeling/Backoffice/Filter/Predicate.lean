import Backoffice.Filter.Condition
import Backoffice.Filter.Context
import Backoffice.Sql.Pattern

/-!
# Compiled conditions

A `Predicate` is a condition together with the formula that says it of a row.

* Equality on an enum field is asked only of a declared value, and reads the
  column as a text.
* A wildcard condition without case puts both sides in upper case.  With case it
  takes the means each dialect has: `GLOB`, `LIKE BINARY` or `LIKE`.
* Not containing a text holds of null as well.
* A relative time compares a point of time with the instant some hours ago, and a
  day with the day of that instant in the time zone of the request.  An instant off the
  calendar is refused, but one on a local day off the calendar stops the request.
-/

namespace Backoffice

open Sql (Formula Value MatchStyle Placement)

/-- A condition and the formula that says it of a row. -/
structure Predicate where
  /-- The path of the field. -/
  path : String
  /-- The association that has to be joined. -/
  association : Option String
  condition : Condition
  formula : Formula
deriving DecidableEq, Repr

/-- The value of an operand that a column is compared with. -/
def Operand.value? : Operand → Option Value
  | integer n => some (.bigInt n)
  | double x => some (.double x)
  | text s => some (.text s)
  | instant t => some (.instant t)
  | day d => some (.day d)
  | uuid u => some (.uuid u)
  | none | hours _ => Option.none

/-- Where the text of a wildcard operator stands. -/
def Operator.placement : Operator → Placement
  | startsWith => .atStart
  | endsWith => .atEnd
  | _ => .anywhere

/-- How a dialect matches patterns. -/
def Sql.Dialect.matchStyle (d : Sql.Dialect) (caseSensitive : Bool) : MatchStyle :=
  if caseSensitive then
    match d with
    | .sqlite => .glob
    | .mysql => .binary
    | .postgres => .exact
  else .folded

/-- The pattern that finds a text in a style of matching. -/
def Sql.MatchStyle.pattern (style : MatchStyle) (placement : Placement) (text : String) : String :=
  String.ofList <| match style with
    | .glob => Sql.globPattern placement text.toList
    | .folded | .exact | .binary => Sql.likePattern placement text.toList

namespace ResolvedField

/-! ## Formulas -/

/-- That a text stands somewhere in the field. -/
def finds (f : ResolvedField) (d : Sql.Dialect) (caseSensitive : Bool) (placement : Placement)
    (text : String) : Formula :=
  let style := d.matchStyle caseSensitive
  .fits style (f.textSubject d) (style.pattern placement text)

/-- That the field compares with a value. -/
def compares (f : ResolvedField) (comparison : Sql.Comparison) (value : Value) : Formula :=
  .compare comparison (.column f.ref) value

/-- The fault of an operand that does not go with its operator. -/
def mismatch {α : Type} (f : ResolvedField) (c : Condition) : Except Error α :=
  .error (.typeMismatch f.path c.raw f.type)

/-- Whether an operand is a declared value of the field. -/
def isMember (f : ResolvedField) : Operand → Bool
  | .text s => (f.field.enumValues.getD []).contains s
  | _ => false

/-- That the field equals the operand, or that it does not. -/
def equalityFormula (f : ResolvedField) (d : Sql.Dialect) (comparison : Sql.Comparison)
    (c : Condition) : Except Error Formula :=
  match c.operand.value? with
  | none => f.mismatch c
  | some value =>
      if f.type = .enum then
        if f.isMember c.operand then .ok (.compare comparison (f.textSubject d) value)
        else f.mismatch c
      else .ok (f.compares comparison value)

/-- That the field is greater or less than the operand. -/
def orderFormula (f : ResolvedField) (comparison : Sql.Comparison) (c : Condition) :
    Except Error Formula :=
  match c.operand.value? with
  | none => f.mismatch c
  | some value => .ok (f.compares comparison value)

/-- That the operand's text stands somewhere in the field. -/
def textFormula (f : ResolvedField) (ctx : Context) (c : Condition) : Except Error Formula :=
  match c.operand with
  | .text text => .ok (f.finds ctx.dialect ctx.caseSensitive c.operator.placement text)
  | _ => f.mismatch c

/-- The value a relative time compares the field with. -/
def boundary (f : ResolvedField) (ctx : Context) (instant : Instant) : Except Error Value :=
  if f.type = .dateonly then (Error.orStop (ctx.zone.localDay? instant)).map .day
  else .ok (.instant instant)

/-- That the field is before or after the instant some hours ago. -/
def hoursFormula (f : ResolvedField) (ctx : Context) (comparison : Sql.Comparison) (c : Condition) :
    Except Error Formula :=
  match c.operand with
  | .hours count =>
      match ctx.now.hoursBefore? count with
      | some instant => (f.boundary ctx instant).map (f.compares comparison)
      | none => .error (.request (.conditionOutOfRange c.raw))
  | _ => f.mismatch c

/-- The formula of a condition whose operator the field supports. -/
def formula (f : ResolvedField) (ctx : Context) (c : Condition) : Except Error Formula :=
  match c.operator with
  | .equals => f.equalityFormula ctx.dialect .equal c
  | .notEquals => f.equalityFormula ctx.dialect .notEqual c
  | .greaterThan => f.orderFormula .greater c
  | .lessThan => f.orderFormula .less c
  | .contains | .startsWith | .endsWith => f.textFormula ctx c
  | .notContains =>
      (f.textFormula ctx c).map fun found => .or (.not found) (.isNull f.ref)
  | .isNull => .ok (.isNull f.ref)
  | .isNotNull => .ok (.isNotNull f.ref)
  | .isTrue => .ok (f.compares .equal (.bool true))
  | .isFalse => .ok (f.compares .equal (.bool false))
  | .isNotTrue => .ok (f.compares .notEqual (.bool true))
  | .isNotFalse => .ok (f.compares .notEqual (.bool false))
  | .isPresent => .ok (.and (.isNotNull f.ref) (f.compares .notEqual (.text "")))
  | .isBlank => .ok (.or (.isNull f.ref) (f.compares .equal (.text "")))
  | .hoursBefore => f.hoursFormula ctx .less c
  | .hoursAfter => f.hoursFormula ctx .greater c

/-- A condition on the field with a formula for it. -/
def predicate (f : ResolvedField) (c : Condition) (formula : Formula) : Predicate :=
  ⟨f.path, f.associationName, c, formula⟩

/-- The compiled condition. -/
def compile (f : ResolvedField) (ctx : Context) (c : Condition) : Except Error Predicate :=
  if c.operator.supports f.type then
    match f.formula ctx c with
    | .error e => .error e
    | .ok formula => .ok (f.predicate c formula)
  else .error (.unsupportedOperator f.path c.raw c.operator f.type)

end ResolvedField

namespace Context

/-- A condition on the field of a path, compiled. -/
def compile (ctx : Context) (path : String) (c : Condition) : Except Error Predicate := do
  let field ← ctx.resolve path
  field.compile ctx c

/-- A filter value on the field of a path, read and compiled. -/
def compileRaw (ctx : Context) (path raw : String) : Except Error Predicate := do
  let field ← ctx.resolve path
  let condition ← Condition.parse path raw field.type
  field.compile ctx condition

/-- That the field of a path equals a text which is not read by the grammar. -/
def compileEquals (ctx : Context) (path value : String) : Except Error Predicate := do
  let field ← ctx.resolve path
  let condition ← Condition.equals path value field.type
  field.compile ctx condition

end Context

end Backoffice
