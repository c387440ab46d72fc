import Backoffice.Sql.Value

/-!
# Formulas

What a statement says of a row.  A formula compares a column with a value, tests
a column for null, or asks whether its text fits a pattern, and formulas
are joined by `and`, `or` and `not`.  How a formula is written is not part of it.
-/

namespace Backoffice.Sql

/-- A column of a table that a statement names. -/
structure ColumnRef where
  /-- The name the statement gives to the table. -/
  table : String
  column : String
deriving DecidableEq, Repr

/-- What a formula reads of a row. -/
inductive Subject where
  /-- The value of a column. -/
  | column (ref : ColumnRef)
  /-- The value of a column, cast to text. -/
  | castToText (ref : ColumnRef)
deriving DecidableEq, Repr

/-- The column a subject reads. -/
def Subject.ref : Subject → ColumnRef
  | column ref => ref
  | castToText ref => ref

/-- How two values are compared. -/
inductive Comparison where
  | equal
  | notEqual
  | greater
  | less
deriving DecidableEq, Repr

/-- How a text is held against a pattern. -/
inductive MatchStyle where
  /-- `LIKE` after both sides are put in upper case. -/
  | folded
  /-- `LIKE` where it tells upper from lower case. -/
  | exact
  /-- `LIKE` on bytes. -/
  | binary
  | glob
deriving DecidableEq, Repr

/-- What a statement says of a row. -/
inductive Formula where
  /-- True of every row. -/
  | always
  /-- True of no row. -/
  | never
  /-- A comparison with a value. -/
  | compare (comparison : Comparison) (subject : Subject) (value : Value)
  /-- The column is null. -/
  | isNull (ref : ColumnRef)
  /-- The column is not null. -/
  | isNotNull (ref : ColumnRef)
  /-- The text fits a pattern. -/
  | fits (style : MatchStyle) (subject : Subject) (pattern : String)
  | not (formula : Formula)
  | and (left right : Formula)
  | or (left right : Formula)
deriving DecidableEq, Repr

namespace Formula

/-- The conjunction of formulas, from the left.  There is nothing to say without any. -/
def all : List Formula → Formula
  | [] => always
  | first :: rest => rest.foldl and first

/-- The disjunction of formulas, from the left.  It is never true without any. -/
def any : List Formula → Formula
  | [] => never
  | first :: rest => rest.foldl or first

/-- The columns a formula reads, in the order in which it is written. -/
def columns : Formula → List ColumnRef
  | always | never => []
  | compare _ subject _ => [subject.ref]
  | isNull ref => [ref]
  | isNotNull ref => [ref]
  | fits _ subject _ => [subject.ref]
  | .not formula => formula.columns
  | .and left right => left.columns ++ right.columns
  | .or left right => left.columns ++ right.columns

end Formula

end Backoffice.Sql
