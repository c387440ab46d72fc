import Backoffice.Sql.Formula

/-!
# Select statements

A statement reads one table, joined on the left with others under names of their
own.  It keeps the rows its condition is true of, groups and orders them, and
gives some columns or figures under an alias each.
-/

namespace Backoffice.Sql

/-- A joined table.  A row is joined when the two columns are equal. -/
structure Join where
  table : String
  /-- Its name in the statement. -/
  knownAs : String
  /-- A column of the two tables. -/
  left : ColumnRef
  /-- The column of the other table that it equals. -/
  right : ColumnRef
deriving DecidableEq, Repr

/-- What a statement gives of a row or of a group of rows. -/
inductive Output where
  /-- The value of a column. -/
  | column (ref : ColumnRef)
  /-- The number of rows. -/
  | count
  /-- The sum of a column. -/
  | sum (ref : ColumnRef)
  /-- The quarter-hour slot of a column. -/
  | slot (ref : ColumnRef)
deriving DecidableEq, Repr

/-- The columns an output reads. -/
def Output.columns : Output → List ColumnRef
  | column ref => [ref]
  | count => []
  | sum ref => [ref]
  | slot ref => [ref]

/-- What rows are ordered by. -/
inductive SortKey where
  /-- Something computed from a row. -/
  | output (output : Output)
  /-- An output, by its alias. -/
  | named (name : String)
deriving DecidableEq, Repr

/-- The direction of an order. -/
inductive Direction where
  | ascending
  | descending
deriving DecidableEq, Repr

/-- A select statement. -/
structure Select where
  table : String
  /-- The joined tables. -/
  joins : List Join := []
  /-- What is given, each under an alias. -/
  outputs : List (Output × String) := []
  /-- What is true of the rows that are kept. -/
  condition : Option Formula := none
  /-- What the rows of a group have in common. -/
  groups : List Output := []
  /-- The order, by the first key and then by the next ones. -/
  order : List (SortKey × Direction) := []
  /-- How many rows are given at most. -/
  limit : Option Nat := none
  /-- How many rows are left out before them. -/
  offset : Option Nat := none
deriving DecidableEq, Repr

/-- The statement with one more condition. -/
def Select.restrict (s : Select) (formula : Formula) : Select :=
  { s with condition := some <| match s.condition with
      | some condition => .and condition formula
      | none => formula }

end Backoffice.Sql
