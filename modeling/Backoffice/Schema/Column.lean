import Backoffice.Json
import Backoffice.Schema.ColumnType

/-!
# Columns

What is known of a database column before anything is made of it: its two names,
its type, whether it may be null, whether it belongs to the key, where its value
comes from when a record has none, and the constraints declared on its values.
-/

namespace Backoffice

/-- The value of a column when a record is written without one. -/
inductive ColumnDefault where
  /-- The database computes it. -/
  | function (call : String)
  /-- It is always the same. -/
  | literal (value : Json)

/-- The argument of a constraint, and the words shown when the constraint fails. -/
structure Constraint (α : Type) where
  argument : α
  /-- The words. -/
  message : Option String := none

/-- A bound on the length of a text. -/
inductive LengthBound where
  | least (length : Nat)
  | between (least most : Nat)
deriving DecidableEq, Repr

/-- What a text has to look like. -/
inductive Pattern where
  | single (expression : String)
  /-- One of several expressions. -/
  | anyOf (expressions : List String)
deriving DecidableEq, Repr

/-- The constraints on the values of a column. -/
structure Constraints where
  /-- Values are greater. -/
  min : Option (Constraint Json) := none
  /-- Values are less. -/
  max : Option (Constraint Json) := none
  /-- Values are earlier. -/
  isBefore : Option (Constraint Json) := none
  /-- Values are later. -/
  isAfter : Option (Constraint Json) := none
  /-- Values have a length. -/
  length : Option (Constraint LengthBound) := none
  /-- Values contain a text. -/
  contains : Option (Constraint String) := none
  /-- Values look like a pattern. -/
  pattern : Option (Constraint Pattern) := none

/-- Whether no constraint is declared. -/
def Constraints.isEmpty (c : Constraints) : Bool :=
  c.min.isNone && c.max.isNone && c.isBefore.isNone && c.isAfter.isNone && c.length.isNone &&
    c.contains.isNone && c.pattern.isNone

/-- A database column. -/
structure Column where
  /-- The name clients use. -/
  field : String
  /-- The name in the database. -/
  column : String
  type : ColumnType
  /-- Whether values may be null. -/
  allowNull : Bool := true
  /-- Whether the column belongs to the primary key. -/
  primaryKey : Bool := false
  /-- Whether the database numbers the records by this column. -/
  autoGenerated : Bool := false
  /-- The value of a record written without one. -/
  default : Option ColumnDefault := none
  /-- The constraints on values. -/
  constraints : Constraints := {}

namespace Column

/-- A nullable column outside the key, with one name for clients and database. -/
def named (name : String) (type : ColumnType) : Column := { field := name, column := name, type }

/-- The column without null. -/
def notNull (c : Column) : Column := { c with allowNull := false }

/-- The column as part of the key, where null is not allowed. -/
def asPrimaryKey (c : Column) : Column := { c with primaryKey := true, allowNull := false }

/-- The column numbered by the database. -/
def asAutoGenerated (c : Column) : Column := { c with autoGenerated := true }

/-- The column under another name in the database. -/
def storedAs (c : Column) (column : String) : Column := { c with column }

/-- The column with a fixed default. -/
def withDefault (c : Column) (value : Json) : Column := { c with default := some (.literal value) }

/-- The column with a default the database computes. -/
def withDefaultCall (c : Column) (call : String) : Column :=
  { c with default := some (.function call) }

/-- The column with constraints. -/
def withConstraints (c : Column) (constraints : Constraints) : Column := { c with constraints }

/-- The values of an enum column. -/
def enumValues? (c : Column) : Option (List String) := c.type.enumValues?

end Column

/-! ## Entities -/

/-- A table as an entity definition describes it. -/
structure Entity where
  table : String
  /-- Name, type and nullability of each column. -/
  columns : List (String × ColumnType × Bool)
  /-- The names of the key columns. -/
  keys : List String
  /-- Whether the database numbers the records. -/
  autoIncrement : Bool

/-- The columns of an entity.  Key columns are never null, and only a key of a
single column is numbered by the database. -/
def Entity.toColumns (e : Entity) : List Column :=
  e.columns.map fun (name, type, nullable) =>
    let isKey := e.keys.contains name
    { field := name
      column := name
      type
      allowNull := nullable && !isKey
      primaryKey := isKey
      autoGenerated := isKey && e.keys.length == 1 && e.autoIncrement }

end Backoffice
