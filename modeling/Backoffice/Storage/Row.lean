import Backoffice.Calendar.Reading
import Backoffice.Error
import Backoffice.Json.Text
import Backoffice.Sql.Value

/-!
# Rows

What the storage gives for one row: under every alias a cell, with the type of
its column and a value unless it is null.  A missing cell reads as a null one
where null is allowed.

Cells are read in two ways.

* A record shows each cell as JSON (`Cell.toJson`).  A cell of a day is given as its
  literal in a statement, a day between apostrophes and a missing one as the word
  for null.  So it is always a text, and never `null`.
* A statistic reads the values as a table keeps them (`Cell.stored`).  Truth values
  are the integers 0 and 1, zero has no sign, and JSON is a text.
-/

namespace Backoffice

/-- A value of a column of a type, or null. -/
inductive Cell where
  | bool (value : Option Bool)
  | int (value : Option Int)
  | bigInt (value : Option Int)
  | bigUnsigned (value : Option Nat)
  | double (value : Option Double)
  | text (value : Option String)
  | json (value : Option Json)
  | day (value : Option Day)

/-- The JSON of a double.  Only finite doubles have one. -/
def Json.ofDouble (x : Double) : Json := if x.isFinite then .double x else .null

/-- The JSON of a day, which may be missing: its literal. -/
def Json.ofDay (d : Option Day) : Json :=
  .text (String.ofList ((d.map Sql.dayLiteral).getD Sql.nullLiteral))

/-- The JSON of a cell. -/
def Cell.toJson : Cell → Json
  | bool value => .orNull Json.bool value
  | int value => .orNull Json.int value
  | bigInt value => .orNull Json.int value
  | bigUnsigned value => .orNull Json.nat value
  | double value => .orNull Json.ofDouble value
  | text value => .orNull Json.text value
  | json value => value.getD .null
  | day value => .ofDay value

/-- A value as a table keeps it. -/
inductive StoredValue where
  | integer (value : Int)
  | real (value : Double)
  | text (value : String)
  | day (value : Day)
deriving DecidableEq, Repr

/-- What a table keeps of a cell, unless it is null. -/
def Cell.stored : Cell → Option StoredValue
  | bool value => value.map fun b => .integer b.toInt
  | int value => value.map .integer
  | bigInt value => value.map .integer
  | bigUnsigned value => value.map fun n => .integer n
  | double value => value.map fun x => .real x.unsignedZero
  | text value => value.map .text
  | json value => value.map fun j => .text j.compactString
  | day value => value.map .day

/-- A row, by alias. -/
abbrev Row := KeyMap Cell

namespace Row

/-- The JSON of every cell. -/
def toJson (row : Row) : KeyMap Json := row.mapValues Cell.toJson

/-- The value that a table keeps under an alias, unless it is null or missing. -/
def stored? (row : Row) (name : String) : Option StoredValue :=
  (row.find? name).bind Cell.stored

/-- The fault of a cell that does not hold what it should. -/
def unreadable {α : Type} (name : String) : Except Error α :=
  .error (.storage (.unreadable name))

/-- A count.  Its cell must be there and hold a big integer. -/
def count (row : Row) (name : String) : Except Error Nat :=
  match row.find? name with
  | some (.bigInt (some n)) => .ok n.toNat
  | _ => unreadable name

/-- A figure: an integer, a double, or nothing. -/
def figure (row : Row) (name : String) : Except Error Json :=
  match row.stored? name with
  | none => .ok .null
  | some (.integer n) => .ok (.int n)
  | some (.real x) => .ok (.ofDouble x)
  | some _ => unreadable name

/-- A whole number, or nothing. -/
def integer (row : Row) (name : String) : Except Error (Option Int) :=
  match row.stored? name with
  | none => .ok none
  | some (.integer n) => .ok (some n)
  | some _ => unreadable name

/-- A day, or nothing.  A text that reads as a day is one. -/
def day (row : Row) (name : String) : Except Error (Option Day) :=
  match row.stored? name with
  | none => .ok none
  | some (.day d) => .ok (some d)
  | some (.text s) => ((Day.read? s.toList).map fun d => .ok (some d)).getD (unreadable name)
  | some _ => unreadable name

end Row

end Backoffice
