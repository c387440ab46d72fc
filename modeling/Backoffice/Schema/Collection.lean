import Backoffice.Schema.Association
import Backoffice.Schema.Field

/-!
# Collections

A `Declaration` is a collection as a host declares it, step by step.  A
`Collection` is what becomes of it: the fields of its columns in the order of
declaration, and the columns without a semantic type kept by name, so that a
request for one of them can be told apart from a request for nothing.

Where several fields or associations share a name, the first one is meant.
-/

namespace Backoffice

/-! ## Declarations -/

/-- A collection as it is declared. -/
structure Declaration where
  name : String
  table : String
  columns : List Column := []
  /-- The fields a search looks at, when they are chosen. -/
  searchFields : Option (List String) := none
  associations : List Association := []
  /-- The fields that were configured without being columns. -/
  undeclared : List String := []

namespace Declaration

/-- A collection with the columns of an entity. -/
def ofEntity (name : String) (entity : Entity) : Declaration :=
  { name, table := entity.table, columns := entity.toColumns }

/-- Columns with the first one that `found` accepts changed by `update`, when
there is one. -/
def updateFirst (found : Column → Bool) (update : Column → Column) :
    List Column → Option (List Column)
  | [] => none
  | column :: rest =>
      if found column then some (update column :: rest)
      else (updateFirst found update rest).map (column :: ·)

/-- With a column, in place of the column of the same field name if there is one. -/
def column (d : Declaration) (new : Column) : Declaration :=
  match updateFirst (·.field = new.field) (fun _ => new) d.columns with
  | some columns => { d with columns }
  | none => { d with columns := d.columns ++ [new] }

/-- With the column of a field changed.  A name without column is remembered. -/
def configure (d : Declaration) (field : String) (update : Column → Column) : Declaration :=
  match updateFirst (·.field = field) update d.columns with
  | some columns => { d with columns }
  | none => { d with undeclared := d.undeclared ++ [field] }

/-- With chosen search fields, in place of earlier ones. -/
def searchingIn (d : Declaration) (fields : List String) : Declaration :=
  { d with searchFields := some fields }

/-- With one more association. -/
def association (d : Declaration) (new : Association) : Declaration :=
  { d with associations := d.associations ++ [new] }

end Declaration

/-! ## Collections -/

/-- The id field of a collection whose key has several columns. -/
def compositeIdField : String := "compositeId"

/-- What joins the key values of a composite id. -/
def compositeIdSeparator : Char := '-'

/-- A set of records of one table. -/
structure Collection where
  name : String
  table : String
  /-- The fields, in the order of their columns. -/
  fields : List Field
  /-- The field names and types of the columns without semantic type. -/
  unsupported : List (String × String)
  /-- The field names of the key columns. -/
  primaryKeys : List String
  /-- The fields a search looks at, when they are chosen. -/
  searchFields : Option (List String)
  associations : List Association

/-- The collection of a declaration. -/
def Declaration.toCollection (d : Declaration) : Collection :=
  { name := d.name
    table := d.table
    fields := d.columns.filterMap Column.field?
    unsupported := d.columns.filterMap fun c =>
      if c.field?.isNone then some (c.field, c.type.nativeName) else none
    primaryKeys := (d.columns.filter (·.primaryKey)).map (·.field)
    searchFields := d.searchFields
    associations := d.associations }

namespace Collection

/-- The field of a name. -/
def field? (c : Collection) (name : String) : Option Field := c.fields.find? (·.name = name)

/-- The field of a database column. -/
def fieldByColumn? (c : Collection) (column : String) : Option Field :=
  c.fields.find? (·.column = column)

/-- The field of a name that a request may use. -/
def field (c : Collection) (name : String) : Except Error Field :=
  match c.field? name with
  | some field => .ok field
  | none =>
      match c.unsupported.find? (·.1 = name) with
      | some (field, native) => .error (.unsupportedFieldType c.name field native)
      | none => .error (.unknownField c.name name)

/-- The association of a name. -/
def association (c : Collection) (name : String) : Except Error Association :=
  match c.associations.find? (·.name = name) with
  | some association => .ok association
  | none => .error (.unknownAssociation c.name name)

/-- The associations that reach at most one record. -/
def toOneAssociations (c : Collection) : List Association := c.associations.filter (·.isToOne)

/-! ## Keys -/

/-- Whether the key has several columns. -/
def isComposite (c : Collection) : Bool := 1 < c.primaryKeys.length

/-- The name of the field that identifies a record. -/
def idField (c : Collection) : String :=
  match c.primaryKeys with
  | [single] => single
  | _ => compositeIdField

/-- The fields of the key. -/
def keyFields (c : Collection) : List Field := c.primaryKeys.filterMap c.field?

/-- The database column that alone identifies a record. -/
def keyColumn (c : Collection) : Except Error String :=
  match c.keyFields with
  | [key] => .ok key.column
  | _ => .error (.request (.keyNotSingle c.name))

/-! ## Search -/

/-- The fields a search looks at: the chosen ones, else all searchable ones. -/
def searchCandidates (c : Collection) : List Field :=
  match c.searchFields with
  | some names => names.filterMap c.field?
  | none => c.fields.filter (·.type.isSearchable)

end Collection

end Backoffice
