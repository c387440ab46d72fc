import Backoffice.Listing.Params

/-!
# Requested fields

The fields that a list gives: those of the collection, and those of the
associated records that the request asks for by the name of their association.
The fields of the key are always given.  Names of no field are passed over.
-/

namespace Backoffice

/-- The fields of one table that a statement gives. -/
structure Projection where
  /-- The name of the table in the statement. -/
  table : String
  /-- The association, unless the fields are those of the collection. -/
  association : Option String
  fields : List Field

namespace Projection

/-- The name under which a field is given. -/
def outputName (p : Projection) (field : Field) : String :=
  match p.association with
  | some association => FieldPath.through association field.name
  | none => field.name

/-- The outputs of a statement. -/
def outputs (p : Projection) : List (Sql.Output × String) :=
  p.fields.map fun field => (.column ⟨p.table, field.column⟩, p.outputName field)

/-- All fields of a collection. -/
def ofCollection (c : Collection) : Projection := ⟨c.table, none, c.fields⟩

end Projection

/-- The fields of a collection that are part of the key or asked for. -/
def Collection.pick (c : Collection) (names : List String) : List Field :=
  c.fields.filter fun field => field.isPrimaryKey || names.contains field.name

namespace Context

/-- The requested fields of the collection. -/
def ownProjection (ctx : Context) (params : ListParams) : Projection :=
  let fields := match params.fieldsFor ctx.collection.name with
    | some names => ctx.collection.pick names
    | none => ctx.collection.fields
  ⟨ctx.collection.table, none, fields⟩

/-- The requested fields of an associated record, if there are any. -/
def associationProjection? (ctx : Context) (params : ListParams) (a : Association) :
    Except Error (Option Projection) :=
  match params.fieldsFor a.name with
  | none => .ok none
  | some names =>
      (ctx.registry.collection a.target).map fun target =>
        some ⟨a.name, some a.name, target.pick names⟩

/-- The requested fields, first those of the collection. -/
def projections (ctx : Context) (params : ListParams) : Except Error (List Projection) := do
  let associated ← ctx.collection.toOneAssociations.mapM (ctx.associationProjection? params)
  return ctx.ownProjection params :: associated.filterMap id

end Context

end Backoffice
