import Backoffice.Calendar.Zone
import Backoffice.Filter.Path
import Backoffice.Schema.Registry
import Backoffice.Sql.Formula

/-!
# The context of a request

What the parts of a request are read against: the registry, the collection at
hand, the dialect of the database, the time zone, the present instant, and
whether wildcards tell upper from lower case.  `Context.resolve` finds the field a
path means.

A statement names the table of the collection by its own name and the record an
association reaches by the name of the association.
-/

namespace Backoffice

/-- What a request is read against. -/
structure Context where
  /-- The collections. -/
  registry : Registry
  /-- The collection at hand. -/
  collection : Collection
  /-- The language of the database. -/
  dialect : Sql.Dialect
  /-- The time zone of relative days. -/
  zone : Zone
  /-- The instant that relative times count from. -/
  now : Instant
  /-- Whether `*x*`, `x*` and `*x` tell upper from lower case. -/
  caseSensitive : Bool

/-- The field a path means. -/
structure ResolvedField where
  path : String
  /-- The association on the path. -/
  association : Option Association
  /-- The name a statement gives to the table of the field. -/
  table : String
  field : Field

namespace ResolvedField

/-- The semantic type. -/
def type (f : ResolvedField) : SemanticType := f.field.type

/-- The name of the association on the path. -/
def associationName (f : ResolvedField) : Option String := f.association.map (·.name)

/-- The column in a statement. -/
def ref (f : ResolvedField) : Sql.ColumnRef := ⟨f.table, f.field.column⟩

/-- The column as a text.  In `postgres` only texts compare with texts, so an
enum or a UUID is cast there. -/
def textSubject (f : ResolvedField) (d : Sql.Dialect) : Sql.Subject :=
  if d = .postgres ∧ (f.type = .enum ∨ f.type = .uuid) then .castToText f.ref else .column f.ref

end ResolvedField

namespace Context

/-- The field of the collection that a path without association means. -/
def resolveOwn (ctx : Context) (path field : String) : Except Error ResolvedField :=
  match ctx.collection.field field with
  | .error e => .error e
  | .ok found => .ok ⟨path, none, ctx.collection.table, found⟩

/-- The field that a path through an association means. -/
def resolveThrough (ctx : Context) (path name field : String) : Except Error ResolvedField := do
  let association ← ctx.collection.association name
  if !association.isToOne then
    .error (.request (.hasManyPath ctx.collection.name name))
  else
    let target ← ctx.registry.collection association.target
    let found ← target.field field
    return ⟨path, some association, association.name, found⟩

/-- The field a path means. -/
def resolve (ctx : Context) (path : String) : Except Error ResolvedField :=
  match FieldPath.parse path with
  | .error e => .error e
  | .ok ⟨none, field⟩ => ctx.resolveOwn path field
  | .ok ⟨some name, field⟩ => ctx.resolveThrough path name field

end Context

end Backoffice
