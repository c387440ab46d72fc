import Backoffice.Schema.Registry

/-!
# Descriptions for clients

A client learns the collections as JSON documents.  A field leaves out what is
usual: a database name equal to its own, no key, no requirement, no default, no
rules.  After the fields come the associations, as fields of the type of the
target's key: a list of it for many records, else a reference to the target's id.
-/

namespace Backoffice

/-- The document of a rule. -/
def Rule.document (r : Rule) : Json :=
  .objectOfSome
    [("type", some (.text r.kind.label)), ("value", r.value), ("message", r.message.map .text)]

/-- The value when a condition holds. -/
def presentIf {α : Type} (condition : Bool) (value : α) : Option α :=
  if condition then some value else none

/-- The document of a field. -/
def Field.document (f : Field) : Json :=
  .objectOfSome
    [("field", some (.text f.name)),
     ("type", some (.text f.type.name)),
     ("columnName", presentIf (f.column ≠ f.name) (.text f.column)),
     ("primaryKey", presentIf f.isPrimaryKey (.bool true)),
     ("enums", f.enumValues.map .texts),
     ("isRequired", presentIf f.isRequired (.bool true)),
     ("defaultValue", f.default.fixed?),
     ("validations", presentIf (!f.rules.isEmpty) (.list (f.rules.map Rule.document)))]

namespace Registry

/-- The type of the first key field of a collection, a number when there is none. -/
def keyType (r : Registry) (collection : String) : SemanticType :=
  match (r.collections.find? collection).bind (·.keyFields.head?) with
  | some key => key.type
  | none => .number

/-- The name of the field that identifies a record of a collection. -/
def idFieldOf (r : Registry) (collection : String) : String :=
  match r.collections.find? collection with
  | some target => target.idField
  | none => "id"

/-- The document of an association. -/
def associationDocument (r : Registry) (a : Association) : Json :=
  let keyType := Json.text (r.keyType a.target).name
  .objectOfSome
    [("field", some (.text a.name)),
     ("type", some (if a.isToOne then keyType else .list [keyType])),
     ("references", presentIf a.isToOne (.text s!"{a.target}.{r.idFieldOf a.target}"))]

/-- The documents of the fields and associations of a collection. -/
def fieldDocuments (r : Registry) (c : Collection) : List Json :=
  c.fields.map Field.document ++ c.associations.map r.associationDocument

/-- The document of a collection. -/
def document (r : Registry) (c : Collection) : Json :=
  .objectOfSome
    [("name", some (.text c.name)),
     ("idField", some (.text c.idField)),
     ("primaryKeys", some (.texts c.primaryKeys)),
     ("isCompositePrimary", some (.bool c.isComposite)),
     ("searchFields", c.searchFields.map .texts),
     ("fields", some (.list (r.fieldDocuments c)))]

/-- The documents of all collections, in the order of their names. -/
def documents (r : Registry) : List Json := r.toList.map r.document

end Registry

end Backoffice
