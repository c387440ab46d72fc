import Backoffice.KeyMap
import Backoffice.Schema.Collection

/-!
# The registry

The collections of an application under their names.  `Registry.build` checks
the declarations one after the other, each for

* columns that were configured without being declared,
* a primary key,
* search fields that are fields and that a search can look at,
* a name of its own,

and then, in the order of the collection names, that every association refers to
a single key column through a foreign key that is a field.  The first fault found
is the answer.
-/

namespace Backoffice

/-- The collections under their names. -/
structure Registry where
  collections : KeyMap Collection

namespace Registry

/-- The collection of a name. -/
def collection (r : Registry) (name : String) : Except Error Collection :=
  match r.collections.find? name with
  | some collection => .ok collection
  | none => .error (.unknownCollection name)

/-- The collections in the order of their names. -/
def toList (r : Registry) : List Collection := r.collections.values

/-! ## One declaration -/

/-- The fault of a chosen search field. -/
def searchFieldFault (c : Collection) (name : String) : Option RegistryFault :=
  match c.field? name with
  | none => some (.searchFieldMissing c.name name)
  | some field =>
      if field.type.isSearchable then none else some (.searchFieldType c.name name field.type)

/-- The first fault of a declaration that shows without the others. -/
def declarationFault (d : Declaration) : Option RegistryFault :=
  match d.undeclared with
  | field :: _ => some (.undeclaredColumn d.name field)
  | [] =>
      let collection := d.toCollection
      if collection.primaryKeys.isEmpty then some (.noPrimaryKey d.name)
      else (collection.searchFields.getD []).findSome? (searchFieldFault collection)

/-- The collections with the one of a declaration added. -/
def declare (collections : KeyMap Collection) (d : Declaration) :
    Except RegistryFault (KeyMap Collection) :=
  match declarationFault d with
  | some fault => .error fault
  | none =>
      if collections.contains d.name then .error (.declaredTwice d.name)
      else .ok (collections.insert d.name d.toCollection)

/-! ## Associations -/

/-- The fault of an association of a collection. -/
def associationFault (collections : KeyMap Collection) (c : Collection) (a : Association) :
    Option RegistryFault :=
  match collections.find? a.target with
  | none => some (.targetMissing c.name a.name a.target)
  | some target =>
      let (owner, referenced) := match a.kind with
        | .belongsTo => (c, target)
        | .hasOne | .hasMany => (target, c)
      if referenced.isComposite then some (.compositeReference c.name a.name referenced.name)
      else if (owner.fieldByColumn? a.foreignKey).isNone then
        some (.foreignKeyMissing c.name a.name owner.name a.foreignKey)
      else none

/-- The first fault of the associations of a collection. -/
def collectionFault (collections : KeyMap Collection) (c : Collection) : Option RegistryFault :=
  c.associations.findSome? (associationFault collections c)

/-! ## The whole registry -/

/-- The collections of a list of declarations. -/
def declareAll : KeyMap Collection → List Declaration → Except RegistryFault (KeyMap Collection)
  | collections, [] => .ok collections
  | collections, d :: rest =>
      match declare collections d with
      | .error fault => .error fault
      | .ok collections => declareAll collections rest

/-- The registry of a list of declarations. -/
def build (declarations : List Declaration) : Except Error Registry :=
  match declareAll .empty declarations with
  | .error fault => .error (.registry fault)
  | .ok collections =>
      match collections.values.findSome? (collectionFault collections) with
      | some fault => .error (.registry fault)
      | none => .ok ⟨collections⟩

end Registry

end Backoffice
