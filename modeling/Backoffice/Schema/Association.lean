import Backoffice.Error

/-!
# Associations

A named link from the records of one collection to the records of another.  The
foreign key is a column of this collection when its records belong to a record of
the target, and a column of the target otherwise.
-/

namespace Backoffice

/-- On which side the foreign key is, and how many records it reaches. -/
inductive AssociationKind where
  /-- The foreign key is a column of this collection. -/
  | belongsTo
  /-- The foreign key is a column of the target, and at most one record has it. -/
  | hasOne
  /-- The foreign key is a column of the target. -/
  | hasMany
deriving DecidableEq, Repr

/-- A link to another collection. -/
structure Association where
  name : String
  /-- The name of the other collection. -/
  target : String
  /-- Which side holds the foreign key. -/
  kind : AssociationKind
  /-- The foreign key, as a database column. -/
  foreignKey : String
deriving DecidableEq, Repr

/-- Whether an association reaches at most one record. -/
def Association.isToOne (a : Association) : Bool := a.kind ≠ .hasMany

/-! ## Relations -/

/-- A relation between two tables as a table definition states it. -/
structure Relation where
  /-- Whether this side owns the records of the other. -/
  isOwner : Bool
  /-- Whether it owns many of them. -/
  many : Bool
  /-- The columns on this side. -/
  ownColumns : List String
  /-- The columns on the other side. -/
  otherColumns : List String
deriving DecidableEq, Repr

namespace Relation

/-- The columns that refer to the other table: those of the owned side. -/
def referringColumns (r : Relation) : List String :=
  if r.isOwner then r.otherColumns else r.ownColumns

/-- The kind of association. -/
def kind (r : Relation) : AssociationKind :=
  if r.isOwner then (if r.many then .hasMany else .hasOne) else .belongsTo

/-- The association a relation stands for.  Its foreign key is a single column. -/
def toAssociation (r : Relation) (name target : String) : Except Error Association :=
  match r.referringColumns with
  | [foreignKey] => .ok ⟨name, target, r.kind, foreignKey⟩
  | _ => .error (.registry (.compositeForeignKey name))

end Relation

end Backoffice
