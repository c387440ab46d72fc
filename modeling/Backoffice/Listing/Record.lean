import Backoffice.Json.Text
import Backoffice.Schema.Collection
import Backoffice.Storage.Row
import Backoffice.Text.Pieces

/-!
# Records

A row becomes a record: the columns with a point in their alias go into an object
under the part before the first point, and an object of nothing but nulls becomes
null, as it comes from a join that found no record.  A collection whose key has
several columns gets a composite id, the key values joined by hyphens.
-/

namespace Backoffice

namespace Record

/-- A record while its columns are laid out, with the names that got objects. -/
structure Layout where
  /-- The members so far. -/
  members : KeyMap Json := .empty
  /-- The parts before the points. -/
  nested : List String := []

/-- The members with a field added to an object.  A value that is no object stays. -/
def addNested (members : KeyMap Json) (name field : String) (value : Json) : KeyMap Json :=
  match members.find? name with
  | none => members.insert name (.object [(field, value)])
  | some (.members entries) => members.insert name (.members (KeyMap.insertIn field value entries))
  | some _ => members

/-- The layout with one more column. -/
def Layout.add (l : Layout) (column : String × Json) : Layout :=
  match Text.splitFirst '.' column.1.toList with
  | some (name, field) =>
      let name := String.ofList name
      { members := addNested l.members name (String.ofList field) column.2
        nested := l.nested ++ [name] }
  | none => { l with members := l.members.insert column.1 column.2 }

/-- Whether a value is an object of nothing but nulls. -/
def isUnmatched : Json → Bool
  | .members entries => entries.all fun entry => entry.2.isNull
  | _ => false

/-- The members with null in place of an object of nothing but nulls. -/
def collapse (members : KeyMap Json) (name : String) : KeyMap Json :=
  if ((members.find? name).map isUnmatched).getD false then members.insert name .null else members

/-- The members of a record, without its composite id. -/
def shape (columns : KeyMap Json) : KeyMap Json :=
  let layout := columns.entries.foldl Layout.add {}
  layout.nested.foldl collapse layout.members

/-- A key value as part of a composite id: a text as it is, anything else as JSON,
and nothing for a missing one. -/
def idPart : Option Json → String
  | some (.text s) => s
  | some value => value.compactString
  | none => ""

/-- The composite id of the key values. -/
def compositeId (keys : List String) (members : KeyMap Json) : String :=
  String.intercalate (String.singleton compositeIdSeparator)
    (keys.map fun key => idPart (members.find? key))

end Record

/-- The record of a row of the collection. -/
def Collection.record (c : Collection) (columns : KeyMap Json) : KeyMap Json :=
  let members := Record.shape columns
  if c.isComposite then
    members.insert compositeIdField (.text (Record.compositeId c.primaryKeys members))
  else members

end Backoffice
