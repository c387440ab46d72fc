import Backoffice.KeyMap
import Backoffice.Number.Double

/-!
# JSON values

Request documents, column defaults, record cells and answers are JSON values.
A number is an integer or a double, and the two kinds stay apart.  The members of
an object stand in the order of their names, each name once: `Json.ofMap` builds
objects from maps, and `Json.object` from any list of members.
-/

namespace Backoffice

/-- A JSON value. -/
inductive Json where
  | null
  | bool (value : Bool)
  | int (value : Int)
  | double (value : Double)
  | text (value : String)
  | list (items : List Json)
  | members (entries : List (String × Json))

namespace Json

instance : Inhabited Json := ⟨null⟩

/-- The object with the entries of a map. -/
def ofMap (m : KeyMap Json) : Json := members m.entries

/-- The object with the given members.  The last value of a repeated name stays. -/
def object (entries : List (String × Json)) : Json := ofMap (KeyMap.ofList entries)

/-- The object with those of the given members that are present. -/
def objectOfSome (entries : List (String × Option Json)) : Json :=
  object (entries.filterMap fun (name, value) => value.map (name, ·))

/-- A natural number. -/
def nat (n : Nat) : Json := int n

/-- A list of texts. -/
def texts (items : List String) : Json := list (items.map text)

/-- What a function makes of a value, or `null` when there is none. -/
def orNull {α : Type} (toJson : α → Json) (value : Option α) : Json := (value.map toJson).getD null

/-- Whether a value is `null`. -/
def isNull : Json → Bool
  | null => true
  | _ => false

/-- Whether a value is an object. -/
def isObject : Json → Bool
  | members _ => true
  | _ => false

end Json

end Backoffice
