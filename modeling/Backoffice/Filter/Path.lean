import Backoffice.Error
import Backoffice.Text.Pieces

/-!
# Field paths

A path names a field of the collection at hand, or after a point a field of the
record that an association reaches.  A path with a second point reaches too far.
-/

namespace Backoffice

/-- The name of a field, behind the name of an association if there is one. -/
structure FieldPath where
  association : Option String
  field : String
deriving DecidableEq, Repr

namespace FieldPath

/-- The path a text stands for. -/
def parse (path : String) : Except Error FieldPath :=
  match Text.pieces '.' path.toList with
  | (field, []) => .ok ⟨none, String.ofList field⟩
  | (association, [field]) => .ok ⟨some (String.ofList association), String.ofList field⟩
  | _ => .error (.unsupportedDepth path)

/-- The text of the path to a field of a record that an association reaches. -/
def through (association field : String) : String := s!"{association}.{field}"

end FieldPath

end Backoffice
