import Backoffice.Json
import Backoffice.Text.Numeral

/-!
# Reading JSON documents

Readers turn a JSON value into a value of another type, or refuse it.

A record document is an object, or a list with the values of the members in the
order in which the record declares them.  Unknown members are ignored.  A member
that may be missing has a default; a list may stop before such members, but it
must not be longer than the record.
-/

namespace Backoffice.Json

/-- What turns a JSON value into a value of another type. -/
abbrev Reader (α : Type) := Json → Option α

/-- A text. -/
def readText : Reader String
  | text s => some s
  | _ => none

/-- `true` or `false`. -/
def readBool : Reader Bool
  | bool b => some b
  | _ => none

/-- A whole number of 64 bits without sign. -/
def readWord : Reader Nat
  | int n => if 0 ≤ n ∧ n < Text.word64 then some n.natAbs else none
  | _ => none

/-- A whole number of 64 bits without sign, or a text of one. -/
def readWordOrText : Reader Nat
  | text s => Text.below? Text.word64 s.toList
  | value => readWord value

/-- `null`, or what another reader takes. -/
def readOptional {α : Type} (read : Reader α) : Reader (Option α)
  | null => some none
  | value => (read value).map some

/-- A list of what another reader takes. -/
def readList {α : Type} (read : Reader α) : Reader (List α)
  | list items => items.mapM read
  | _ => none

/-- An object whose members another reader takes. -/
def readMap {α : Type} (read : Reader α) : Reader (KeyMap α)
  | members entries =>
      (entries.mapM fun entry => (read entry.2).map fun value => (entry.1, value)).map KeyMap.ofList
  | _ => none

/-- One of a number of words, alone or as the only member of an object, the value
of which `isUnit` accepts. -/
def readWordOf {α : Type} (choices : List (String × α)) (isUnit : Json → Bool) : Reader α
  | text s => choices.lookup s
  | members [(name, value)] => if isUnit value then choices.lookup name else none
  | _ => none

/-! ## Records -/

/-- The value of each member of a record, where it is given. -/
def readRecord (names : List String) : Reader (List (Option Json))
  | members entries => some (names.map fun name => KeyMap.findIn name entries)
  | list items =>
      if items.length ≤ names.length then
        some (items.map some ++ List.replicate (names.length - items.length) none)
      else none
  | _ => none

/-- A member that may be missing. -/
def readOr {α : Type} (default : α) (read : Reader α) : Option Json → Option α
  | some value => read value
  | none => some default

/-- A member that must be given. -/
def readGiven {α : Type} (read : Reader α) (value : Option Json) : Option α := value.bind read

end Backoffice.Json
