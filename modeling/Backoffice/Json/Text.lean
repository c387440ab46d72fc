import Backoffice.Json
import Backoffice.Number.Text

/-!
# The text of a JSON value

The compact form: no blank between the parts, members in the order of their
names.  In a string a quote, a backslash and the control characters are escaped,
the common ones by a letter and the others by four hexadecimal digits.  A double
always shows that it is one.
-/

namespace Backoffice.Json

/-- A lower-case hexadecimal digit. -/
def hexDigit (n : Nat) : Char :=
  if n < 10 then Char.ofNat ('0'.toNat + n) else Char.ofNat ('a'.toNat + (n - 10))

/-- A character as it stands inside a string. -/
def escapedChar (c : Char) : List Char :=
  if c = '"' then ['\\', '"']
  else if c = '\\' then ['\\', '\\']
  else if c = '\n' then ['\\', 'n']
  else if c = '\r' then ['\\', 'r']
  else if c = '\t' then ['\\', 't']
  else if c = '\x08' then ['\\', 'b']
  else if c = '\x0c' then ['\\', 'f']
  else if c.toNat < 0x20 then
    ['\\', 'u', '0', '0', hexDigit (c.toNat / 16), hexDigit (c.toNat % 16)]
  else [c]

/-- A string between quotes. -/
def quoted (s : String) : List Char := '"' :: (s.toList.flatMap escapedChar ++ ['"'])

/-- Parts joined by commas. -/
def commaJoined : List (List Char) → List Char
  | [] => []
  | [part] => part
  | part :: parts => part ++ ',' :: commaJoined parts

mutual

/-- The compact text of a value. -/
def compact : Json → List Char
  | null => ['n', 'u', 'l', 'l']
  | bool true => ['t', 'r', 'u', 'e']
  | bool false => ['f', 'a', 'l', 's', 'e']
  | int n => Text.signedDigits n
  | double x => x.markedText
  | text s => quoted s
  | list items => '[' :: (commaJoined (compactItems items) ++ [']'])
  | members entries => '\x7b' :: (commaJoined (compactMembers entries) ++ ['\x7d'])

/-- The texts of the items of a list. -/
def compactItems : List Json → List (List Char)
  | [] => []
  | item :: rest => compact item :: compactItems rest

/-- The texts of the members of an object, each after its name. -/
def compactMembers : List (String × Json) → List (List Char)
  | [] => []
  | (name, value) :: rest => (quoted name ++ ':' :: compact value) :: compactMembers rest

end

/-- `compact` as a string. -/
def compactString (value : Json) : String := String.ofList (compact value)

end Backoffice.Json
