import Backoffice.Json
import Backoffice.Number.Text
import Backoffice.Uuid

/-!
# JSON from text

`Json.ofText?` reads the value a text stands for, with blanks allowed between its
parts.  Of a name that an object repeats the last value stays.

A number without point and power is an integer when it has 64 bits with or
without sign.  Every other number is the nearest double, and so is `-0`, since
only doubles tell it from `0`.

A character may be written by its code point in one unit of sixteen bits, or in
two when one does not hold it.  The halves of such a pair stand for nothing alone.

Every reader takes the text still to read and gives back what it leaves.  The
readers of values count down a number of steps; a text needs at most two for each
of its characters.
-/

namespace Backoffice.Json

/-- Whether a character may stand between the parts of a value. -/
def isGap (c : Char) : Bool := c = ' ' || c = '\n' || c = '\r' || c = '\t'

/-- A text without the gap it starts with. -/
def skipGap (cs : List Char) : List Char := cs.dropWhile isGap

/-! ## Strings -/

/-- The unit that four hexadecimal digits stand for. -/
def unitOfDigits (digits : List Char) : Option Nat :=
  (digits.mapM Nibble.ofChar?).map fun nibbles => nibbles.foldl (fun n d => 16 * n + d.val) 0

/-- The character that a letter after a backslash stands for. -/
def namedEscapes : List (Char × Char) :=
  [('"', '"'), ('\\', '\\'), ('/', '/'), ('b', '\x08'), ('f', '\x0c'), ('n', '\n'), ('r', '\r'),
   ('t', '\t')]

/-- The code points and halves of code points up to the closing quote. -/
def parseUnits : List Char → Option (List Nat × List Char)
  | [] => none
  | '"' :: rest => some ([], rest)
  | '\\' :: 'u' :: a :: b :: c :: d :: rest => do
      let unit ← unitOfDigits [a, b, c, d]
      let (units, rest) ← parseUnits rest
      return (unit :: units, rest)
  | '\\' :: letter :: rest => do
      let c ← namedEscapes.lookup letter
      let (units, rest) ← parseUnits rest
      return (c.toNat :: units, rest)
  | c :: rest =>
      if c.toNat < 0x20 ∨ c = '\\' then none
      else (parseUnits rest).map fun (units, rest) => (c.toNat :: units, rest)

/-- Whether a unit is the first half of a code point. -/
def isFirstHalf (unit : Nat) : Bool := 0xD800 ≤ unit && unit < 0xDC00

/-- Whether a unit is the second half of a code point. -/
def isSecondHalf (unit : Nat) : Bool := 0xDC00 ≤ unit && unit < 0xE000

/-- The characters of code points and of pairs of halves. -/
def charsOfUnits : List Nat → Option (List Char)
  | [] => some []
  | first :: second :: rest =>
      if isFirstHalf first ∧ isSecondHalf second then
        (charsOfUnits rest).map
          (Char.ofNat (0x10000 + (first - 0xD800) * 0x400 + (second - 0xDC00)) :: ·)
      else if isFirstHalf first ∨ isSecondHalf first then none
      else (charsOfUnits (second :: rest)).map (Char.ofNat first :: ·)
  | [last] => if isFirstHalf last ∨ isSecondHalf last then none else some [Char.ofNat last]

/-- A string without its opening quote. -/
def parseString (cs : List Char) : Option (String × List Char) := do
  let (units, rest) ← parseUnits cs
  let chars ← charsOfUnits units
  return (String.ofList chars, rest)

/-! ## Numbers -/

/-- Whether a character may stand in a number. -/
def isNumberChar (c : Char) : Bool :=
  Text.isDigit c || c = '-' || c = '+' || c = '.' || c = 'e' || c = 'E'

/-- Whether an integer has 64 bits with or without sign. -/
def isWord (n : Int) : Bool := Text.isInt64 n || (0 ≤ n && n < Text.word64)

/-- The integer of a numeral, if it is one. -/
def integerOf? (numeral : List Char) : Option Int :=
  if numeral = ['-', '0'] then none else (Text.integer? numeral).filter isWord

/-- A number. -/
def parseNumber (cs : List Char) : Option (Json × List Char) :=
  let numeral := cs.takeWhile isNumberChar
  let number := match integerOf? numeral with
    | some n => some (int n)
    | none => (Double.read? numeral).map double
  number.map fun number => (number, cs.drop numeral.length)

/-! ## Values -/

/-- The name of a member and the colon after it. -/
def parseName (cs : List Char) : Option (String × List Char) :=
  match skipGap cs with
  | '"' :: rest =>
      match parseString rest with
      | none => none
      | some (name, rest) =>
          match skipGap rest with
          | ':' :: rest => some (name, rest)
          | _ => none
  | _ => none

mutual

/-- A value. -/
def parseValue : (steps : Nat) → List Char → Option (Json × List Char)
  | 0, _ => none
  | steps + 1, cs =>
      match skipGap cs with
      | 'n' :: 'u' :: 'l' :: 'l' :: rest => some (null, rest)
      | 't' :: 'r' :: 'u' :: 'e' :: rest => some (bool true, rest)
      | 'f' :: 'a' :: 'l' :: 's' :: 'e' :: rest => some (bool false, rest)
      | '"' :: rest => (parseString rest).map fun (s, rest) => (text s, rest)
      | '[' :: rest =>
          match skipGap rest with
          | ']' :: rest => some (list [], rest)
          | rest => (parseItems steps rest).map fun (items, rest) => (list items, rest)
      | '\x7b' :: rest =>
          match skipGap rest with
          | '\x7d' :: rest => some (object [], rest)
          | rest => (parseMembers steps rest).map fun (entries, rest) => (object entries, rest)
      | rest => parseNumber rest

/-- The items of a list up to its closing bracket. -/
def parseItems : (steps : Nat) → List Char → Option (List Json × List Char)
  | 0, _ => none
  | steps + 1, cs =>
      match parseValue steps cs with
      | none => none
      | some (item, rest) =>
          match skipGap rest with
          | ']' :: rest => some ([item], rest)
          | ',' :: rest =>
              (parseItems steps rest).map fun (items, rest) => (item :: items, rest)
          | _ => none

/-- The members of an object up to its closing brace. -/
def parseMembers : (steps : Nat) → List Char → Option (List (String × Json) × List Char)
  | 0, _ => none
  | steps + 1, cs =>
      match parseName cs with
      | none => none
      | some (name, rest) =>
          match parseValue steps rest with
          | none => none
          | some (value, rest) =>
              match skipGap rest with
              | '\x7d' :: rest => some ([(name, value)], rest)
              | ',' :: rest =>
                  (parseMembers steps rest).map fun (entries, rest) =>
                    ((name, value) :: entries, rest)
              | _ => none

end

/-- The value that a text stands for. -/
def ofText? (s : String) : Option Json :=
  let cs := s.toList
  match parseValue (2 * cs.length + 1) cs with
  | some (value, rest) => if skipGap rest = [] then some value else none
  | none => none

end Backoffice.Json
