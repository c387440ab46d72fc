import Backoffice.Text.Pieces

/-!
# Universally unique identifiers

A `Uuid` is its 32 hexadecimal digits.  It is written in lower case, in groups of
8, 4, 4, 4 and 12 digits joined by hyphens.  It is read from that form, from the
bare digits, and from the grouped form inside braces or after `urn:uuid:`, all of
them in either letter case.
-/

namespace Backoffice

open Text (dropStart? dropEnd?)

/-- A hexadecimal digit, by its value. -/
abbrev Nibble := Fin 16

/-- The value of a hexadecimal digit in either letter case. -/
def Nibble.ofChar? (c : Char) : Option Nibble :=
  if '0' ≤ c ∧ c ≤ '9' then some (.ofNat 16 (c.toNat - '0'.toNat))
  else if 'a' ≤ c ∧ c ≤ 'f' then some (.ofNat 16 (c.toNat - 'a'.toNat + 10))
  else if 'A' ≤ c ∧ c ≤ 'F' then some (.ofNat 16 (c.toNat - 'A'.toNat + 10))
  else none

/-- The lower-case hexadecimal digit of a value. -/
def Nibble.toChar (n : Nibble) : Char :=
  ['0', '1', '2', '3', '4', '5', '6', '7', '8', '9', 'a', 'b', 'c', 'd', 'e', 'f'].getD n.val '0'

/-- Thirty-two hexadecimal digits. -/
structure Uuid where
  /-- The digits, from the first. -/
  nibbles : List Nibble
  /-- There are thirty-two. -/
  length_eq : nibbles.length = 32
deriving DecidableEq, Repr

namespace Uuid

/-- The identifier of a run of hexadecimal digits. -/
def ofDigits? (cs : List Char) : Option Uuid :=
  (cs.mapM Nibble.ofChar?).bind fun nibbles =>
    if h : nibbles.length = 32 then some ⟨nibbles, h⟩ else none

/-- The digits of the grouped form, whose hyphens stand at fixed places. -/
def ungroup? (cs : List Char) : Option (List Char) :=
  if cs.length = 36 ∧ cs[8]? = some '-' ∧ cs[13]? = some '-' ∧ cs[18]? = some '-' ∧
      cs[23]? = some '-' then
    some (cs.take 8 ++ (cs.drop 9).take 4 ++ (cs.drop 14).take 4 ++ (cs.drop 19).take 4 ++
      cs.drop 24)
  else none

/-- The grouped form inside braces. -/
def unbrace? (cs : List Char) : Option (List Char) :=
  (dropStart? ['\x7b'] cs).bind (dropEnd? ['\x7d'])

/-- What the grouped form may come after. -/
def scheme : List Char := ['u', 'r', 'n', ':', 'u', 'u', 'i', 'd', ':']

/-- The grouped form after `urn:uuid:`. -/
def dropScheme? (cs : List Char) : Option (List Char) :=
  if (cs.take scheme.length).map Char.toLower = scheme then some (cs.drop scheme.length) else none

/-- The identifier of a text in one of the four forms. -/
def read? (cs : List Char) : Option Uuid :=
  if cs.length = 32 then ofDigits? cs
  else
    let grouped :=
      if cs.length = 36 then some cs
      else if cs.length = 38 then unbrace? cs
      else dropScheme? cs
    (grouped.bind ungroup?).bind ofDigits?

/-- The lower-case grouped form. -/
def text (u : Uuid) : List Char :=
  let cs := u.nibbles.map Nibble.toChar
  cs.take 8 ++ '-' :: (cs.drop 8).take 4 ++ '-' :: (cs.drop 12).take 4 ++
    '-' :: (cs.drop 16).take 4 ++ '-' :: cs.drop 20

/-- `text` as a string. -/
def toString (u : Uuid) : String := String.ofList u.text

end Uuid

end Backoffice
