import Backoffice.Calendar.Writing
import Backoffice.Number.Text
import Backoffice.Uuid

/-!
# Values and dialects of SQL

The values a statement carries, and how each dialect writes a value, a string and
an identifier.  A value written as a literal and a value bound to a placeholder
are the same value; only `Dialect.literal` knows the literal form.
-/

namespace Backoffice.Sql

open Text (signedDigits digits)

/-- The language of a database. -/
inductive Dialect where
  | sqlite
  | postgres
  | mysql
deriving DecidableEq, Repr, Inhabited

/-- A value in a statement. -/
inductive Value where
  | bool (value : Bool)
  | bigInt (value : Int)
  | bigUnsigned (value : Nat)
  | double (value : Double)
  | text (value : String)
  | uuid (value : Uuid)
  | day (value : Day)
  | instant (value : Instant)
deriving DecidableEq, Repr

/-! ## Literals -/

/-- A character of a string in a dialect with backslash escapes. -/
def backslashed (c : Char) : List Char :=
  if c = '\\' ∨ c = '"' ∨ c = '\'' then ['\\', c]
  else if c = '\x00' then ['\\', '0']
  else if c = '\x08' then ['\\', 'b']
  else if c = '\t' then ['\\', 't']
  else if c = '\x1a' then ['\\', 'z']
  else if c = '\n' then ['\\', 'n']
  else if c = '\r' then ['\\', 'r']
  else [c]

/-- A text between two quotes, the quote inside it written twice. -/
def doubled (quote : Char) (cs : List Char) : List Char :=
  quote :: (cs.flatMap fun c => if c = quote then [c, c] else [c]) ++ [quote]

/-- A text between apostrophes as it stands. -/
def apostrophed (cs : List Char) : List Char := '\'' :: cs ++ ['\'']

/-- The literal of a string.  A backslash changes the opening in `postgres`. -/
def Dialect.stringLiteral (d : Dialect) (cs : List Char) : List Char :=
  match d with
  | .sqlite => doubled '\'' cs
  | .mysql => apostrophed (cs.flatMap backslashed)
  | .postgres =>
      let escaped := cs.flatMap backslashed
      if escaped.contains '\\' then 'E' :: apostrophed escaped else apostrophed escaped

/-- The literal of an instant: day and clock to the microsecond, in UTC. -/
def instantLiteral (t : Instant) : List Char :=
  apostrophed (t.text ' ' 6 ++ [' ', '+', '0', '0', ':', '0', '0'])

/-- The literal of the missing value. -/
def nullLiteral : List Char := ['N', 'U', 'L', 'L']

/-- The literal of a day. -/
def dayLiteral (d : Day) : List Char := apostrophed d.text

/-- The literal of a value. -/
def Dialect.literal (d : Dialect) : Value → List Char
  | .bool true => ['T', 'R', 'U', 'E']
  | .bool false => ['F', 'A', 'L', 'S', 'E']
  | .bigInt n => signedDigits n
  | .bigUnsigned n => digits n
  | .double x => x.plainText
  | .text s => d.stringLiteral s.toList
  | .uuid u => apostrophed u.text
  | .day day => dayLiteral day
  | .instant t => instantLiteral t

/-! ## Identifiers -/

/-- The quote around identifiers. -/
def Dialect.identifierQuote : Dialect → Char
  | .mysql => '\x60'
  | _ => '"'

/-- An identifier between quotes. -/
def Dialect.identifier (d : Dialect) (name : String) : List Char :=
  doubled d.identifierQuote name.toList

end Backoffice.Sql
