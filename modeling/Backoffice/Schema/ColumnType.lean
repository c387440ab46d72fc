import Backoffice.Schema.SemanticType

/-!
# Column types

The types a database gives to its columns.  Lengths and precisions are left out,
since no rule here depends on them.  `ColumnType.semantic` finds the semantic
type of a column type.  A type without one is `unsupported`, so one unusual
column does not keep its collection from being used.
-/

namespace Backoffice

/-- The type of a database column. -/
inductive ColumnType where
  | char
  | string
  | text
  | blob
  | tinyInteger
  | smallInteger
  | integer
  | bigInteger
  | tinyUnsigned
  | smallUnsigned
  | unsigned
  | bigUnsigned
  | float
  | double
  | decimal
  | money
  | dateTime
  | timestamp
  | timestampWithTimeZone
  | time
  | date
  | year
  | interval
  | binary
  | varBinary
  | bit
  | varBit
  | boolean
  | json
  | jsonBinary
  | uuid
  /-- A type only the database knows, by its name. -/
  | custom (name : String)
  /-- One of a list of values. -/
  | enum (values : List String)
  /-- A list of values of another type. -/
  | array
  | vector
  | cidr
  | inet
  | macAddr
  | lTree
deriving DecidableEq, Repr, Inhabited

namespace ColumnType

/-- The semantic type. -/
def semantic : ColumnType → SemanticType
  | enum _ => .enum
  | boolean => .boolean
  | tinyInteger | smallInteger | integer | bigInteger | tinyUnsigned | smallUnsigned | unsigned
  | bigUnsigned | float | double | decimal | money => .number
  | char | string | text => .string
  | dateTime | timestamp | timestampWithTimeZone => .date
  | date => .dateonly
  | uuid => .uuid
  | json | jsonBinary => .json
  | _ => .unsupported

/-- The name of the type. -/
def nativeName : ColumnType → String
  | char => "Char"
  | string => "String"
  | text => "Text"
  | blob => "Blob"
  | tinyInteger => "TinyInteger"
  | smallInteger => "SmallInteger"
  | integer => "Integer"
  | bigInteger => "BigInteger"
  | tinyUnsigned => "TinyUnsigned"
  | smallUnsigned => "SmallUnsigned"
  | unsigned => "Unsigned"
  | bigUnsigned => "BigUnsigned"
  | float => "Float"
  | double => "Double"
  | decimal => "Decimal"
  | money => "Money"
  | dateTime => "DateTime"
  | timestamp => "Timestamp"
  | timestampWithTimeZone => "TimestampWithTimeZone"
  | time => "Time"
  | date => "Date"
  | year => "Year"
  | interval => "Interval"
  | binary => "Binary"
  | varBinary => "VarBinary"
  | bit => "Bit"
  | varBit => "VarBit"
  | boolean => "Boolean"
  | json => "Json"
  | jsonBinary => "JsonBinary"
  | uuid => "Uuid"
  | custom name => s!"Custom({name})"
  | enum _ => "Enum"
  | array => "Array"
  | vector => "Vector"
  | cidr => "Cidr"
  | inet => "Inet"
  | macAddr => "MacAddr"
  | lTree => "LTree"

/-- The types that are known by their name alone. -/
def plain : List ColumnType :=
  [char, string, text, blob, tinyInteger, smallInteger, integer, bigInteger, tinyUnsigned,
   smallUnsigned, unsigned, bigUnsigned, float, double, decimal, money, dateTime, timestamp,
   timestampWithTimeZone, time, date, year, interval, binary, varBinary, bit, varBit, boolean, json,
   jsonBinary, uuid, array, vector, cidr, inet, macAddr, lTree]

/-- The type with a name, among those known by their name alone. -/
def ofName? (name : String) : Option ColumnType := plain.find? (·.nativeName = name)

/-- The values of an enum type. -/
def enumValues? : ColumnType → Option (List String)
  | enum values => some values
  | _ => none

end ColumnType

end Backoffice
