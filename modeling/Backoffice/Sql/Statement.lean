import Backoffice.Sql.Pattern
import Backoffice.Sql.Select
import Backoffice.Sql.Slot

/-!
# Written statements

A statement or formula is written as a row of pieces: texts, and values between
them.  The pieces give two forms.

* Inlined, every value stands as a literal.
* As a `Statement`, a placeholder stands for every value, and the values go to
  the database apart, in the order of their placeholders.

So no value has a part in the text of a statement.

## Parentheses

Comparisons, tests for null and `LIKE` stand bare beside `AND`, `OR` and `NOT`.
The other ways to match and the formula that is never true stand in parentheses
there.  A chain of `AND` or of `OR` needs none when it goes on to the right; every
other `AND`, `OR` or `NOT` inside a formula has them.
-/

namespace Backoffice.Sql

/-- A part of a written statement. -/
inductive Piece where
  /-- Text of the statement. -/
  | text (chars : List Char)
  | value (value : Value)
deriving DecidableEq, Repr

/-- A statement with placeholders and the values that go with it. -/
structure Statement where
  /-- The text. -/
  sql : String
  /-- The values, in the order of their placeholders. -/
  values : List Value
deriving DecidableEq, Repr

namespace Piece

/-- A piece of text. -/
def word (s : String) : Piece := text s.toList

/-- Pieces between parentheses. -/
def parenthesized (pieces : List Piece) : List Piece := word "(" :: pieces ++ [word ")"]

/-- Rows of pieces with a separator between them. -/
def joined (separator : String) : List (List Piece) → List Piece
  | [] => []
  | [pieces] => pieces
  | pieces :: rest => pieces ++ word separator :: joined separator rest

/-- The text with every value as a literal. -/
def inlined (d : Dialect) (pieces : List Piece) : String :=
  String.ofList <| pieces.flatMap fun
    | text chars => chars
    | value v => d.literal v

/-- The placeholder of the value at a position, counted from 1. -/
def placeholder (d : Dialect) (position : Nat) : List Char :=
  match d with
  | .postgres => '$' :: Text.digits position
  | .sqlite | .mysql => ['?']

/-- The text with placeholders, numbered from a position on. -/
def withPlaceholders (d : Dialect) : (position : Nat) → List Piece → List Char
  | _, [] => []
  | position, text chars :: rest => chars ++ withPlaceholders d position rest
  | position, value _ :: rest => placeholder d position ++ withPlaceholders d (position + 1) rest

/-- The values among pieces. -/
def values (pieces : List Piece) : List Value :=
  pieces.filterMap fun
    | text _ => none
    | value v => some v

/-- The statement that pieces make up. -/
def statement (d : Dialect) (pieces : List Piece) : Statement :=
  ⟨String.ofList (withPlaceholders d 1 pieces), values pieces⟩

end Piece

open Piece (word parenthesized joined)

/-! ## Columns and formulas -/

/-- A column behind the name of its table. -/
def ColumnRef.text (d : Dialect) (ref : ColumnRef) : List Char :=
  d.identifier ref.table ++ '.' :: d.identifier ref.column

/-- A column behind the name of its table, as a piece. -/
def ColumnRef.piece (d : Dialect) (ref : ColumnRef) : Piece := .text (ref.text d)

/-- A written subject. -/
def Subject.pieces (d : Dialect) : Subject → List Piece
  | column ref => [ref.piece d]
  | castToText ref => [word "CAST(", ref.piece d, word " AS TEXT)"]

/-- The sign of a comparison. -/
def Comparison.sign : Comparison → String
  | equal => " = "
  | notEqual => " <> "
  | greater => " > "
  | less => " < "

/-- A written match. -/
def MatchStyle.pieces (style : MatchStyle) (subject : List Piece) (pattern : String) : List Piece :=
  let value := Piece.value (.text pattern)
  match style with
  | folded => word "UPPER(" :: subject ++ [word ") LIKE UPPER(", value, word ") ESCAPE '!'"]
  | exact => subject ++ [word " LIKE ", value, word " ESCAPE '!'"]
  | binary => subject ++ [word " LIKE BINARY ", value, word " ESCAPE '!'"]
  | glob => subject ++ [word " GLOB ", value]

namespace Formula

/-- Whether a formula needs no parentheses inside another. -/
def standsBare : Formula → Bool
  | always | compare .. | isNull _ | isNotNull _ => true
  | fits style _ _ => style = .exact
  | _ => false

/-- Whether a formula is a conjunction. -/
def isConjunction : Formula → Bool
  | .and _ _ => true
  | _ => false

/-- Whether a formula is a disjunction. -/
def isDisjunction : Formula → Bool
  | .or _ _ => true
  | _ => false

/-- Pieces with parentheses unless they stand bare. -/
def guarded (bare : Bool) (pieces : List Piece) : List Piece :=
  if bare then pieces else parenthesized pieces

/-- A written formula. -/
def pieces (d : Dialect) : Formula → List Piece
  | always => [word "TRUE"]
  | never => [word "1 = 0"]
  | compare comparison subject value =>
      subject.pieces d ++ [word comparison.sign, .value value]
  | isNull ref => [ref.piece d, word " IS NULL"]
  | isNotNull ref => [ref.piece d, word " IS NOT NULL"]
  | fits style subject pattern => style.pieces (subject.pieces d) pattern
  | .not formula => word "NOT " :: guarded formula.standsBare (formula.pieces d)
  | .and left right =>
      guarded (left.standsBare || left.isConjunction) (left.pieces d) ++
        word " AND " :: guarded right.standsBare (right.pieces d)
  | .or left right =>
      guarded (left.standsBare || left.isDisjunction) (left.pieces d) ++
        word " OR " :: guarded right.standsBare (right.pieces d)

end Formula

/-! ## Statements -/

/-- A written output.  Where the sum of a column is a decimal, it is made a double. -/
def Output.pieces (d : Dialect) : Output → List Piece
  | column ref => [ref.piece d]
  | count => [word "COUNT(*)"]
  | sum ref =>
      let total := [word "SUM(", ref.piece d, word ")"]
      match d with
      | .postgres => word "CAST(" :: total ++ [word " AS DOUBLE PRECISION)"]
      | .mysql => word "CAST(" :: total ++ [word " AS DOUBLE)"]
      | .sqlite => total
  | slot ref => [.text (d.slotText (ref.text d))]

/-- An identifier as a piece. -/
def Dialect.namePiece (d : Dialect) (name : String) : Piece := .text (d.identifier name)

/-- A written join. -/
def Join.pieces (d : Dialect) (j : Join) : List Piece :=
  [word " LEFT JOIN ", d.namePiece j.table, word " AS ", d.namePiece j.knownAs, word " ON ",
   j.left.piece d, word " = ", j.right.piece d]

/-- A written sort key. -/
def SortKey.pieces (d : Dialect) : SortKey → List Piece
  | output o => o.pieces d
  | named name => [d.namePiece name]

/-- The word for a direction. -/
def Direction.text : Direction → String
  | ascending => " ASC"
  | descending => " DESC"

/-- A word and the pieces after it, when there are any. -/
def clause (keyword : String) (parts : List (List Piece)) : List Piece :=
  if parts.isEmpty then [] else word keyword :: joined ", " parts

/-- A word and a number after it, when there is one. -/
def countClause (keyword : String) (count : Option Nat) : List Piece :=
  match count with
  | some n => [word keyword, .value (.bigUnsigned n)]
  | none => []

namespace Select

/-- The written outputs. -/
def outputPieces (d : Dialect) (s : Select) : List Piece :=
  joined ", " (s.outputs.map fun (output, name) =>
    output.pieces d ++ [word " AS ", d.namePiece name])

/-- The written condition. -/
def conditionPieces (d : Dialect) (s : Select) : List Piece :=
  match s.condition with
  | some condition => word " WHERE " :: condition.pieces d
  | none => []

/-- A written statement. -/
def pieces (d : Dialect) (s : Select) : List Piece :=
  word "SELECT " :: s.outputPieces d ++ [word " FROM ", d.namePiece s.table] ++
    s.joins.flatMap (Join.pieces d) ++ s.conditionPieces d ++
    clause " GROUP BY " (s.groups.map (Output.pieces d)) ++
    clause " ORDER BY " (s.order.map fun (key, direction) =>
      key.pieces d ++ [word direction.text]) ++
    countClause " LIMIT " s.limit ++ countClause " OFFSET " s.offset

/-- The statement with placeholders. -/
def statement (d : Dialect) (s : Select) : Statement := Piece.statement d (s.pieces d)

end Select

/-- The statement that gives the rows of a table a formula is true of, inlined. -/
def Formula.inlinedSelect (d : Dialect) (table : String) (formula : Formula) : String :=
  Piece.inlined d <|
    [word "SELECT * FROM ", d.namePiece table, word " WHERE "] ++ formula.pieces d

end Backoffice.Sql
