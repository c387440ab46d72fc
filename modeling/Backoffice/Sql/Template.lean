import Backoffice.Sql.Value
import Backoffice.Text.Pieces

/-!
# Templates

SQL beyond the common operators is written by a template, a text with the sign `?` wherever
an expression stands.

* `sqlite` and `mysql` know that sign, and it stands for the expressions in turn.
* `postgres` knows places by their numbers, so there the signs are numbered first, `$1`, `$2`
  and so on, and each number stands for the expression at its position.

A template uses neither sign for anything else, and it has as many places as expressions.
What is put in a place is not read again, so an expression may hold these signs.
-/

namespace Backoffice.Sql

open Text (pieces digits digitsValue isDigit)

namespace Template

/-- A text with the expressions in the places of `?`, in turn. -/
def fill (expressions : List (List Char)) (template : List Char) : List Char :=
  let (first, others) := pieces '?' template
  first ++ (expressions.zip others).flatMap fun (expression, part) => expression ++ part

/-- A text with the places of `?` numbered from 1 on. -/
def numbered (template : List Char) : List Char :=
  let (first, others) := pieces '?' template
  first ++ (others.zipIdx 1).flatMap fun (part, position) => '$' :: digits position ++ part

/-- What stands for a number and the text after it: the expression at its position and the
text. -/
def fillPlace (expressions : List (List Char)) (part : List Char) : List Char :=
  expressions.getD (digitsValue (part.takeWhile isDigit) - 1) [] ++ part.dropWhile isDigit

/-- A text with the expressions in the places of their numbers. -/
def fillNumbered (expressions : List (List Char)) (template : List Char) : List Char :=
  let (first, others) := pieces '$' template
  first ++ others.flatMap (fillPlace expressions)

end Template

/-- The expression of a template with expressions in its places. -/
def Dialect.ofTemplate (d : Dialect) (template : String) (expressions : List (List Char)) :
    List Char :=
  match d with
  | .postgres => Template.fillNumbered expressions (Template.numbered template.toList)
  | .sqlite | .mysql => Template.fill expressions template.toList

end Backoffice.Sql
