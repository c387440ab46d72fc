/-!
# Patterns that match a text literally

Where a text may stand in a value is a `Placement`.  `likePattern` and
`globPattern` give the pattern that finds the text there, with every character
that a pattern could take for a wildcard escaped: by `!` for `LIKE`, by brackets
for `GLOB`.
-/

namespace Backoffice.Sql

/-- Where a text stands in a value. -/
inductive Placement where
  | anywhere
  | atStart
  | atEnd
deriving DecidableEq, Repr

/-- What marks the next character of a `LIKE` pattern as no wildcard. -/
def likeEscape : Char := '!'

/-- A text with each occurrence of a character replaced. -/
def replaceChar (c : Char) (replacement cs : List Char) : List Char :=
  cs.flatMap fun d => if d = c then replacement else [d]

/-- A text as a `LIKE` pattern takes it literally.  The escape itself goes first, so
that those which the wildcards get are left alone. -/
def likeLiteral (cs : List Char) : List Char :=
  replaceChar '_' [likeEscape, '_'] <|
    replaceChar '%' [likeEscape, '%'] <|
      replaceChar likeEscape [likeEscape, likeEscape] cs

/-- A text as a `GLOB` pattern takes it literally.  The bracket goes first, so that
those which the wildcards get are left alone. -/
def globLiteral (cs : List Char) : List Char :=
  replaceChar '?' ['[', '?', ']'] <|
    replaceChar '*' ['[', '*', ']'] <|
      replaceChar '[' ['[', '[', ']'] cs

/-- A text with the wildcard for any text on its open sides. -/
def Placement.surround {α : Type} (placement : Placement) (wildcard : α) (text : List α) : List α :=
  match placement with
  | anywhere => wildcard :: text ++ [wildcard]
  | atStart => text ++ [wildcard]
  | atEnd => wildcard :: text

/-- The `LIKE` pattern that finds a text. -/
def likePattern (placement : Placement) (cs : List Char) : List Char :=
  placement.surround '%' (likeLiteral cs)

/-- The `GLOB` pattern that finds a text. -/
def globPattern (placement : Placement) (cs : List Char) : List Char :=
  placement.surround '*' (globLiteral cs)

example : likePattern .anywhere ['5', '%', '!'] = ['%', '5', '!', '%', '!', '!', '%'] := by decide
example : globPattern .atStart ['[', '?'] = ['[', '[', ']', '[', '?', ']', '*'] := by decide

end Backoffice.Sql
