/-!
# Cutting a text at a separator

* `pieces` cuts at every separator.  A text without one is its own only piece,
  so there is always a first piece.
* `splitFirst` cuts at the first separator.
* `piecesAtMost` cuts at the first separators and leaves the others inside the
  last piece.
-/

namespace Backoffice.Text

/-- The first piece of a text and the pieces after it, cut at every separator. -/
def pieces (separator : Char) : List Char → List Char × List (List Char)
  | [] => ([], [])
  | c :: rest =>
      let (first, others) := pieces separator rest
      if c = separator then ([], first :: others) else (c :: first, others)

/-- The text before the first separator and the text after it. -/
def splitFirst (separator : Char) : List Char → Option (List Char × List Char)
  | [] => none
  | c :: rest =>
      if c = separator then some ([], rest)
      else (splitFirst separator rest).map fun (before, after) => (c :: before, after)

/-- At most `count` pieces of a text.  The last one keeps any further separators. -/
def piecesAtMost (separator : Char) : (count : Nat) → List Char → List (List Char)
  | 0, _ => []
  | 1, cs => [cs]
  | count + 2, cs =>
      match splitFirst separator cs with
      | none => [cs]
      | some (before, after) => before :: piecesAtMost separator (count + 1) after

/-- A text without a given start, when it has that start. -/
def dropStart? : (start : List Char) → List Char → Option (List Char)
  | [], cs => some cs
  | _ :: _, [] => none
  | s :: start, c :: cs => if s = c then dropStart? start cs else none

/-- A text without a given end, when it has that end. -/
def dropEnd? (ending : List Char) (cs : List Char) : Option (List Char) :=
  (dropStart? ending.reverse cs.reverse).map List.reverse

/-- Dropping a start succeeds exactly on the texts that have it. -/
theorem dropStart?_eq_some_iff {start cs rest : List Char} :
    dropStart? start cs = some rest ↔ cs = start ++ rest := by
  induction start generalizing cs with
  | nil => simp [dropStart?, eq_comm]
  | cons s start ih =>
      cases cs with
      | nil => simp [dropStart?]
      | cons c cs =>
          by_cases h : s = c
          · simp [dropStart?, h, ih]
          · simp [dropStart?, h, Ne.symm h]

/-- Dropping an end succeeds exactly on the texts that have it. -/
theorem dropEnd?_eq_some_iff {ending cs rest : List Char} :
    dropEnd? ending cs = some rest ↔ cs = rest ++ ending := by
  simp only [dropEnd?, Option.map_eq_some_iff, dropStart?_eq_some_iff]
  constructor
  · rintro ⟨back, h, rfl⟩
    have := congrArg List.reverse h
    simpa using this
  · rintro rfl
    exact ⟨rest.reverse, by simp, by simp⟩

example : pieces '.' ['a', '.', 'b', '.'] = (['a'], [['b'], []]) := by decide
example : piecesAtMost '-' 2 ['a', '-', 'b', '-', 'c'] = [['a'], ['b', '-', 'c']] := by decide

end Backoffice.Text
