import Backoffice.Filter.Predicate
import Backoffice.KeyMap

/-!
# Filter trees

Compiled conditions joined by `all` and `any`.  `all` of nothing is true of every
row and `any` of nothing is true of no row.

`FilterTree.lower` turns a tree into a formula.  Below `all` it leaves out the
subtrees that match everything.  A statement for a tree that matches everything
needs no condition, and `FilterTree.condition?` gives none.
-/

namespace Backoffice

open Sql (Formula)

/-- Conditions joined by `all` and `any`. -/
inductive FilterTree (α : Type) where
  /-- A single condition. -/
  | leaf (condition : α)
  /-- Every one of the subtrees. -/
  | all (trees : List (FilterTree α))
  /-- At least one of the subtrees. -/
  | any (trees : List (FilterTree α))

/-- The names that occur in a list, each once and in order. -/
def sortedNames (names : List String) : List String :=
  (KeyMap.ofList (names.map fun name => (name, ()))).keys

namespace FilterTree

variable {α : Type}

/-- The tree that matches everything. -/
def always : FilterTree α := all []

mutual

/-- Whether a tree is made of nothing but `all`. -/
def matchesEverything : FilterTree α → Bool
  | leaf _ => false
  | all trees => allMatchEverything trees
  | any _ => false

/-- Whether each of some trees is made of nothing but `all`. -/
def allMatchEverything : List (FilterTree α) → Bool
  | [] => true
  | tree :: rest => tree.matchesEverything && allMatchEverything rest

end

mutual

/-- The conditions of a tree, from left to right. -/
def leaves : FilterTree α → List α
  | leaf condition => [condition]
  | all trees => leavesOf trees
  | any trees => leavesOf trees

/-- The conditions of some trees, from left to right. -/
def leavesOf : List (FilterTree α) → List α
  | [] => []
  | tree :: rest => tree.leaves ++ leavesOf rest

end

mutual

/-- The formula of a tree, given the formulas of its conditions. -/
def lower (formula : α → Formula) : FilterTree α → Formula
  | leaf condition => formula condition
  | all trees => .all (lowerNeeded formula trees)
  | any trees => .any (lowerEach formula trees)

/-- The formulas of those trees that do not match everything. -/
def lowerNeeded (formula : α → Formula) : List (FilterTree α) → List Formula
  | [] => []
  | tree :: rest =>
      if tree.matchesEverything then lowerNeeded formula rest
      else tree.lower formula :: lowerNeeded formula rest

/-- The formulas of some trees. -/
def lowerEach (formula : α → Formula) : List (FilterTree α) → List Formula
  | [] => []
  | tree :: rest => tree.lower formula :: lowerEach formula rest

end

/-! ## Trees of compiled conditions -/

/-- The formula of a tree of compiled conditions. -/
def formula (tree : FilterTree Predicate) : Formula := tree.lower Predicate.formula

/-- The condition of a statement for a tree, when it needs one. -/
def condition? (tree : FilterTree Predicate) : Option Formula :=
  if tree.matchesEverything then none else some tree.formula

/-- The associations that have to be joined, each once and in order. -/
def associations (tree : FilterTree Predicate) : List String :=
  sortedNames (tree.leaves.filterMap (·.association))

end FilterTree

end Backoffice
