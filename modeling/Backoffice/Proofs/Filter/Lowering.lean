import Backoffice.Listing.Base
import Backoffice.Proofs.Outcome
import Backoffice.Proofs.Sql.Truth

/-!
# The formula of a filter tree

A tree has a truth of its own: `all` is the `AND` of its subtrees and `any` their
`OR`.  `FilterTree.lower` keeps it.

Two steps of the lowering need an argument.  A subtree left out below `all` matches
everything, so it is true of every row (`truth_of_matchesEverything`).  A statement
without condition is one for such a tree.  Both hold whatever the truth of the
conditions is, so they are proved on clauses (`FilterTree.clause_lower`), in which
the conditions are not opened.
-/

namespace Backoffice

open Sql (Clause Formula Reading Truth)

namespace FilterTree

variable {α : Type}

mutual

/-- The truth of a tree, given that of its conditions. -/
def truth (value : α → Truth) : FilterTree α → Truth
  | leaf condition => value condition
  | all trees => .all (truths value trees)
  | any trees => .any (truths value trees)

/-- The truths of some trees. -/
def truths (value : α → Truth) : List (FilterTree α) → List Truth
  | [] => []
  | tree :: rest => tree.truth value :: truths value rest

end

theorem truths_eq_map (value : α → Truth) (trees : List (FilterTree α)) :
    truths value trees = trees.map (truth value) := by
  induction trees with
  | nil => rfl
  | cons tree rest ih => rw [truths, ih, List.map_cons]

@[simp] theorem truth_leaf (value : α → Truth) (condition : α) :
    (leaf condition).truth value = value condition := by
  rw [truth]

@[simp] theorem truth_all (value : α → Truth) (trees : List (FilterTree α)) :
    (all trees).truth value = .all (trees.map (truth value)) := by
  rw [truth, truths_eq_map]

@[simp] theorem truth_any (value : α → Truth) (trees : List (FilterTree α)) :
    (any trees).truth value = .any (trees.map (truth value)) := by
  rw [truth, truths_eq_map]

@[simp] theorem truth_always (value : α → Truth) : (always : FilterTree α).truth value = .yes := by
  rw [always, truth_all]
  rfl

/-! ## Trees that match everything -/

mutual

/-- A tree of nothing but `all` is true, whatever its conditions are worth. -/
theorem truth_of_matchesEverything (value : α → Truth) :
    ∀ {tree : FilterTree α}, tree.matchesEverything = true → tree.truth value = .yes
  | leaf _, h => by simp [matchesEverything] at h
  | all trees, h => by
      rw [matchesEverything] at h
      rw [truth]
      exact truths_of_allMatchEverything value h
  | any _, h => by simp [matchesEverything] at h

theorem truths_of_allMatchEverything (value : α → Truth) :
    ∀ {trees : List (FilterTree α)}, allMatchEverything trees = true →
      Truth.all (truths value trees) = .yes
  | [], _ => by rw [truths, Truth.all_nil]
  | tree :: rest, h => by
      rw [allMatchEverything, Bool.and_eq_true] at h
      rw [truths, Truth.all_cons, truth_of_matchesEverything value h.1,
        truths_of_allMatchEverything value h.2]
      rfl

end

/-! ## Lowering -/

/-- A clause says what a tree says: the same formula in writing, and the same truth. -/
structure IsClauseOf (c : Clause α) (tree : FilterTree α) : Prop where
  /-- Written out, the clause is the formula of the tree. -/
  formula_eq : ∀ write : α → Formula, tree.lower write = c.formula write
  /-- The clause is as true as the tree. -/
  truth_eq : ∀ value : α → Truth, c.truth value = tree.truth value

mutual

/-- Every tree has a clause. -/
theorem clause_lower : ∀ tree : FilterTree α, ∃ c, IsClauseOf c tree
  | leaf condition =>
      ⟨.entry condition, fun _ => by rw [lower, Clause.formula],
        fun _ => by rw [truth, Clause.truth]⟩
  | all trees => by
      obtain ⟨clauses, formulas, truths_eq⟩ := clauses_lowerNeeded trees
      refine ⟨.all clauses, fun write => ?_, fun value => ?_⟩
      · rw [lower, formulas, Clause.formula_all]
      · rw [truth, Clause.truth_all, truths_eq]
  | any trees => by
      obtain ⟨clauses, formulas, truths_eq⟩ := clauses_lowerEach trees
      refine ⟨.any clauses, fun write => ?_, fun value => ?_⟩
      · rw [lower, formulas, Clause.formula_any]
      · rw [truth, Clause.truth_any, truths_eq]

/-- Below `all`, what is left out adds nothing to the `AND`. -/
theorem clauses_lowerNeeded : ∀ trees : List (FilterTree α), ∃ clauses : List (Clause α),
    (∀ write, lowerNeeded write trees = clauses.map (Clause.formula write)) ∧
      ∀ value, Truth.all (clauses.map (Clause.truth value)) = .all (truths value trees)
  | [] => ⟨[], fun _ => by rw [lowerNeeded]; rfl, fun _ => by rw [truths]; rfl⟩
  | tree :: rest => by
      obtain ⟨clauses, formulas, truths_eq⟩ := clauses_lowerNeeded rest
      by_cases h : tree.matchesEverything = true
      · refine ⟨clauses, fun write => ?_, fun value => ?_⟩
        · rw [lowerNeeded, if_pos h, formulas]
        · rw [truths, Truth.all_cons, truth_of_matchesEverything value h, truths_eq,
            Truth.yes_and]
      · obtain ⟨c, hc⟩ := clause_lower tree
        refine ⟨c :: clauses, fun write => ?_, fun value => ?_⟩
        · rw [lowerNeeded, if_neg h, formulas, hc.formula_eq, List.map_cons]
        · rw [truths, List.map_cons, Truth.all_cons, Truth.all_cons, hc.truth_eq, truths_eq]

/-- Below `any`, nothing is left out. -/
theorem clauses_lowerEach : ∀ trees : List (FilterTree α), ∃ clauses : List (Clause α),
    (∀ write, lowerEach write trees = clauses.map (Clause.formula write)) ∧
      ∀ value, clauses.map (Clause.truth value) = truths value trees
  | [] => ⟨[], fun _ => by rw [lowerEach]; rfl, fun _ => by rw [truths]; rfl⟩
  | tree :: rest => by
      obtain ⟨clauses, formulas, truths_eq⟩ := clauses_lowerEach rest
      obtain ⟨c, hc⟩ := clause_lower tree
      refine ⟨c :: clauses, fun write => ?_, fun value => ?_⟩
      · rw [lowerEach, formulas, hc.formula_eq, List.map_cons]
      · rw [truths, List.map_cons, hc.truth_eq, truths_eq]

end

/-- Lowering keeps the truth of a tree. -/
theorem truth_lower (write : α → Formula) (r : Reading) (tree : FilterTree α) :
    (tree.lower write).truth r = tree.truth fun condition => (write condition).truth r := by
  obtain ⟨c, hc⟩ := clause_lower tree
  rw [hc.formula_eq, Clause.truth_formula, hc.truth_eq]

end FilterTree

/-! ## Conditions of statements -/

/-- The condition of a statement is a clause over compiled conditions that is true
exactly where `holds` is.  A missing condition is true of every row. -/
structure Sql.Select.HasClause (s : Sql.Select) (c : Option (Clause Predicate))
    (holds : (Predicate → Truth) → Prop) : Prop where
  /-- The condition of the statement is the clause, written out. -/
  condition_eq : s.condition = c.map (Clause.formula Predicate.formula)
  /-- What the clause is worth, for all truths of the conditions. -/
  holds_iff : ∀ value : Predicate → Truth,
    (∀ clause ∈ c, clause.truth value = .yes) ↔ holds value

/-- A row is kept exactly where its answers make the clause true. -/
theorem Sql.Select.HasClause.keeps_iff {s : Sql.Select} {c : Option (Clause Predicate)}
    {holds : (Predicate → Truth) → Prop} (h : s.HasClause c holds) (r : Reading) :
    s.Keeps r ↔ holds fun p => p.formula.truth r := by
  rw [← h.holds_iff, Sql.Select.Keeps, h.condition_eq]
  cases c with
  | none => simp
  | some clause => simp [Clause.truth_formula]

namespace Context

/-- The statement over a tree keeps the rows the tree is true of. -/
theorem hasClause_baseSelect {ctx : Context} {tree : FilterTree Predicate} {others : List String}
    {s : Sql.Select} (selected : ctx.baseSelect tree others = .ok s) :
    ∃ c, s.HasClause c fun value => tree.truth value = .yes := by
  obtain ⟨joins, _, rest⟩ := Except.bind_eq_ok.1 selected
  cases rest
  by_cases h : tree.matchesEverything = true
  · refine ⟨none, ?_, fun value => ?_⟩
    · simp [FilterTree.condition?, h]
    · simp [FilterTree.truth_of_matchesEverything value h]
  · obtain ⟨c, hc⟩ := FilterTree.clause_lower tree
    refine ⟨some c, ?_, fun value => ?_⟩
    · simp [FilterTree.condition?, FilterTree.formula, h, hc.formula_eq]
    · simp [hc.truth_eq]

end Context

end Backoffice
