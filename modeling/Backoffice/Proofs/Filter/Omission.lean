import Backoffice.Proofs.Filter.Lowering
import Backoffice.Proofs.Sample
import Backoffice.Proofs.Sql.Database

/-!
# What the lowering leaves out

The lowering leaves out the subtrees below `all` that match everything, and a statement for a
tree that matches everything has no condition.  `FilterTree.clause` leaves nothing out and has
the truth of the tree by construction (`FilterTree.truth_clause`).  Each row is kept with the
one condition as with the other, since both are as true as the tree (`Context.kept_baseSelect`).

The truths of the leaves are arbitrary in all of this.  That is why no shape of a tree, such as
an `any` of nothing below an `all` of nothing else, needs a case of its own.
-/

namespace Backoffice

open Sql (Clause Formula Reading Select Truth)

namespace FilterTree

variable {α : Type}

/-! ## Truth of the empty nodes -/

@[simp] theorem truth_all_nil (value : α → Truth) : (all []).truth value = .yes := by
  rw [truth_all, List.map_nil, Truth.all_nil]

@[simp] theorem truth_any_nil (value : α → Truth) : (any []).truth value = .no := by
  rw [truth_any, List.map_nil, Truth.any_nil]

/-! ## Children that are left out -/

theorem lowerNeeded_append (write : α → Formula) (trees others : List (FilterTree α)) :
    lowerNeeded write (trees ++ others) = lowerNeeded write trees ++ lowerNeeded write others := by
  induction trees with
  | nil => rw [List.nil_append, lowerNeeded, List.nil_append]
  | cons tree rest ih =>
      rw [List.cons_append, lowerNeeded, lowerNeeded, ih]
      split <;> rfl

/-- Below `all`, a child that matches everything makes no difference to the formula. -/
theorem lower_all_omit {child : FilterTree α} (matchesAll : child.matchesEverything = true)
    (write : α → Formula) (before after : List (FilterTree α)) :
    (all (before ++ child :: after)).lower write = (all (before ++ after)).lower write := by
  rw [lower, lower, lowerNeeded_append, lowerNeeded_append, lowerNeeded, if_pos matchesAll]

/-! ## Nothing left out -/

mutual

/-- The clause of a tree with nothing left out. -/
def clause : FilterTree α → Clause α
  | leaf condition => .entry condition
  | all trees => .all (clauses trees)
  | any trees => .any (clauses trees)

/-- The clauses of some trees with nothing left out. -/
def clauses : List (FilterTree α) → List (Clause α)
  | [] => []
  | tree :: rest => tree.clause :: clauses rest

end

mutual

theorem truth_clause (value : α → Truth) :
    ∀ tree : FilterTree α, tree.clause.truth value = tree.truth value
  | leaf condition => by rw [clause, Clause.truth, truth_leaf]
  | all trees => by rw [clause, Clause.truth_all, truths_clauses, truth]
  | any trees => by rw [clause, Clause.truth_any, truths_clauses, truth]

theorem truths_clauses (value : α → Truth) :
    ∀ trees : List (FilterTree α), (clauses trees).map (Clause.truth value) = truths value trees
  | [] => by rw [clauses, truths, List.map_nil]
  | tree :: rest => by
      rw [clauses, truths, List.map_cons, truth_clause value tree, truths_clauses value rest]

end

end FilterTree

/-! ## Rows that are kept -/

namespace Context

variable {ctx : Context} {tree : FilterTree Predicate} {others : List String} {s : Select}

theorem keeps_baseSelect_iff (selected : ctx.baseSelect tree others = .ok s) (r : Reading) :
    s.Keeps r ↔ tree.truth (fun p => p.formula.truth r) = .yes := by
  obtain ⟨c, hasClause⟩ := hasClause_baseSelect selected
  exact hasClause.keeps_iff r

/-- With nothing left out, the same rows are kept. -/
theorem kept_baseSelect {V : Type} (selected : ctx.baseSelect tree others = .ok s)
    (e : Sql.Engine V) (db : Sql.Database V) :
    s.kept e db =
      { s with condition := some (tree.clause.formula Predicate.formula) }.kept e db := by
  refine List.filter_congr fun row _ => decide_eq_decide.2 ?_
  rw [keeps_baseSelect_iff selected]
  simp [Select.Keeps, Clause.truth_formula, FilterTree.truth_clause]

end Context

/-- Lowering keeps the truth of every tree, whatever the truths of its leaves are.  A tree that
matches everything is always true.  So a child left out makes no difference to the formula, and
a statement keeps the rows that its tree is true of, which are the ones it would keep with
nothing left out. -/
theorem lowering_keeps_truth :
    (∀ (α : Type) (tree : FilterTree α),
      (∃ c : Clause α, (∀ write, tree.lower write = c.formula write) ∧
        ∀ value, c.truth value = tree.truth value) ∧
      (∀ write r, (tree.lower write).truth r = tree.truth fun a => (write a).truth r) ∧
      (∀ value : α → Truth, (FilterTree.all []).truth value = .yes ∧
        (FilterTree.any []).truth value = .no) ∧
      (tree.matchesEverything = true → (∀ value, tree.truth value = .yes) ∧
        ∀ (write : α → Formula) (before after : List (FilterTree α)),
          (FilterTree.all (before ++ tree :: after)).lower write =
            (FilterTree.all (before ++ after)).lower write)) ∧
    ∀ (ctx : Context) (tree : FilterTree Predicate) (others : List String) (s : Select),
      ctx.baseSelect tree others = .ok s →
      (∀ r, s.Keeps r ↔ tree.truth (fun p => p.formula.truth r) = .yes) ∧
      ∀ (V : Type) (e : Sql.Engine V) (db : Sql.Database V), s.kept e db =
        { s with condition := some (tree.clause.formula Predicate.formula) }.kept e db := by
  constructor
  · intro α tree
    obtain ⟨c, isClause⟩ := tree.clause_lower
    refine ⟨⟨c, isClause.formula_eq, isClause.truth_eq⟩, fun write r => tree.truth_lower write r,
      fun value => ⟨FilterTree.truth_all_nil value, FilterTree.truth_any_nil value⟩,
      fun matchesAll => ⟨fun value => tree.truth_of_matchesEverything value matchesAll, ?_⟩⟩
    exact fun write before after => FilterTree.lower_all_omit matchesAll write before after
  · intro ctx tree others s selected
    exact ⟨fun r => Context.keeps_baseSelect_iff selected r,
      fun V e db => Context.kept_baseSelect selected e db⟩

/-- Empty nodes below each other. -/
def Sample.hollow : FilterTree Predicate := .any [.any [], .all [.all [], .any [.all []]]]

theorem lowering_keeps_truth_of_hollow :
    (∃ s, Sample.articles.baseSelect (.all [.all [.all []], Sample.hollow]) [] = .ok s ∧
      ∀ r, s.Keeps r) ∧
    ∀ write, (FilterTree.all [.all [.all []], Sample.hollow]).lower write =
      (FilterTree.all [Sample.hollow]).lower write := by
  constructor
  · refine ⟨_, rfl, fun r => ?_⟩
    exact ((lowering_keeps_truth.2 Sample.articles (.all [.all [.all []], Sample.hollow]) [] _
      rfl).1 r).2 (by simp [Sample.hollow, FilterTree.truth_all, FilterTree.truth_any])
  · intro write
    exact ((lowering_keeps_truth.1 Predicate (.all [.all []])).2.2.2 rfl).2 write []
      [Sample.hollow]

end Backoffice
