import Backoffice.Filter.Specification
import Backoffice.Proofs.Outcome
import Backoffice.Proofs.Sql.Scope

/-!
# Conditions of trees

The conditions of a tree are those of its subtrees, and the formula of a tree reads no
column that none of its conditions reads.
-/

namespace Backoffice

open Sql (ColumnRef Formula)

namespace FilterTree

variable {α : Type} {condition : α} {trees : List (FilterTree α)}

theorem mem_leavesOf : condition ∈ leavesOf trees ↔ ∃ tree ∈ trees, condition ∈ tree.leaves := by
  induction trees with
  | nil => simp [leavesOf]
  | cons tree rest ih => simp [leavesOf, ih]

@[simp] theorem mem_leaves_leaf {other : α} :
    condition ∈ (leaf other).leaves ↔ condition = other := by
  simp [leaves]

@[simp] theorem mem_leaves_all :
    condition ∈ (all trees).leaves ↔ ∃ tree ∈ trees, condition ∈ tree.leaves := by
  rw [leaves, mem_leavesOf]

@[simp] theorem mem_leaves_any :
    condition ∈ (any trees).leaves ↔ ∃ tree ∈ trees, condition ∈ tree.leaves := by
  rw [leaves, mem_leavesOf]

/-- A combinator joins the conditions of its operands. -/
@[simp] theorem mem_leaves_join {combinator : Combinator} :
    condition ∈ (combinator.join trees).leaves ↔ ∃ tree ∈ trees, condition ∈ tree.leaves := by
  cases combinator with
  | and => exact mem_leaves_all
  | or => exact mem_leaves_any

theorem exists_mem_leaves_map {conditions : List α} :
    (∃ tree ∈ conditions.map leaf, condition ∈ tree.leaves) ↔ condition ∈ conditions := by
  constructor
  · rintro ⟨tree, member, isLeaf⟩
    obtain ⟨other, isCondition, rfl⟩ := List.mem_map.1 member
    rwa [mem_leaves_leaf.1 isLeaf]
  · intro member
    exact ⟨leaf condition, List.mem_map_of_mem member, mem_leaves_leaf.2 rfl⟩

/-! ## Columns of the formula -/

variable {write : α → Formula} {ref : ColumnRef}

mutual

/-- The formula of a tree reads what its conditions read. -/
theorem exists_leaf_of_mem_lower : ∀ {tree : FilterTree α}, ref ∈ (tree.lower write).columns →
    ∃ condition ∈ tree.leaves, ref ∈ (write condition).columns
  | leaf condition, read => by
      rw [lower] at read
      exact ⟨condition, mem_leaves_leaf.2 rfl, read⟩
  | all trees, read => by
      rw [lower, Formula.columns_all] at read
      rw [leaves]
      exact exists_leaf_of_mem_lowerNeeded read
  | any trees, read => by
      rw [lower, Formula.columns_any] at read
      rw [leaves]
      exact exists_leaf_of_mem_lowerEach read

theorem exists_leaf_of_mem_lowerNeeded : ∀ {trees : List (FilterTree α)},
    ref ∈ (lowerNeeded write trees).flatMap Formula.columns →
    ∃ condition ∈ leavesOf trees, ref ∈ (write condition).columns
  | [], read => by simp [lowerNeeded] at read
  | tree :: rest, read => by
      rw [lowerNeeded] at read
      rw [leavesOf]
      split at read
      next =>
        obtain ⟨condition, member, reads⟩ := exists_leaf_of_mem_lowerNeeded read
        exact ⟨condition, List.mem_append_right _ member, reads⟩
      next =>
        rw [List.flatMap_cons, List.mem_append] at read
        rcases read with here | later
        · obtain ⟨condition, member, reads⟩ := exists_leaf_of_mem_lower here
          exact ⟨condition, List.mem_append_left _ member, reads⟩
        · obtain ⟨condition, member, reads⟩ := exists_leaf_of_mem_lowerNeeded later
          exact ⟨condition, List.mem_append_right _ member, reads⟩

theorem exists_leaf_of_mem_lowerEach : ∀ {trees : List (FilterTree α)},
    ref ∈ (lowerEach write trees).flatMap Formula.columns →
    ∃ condition ∈ leavesOf trees, ref ∈ (write condition).columns
  | [], read => by simp [lowerEach] at read
  | tree :: rest, read => by
      rw [lowerEach, List.flatMap_cons, List.mem_append] at read
      rw [leavesOf]
      rcases read with here | later
      · obtain ⟨condition, member, reads⟩ := exists_leaf_of_mem_lower here
        exact ⟨condition, List.mem_append_left _ member, reads⟩
      · obtain ⟨condition, member, reads⟩ := exists_leaf_of_mem_lowerEach later
        exact ⟨condition, List.mem_append_right _ member, reads⟩

end

end FilterTree

/-! ## Composed trees -/

/-- The compiled conditions of an entry. -/
def CompiledEntry.predicates : CompiledEntry → List Predicate
  | plain predicate => [predicate]
  | group members => members

namespace Combinator

variable {entries : List CompiledEntry} {p : Predicate}

theorem mem_leaves_plain :
    (∃ tree ∈ (entries.filterMap CompiledEntry.plain?).map FilterTree.leaf, p ∈ tree.leaves) ↔
      .plain p ∈ entries := by
  rw [FilterTree.exists_mem_leaves_map, List.mem_filterMap]
  constructor
  · rintro ⟨entry, isEntry, isPlain⟩
    cases entry with
    | plain =>
        cases isPlain
        exact isEntry
    | group => cases isPlain
  · intro isEntry
    exact ⟨.plain p, isEntry, rfl⟩

theorem mem_leaves_groups :
    (∃ tree ∈ (entries.filterMap CompiledEntry.group?).map fun members =>
        FilterTree.all (members.map .leaf), p ∈ tree.leaves) ↔
      ∃ members, .group members ∈ entries ∧ p ∈ members := by
  constructor
  · rintro ⟨tree, member, isLeaf⟩
    obtain ⟨members, isGroup, rfl⟩ := List.mem_map.1 member
    obtain ⟨entry, isEntry, isGroup⟩ := List.mem_filterMap.1 isGroup
    cases entry with
    | plain => cases isGroup
    | group =>
        cases isGroup
        exact ⟨members, isEntry,
          FilterTree.exists_mem_leaves_map.1 (FilterTree.mem_leaves_all.1 isLeaf)⟩
  · rintro ⟨members, isEntry, isMember⟩
    refine ⟨.all (members.map .leaf), ?_,
      FilterTree.mem_leaves_all.2 (FilterTree.exists_mem_leaves_map.2 isMember)⟩
    exact List.mem_map.2 ⟨members, List.mem_filterMap.2 ⟨.group members, isEntry, rfl⟩, rfl⟩

/-- The tree of some entries has their conditions and no others. -/
theorem mem_leaves_tree {combinator : Combinator} :
    p ∈ (combinator.tree entries).leaves ↔ ∃ entry ∈ entries, p ∈ entry.predicates := by
  have ofEntries : (∃ entry ∈ entries, p ∈ entry.predicates) ↔
      .plain p ∈ entries ∨ ∃ members, .group members ∈ entries ∧ p ∈ members := by
    constructor
    · rintro ⟨entry, isEntry, member⟩
      cases entry with
      | plain =>
          rw [List.mem_singleton.1 member]
          exact .inl isEntry
      | group members => exact .inr ⟨members, isEntry, member⟩
    · rintro (isEntry | ⟨members, isEntry, member⟩)
      · exact ⟨_, isEntry, List.mem_singleton_self p⟩
      · exact ⟨_, isEntry, member⟩
  rw [ofEntries, ← mem_leaves_plain, ← mem_leaves_groups, tree]
  generalize (entries.filterMap CompiledEntry.plain?).map FilterTree.leaf = plain
  generalize (entries.filterMap CompiledEntry.group?).map
    (fun members => FilterTree.all (members.map .leaf)) = groups
  -- without groups the second disjunct is empty, without operands both are
  cases groups with
  | nil =>
      cases plain with
      | nil => simp [FilterTree.always]
      | cons => simp
  | cons group groups => simp [or_and_right, exists_or]

end Combinator

/-- A specification composes to the tree of its entries, with the tree of the search beside it
when there is a search text. -/
theorem Context.compose_eq_ok {ctx : Context} {spec : FilterSpec} {tree : FilterTree Predicate} :
    ctx.compose spec = .ok tree ↔
      ∃ entries, spec.entries.entries.mapM ctx.compileEntry = .ok entries ∧
        (spec.searchText? = none ∧ spec.combinator.tree entries = tree ∨
          ∃ text found, spec.searchText? = some text ∧ ctx.search text spec.extended = .ok found ∧
            .all [spec.combinator.tree entries, found] = tree) := by
  rw [compose]
  cases spec.searchText? with
  | none => simp [Except.bind_eq_ok, pure, Except.pure]
  | some text => simp [Except.bind_eq_ok, pure, Except.pure]

end Backoffice
