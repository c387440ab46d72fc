import Backoffice.Proofs.Filter.Leaves
import Backoffice.Proofs.Filter.Lowering
import Backoffice.Proofs.Filter.Search
import Backoffice.Proofs.Sample
import Backoffice.Proofs.Statistics.Statements

/-!
# What a filter keeps

The meaning of a filter specification is said here without trees and formulas.  Its
`FilterParts` are the conditions of the plain entries, those of each group and, when
there is a search text, those the search asks of the fields.  Each value is compiled
on its own here, and each field is looked up on its own.  The truths of the
conditions give the meaning:

* the plain entries and, as one more operand, the groups, joined by the combinator,
  where the groups count as one of them whose members all hold;
* no such operand without groups, and no filter at all without entries, whatever
  the combinator is;
* beside that at least one condition of the search, which is never so without any.

The main statement is that the statements of a request keep exactly the rows the
meaning is true of.  The statement of a line asks for a date besides.
-/

namespace Backoffice

open Sql (Clause Formula Reading Truth)

/-! ## The meaning of a specification -/

/-- The truth of operands joined by a combinator. -/
def Combinator.truth : Combinator → List Truth → Truth
  | and => .all
  | or => .any

/-- The compiled parts of a filter specification. -/
structure FilterParts where
  /-- The conditions that are entries of their own. -/
  plain : List Predicate
  /-- The conditions of each group. -/
  groups : List (List Predicate)
  /-- The conditions of the search, when there is a search text. -/
  search : Option (List Predicate)

namespace FilterParts

/-- At least one group has nothing but true members. -/
def groupsTruth (p : FilterParts) (value : Predicate → Truth) : Truth :=
  .any (p.groups.map fun members => .all (members.map value))

/-- The truths that the combinator joins. -/
def operands (p : FilterParts) (value : Predicate → Truth) : List Truth :=
  p.plain.map value ++ if p.groups.isEmpty then [] else [p.groupsTruth value]

/-- The truth of the entries. -/
def entriesTruth (p : FilterParts) (combinator : Combinator) (value : Predicate → Truth) :
    Truth :=
  if p.plain.isEmpty && p.groups.isEmpty then .yes else combinator.truth (p.operands value)

/-- The truth of the search. -/
def searchTruth (p : FilterParts) (value : Predicate → Truth) : Truth :=
  match p.search with
  | none => .yes
  | some conditions => .any (conditions.map value)

/-- The meaning of a filter whose conditions have the given truths. -/
def meaning (p : FilterParts) (combinator : Combinator) (value : Predicate → Truth) : Truth :=
  (p.entriesTruth combinator value).and (p.searchTruth value)

end FilterParts

/-- The path and the value of a plain entry. -/
def FilterEntry.plain? : String × FilterEntry → Option (String × String)
  | (path, .plain raw) => some (path, raw)
  | (_, .group _) => none

/-- The paths and the values of a group. -/
def FilterEntry.group? : String × FilterEntry → Option (List (String × String))
  | (_, .plain _) => none
  | (_, .group members) => some members.entries

namespace Context

/-- The conditions of some values under their paths. -/
def conditions (ctx : Context) (values : List (String × String)) :
    Except Error (List Predicate) :=
  values.mapM fun (path, raw) => ctx.compileRaw path raw

/-- The conditions that a search asks of the fields under the paths of its candidates. -/
def searchConditions (ctx : Context) (text : String) (extended : Bool) :
    Except Error (List Predicate) := do
  let fields ← (ctx.candidates extended).mapM fun candidate => ctx.resolve candidate.path
  return fields.filterMap (·.searchLeaf? ctx.dialect text)

/-- The conditions of the search, when something is left of its text without the blanks around
it. -/
def searchPart (ctx : Context) (spec : FilterSpec) : Except Error (Option (List Predicate)) :=
  match spec.search with
  | none => .ok none
  | some text =>
      if Text.trimString text = "" then .ok none
      else (ctx.searchConditions (Text.trimString text) spec.extended).map some

/-- The parts of a filter specification, compiled. -/
def parts (ctx : Context) (spec : FilterSpec) : Except Error FilterParts := do
  let plain ← ctx.conditions (spec.entries.entries.filterMap FilterEntry.plain?)
  let groups ← (spec.entries.entries.filterMap FilterEntry.group?).mapM ctx.conditions
  let search ← ctx.searchPart spec
  return ⟨plain, groups, search⟩

end Context

/-! ## Trees of specifications -/

@[simp] theorem FilterTree.truth_join {α : Type} (combinator : Combinator)
    (trees : List (FilterTree α)) (value : α → Truth) :
    (combinator.join trees).truth value = combinator.truth (trees.map (FilterTree.truth value)) := by
  cases combinator with
  | and => exact FilterTree.truth_all value trees
  | or => exact FilterTree.truth_any value trees

theorem FilterTree.truths_leaves {α : Type} (conditions : List α) (value : α → Truth) :
    (conditions.map FilterTree.leaf).map (FilterTree.truth value) = conditions.map value := by
  simp [Function.comp_def]

namespace FilterParts

/-- The parts with the conditions of compiled entries. -/
def ofEntries (entries : List CompiledEntry) (search : Option (List Predicate)) : FilterParts :=
  ⟨entries.filterMap CompiledEntry.plain?, entries.filterMap CompiledEntry.group?, search⟩

/-- The trees that the combinator joins. -/
def operandTrees (p : FilterParts) : List (FilterTree Predicate) :=
  p.plain.map .leaf ++
    if p.groups.isEmpty then [] else [.any (p.groups.map fun members => .all (members.map .leaf))]

theorem isEmpty_operandTrees (p : FilterParts) :
    p.operandTrees.isEmpty = (p.plain.isEmpty && p.groups.isEmpty) := by
  obtain ⟨plain, groups, search⟩ := p
  cases plain <;> cases groups <;> rfl

theorem truths_operandTrees (p : FilterParts) (value : Predicate → Truth) :
    p.operandTrees.map (FilterTree.truth value) = p.operands value := by
  rw [operandTrees, operands]
  rw [List.map_append, FilterTree.truths_leaves]
  split
  · rfl
  · simp [groupsTruth, Function.comp_def]

variable (entries : List CompiledEntry) (search : Option (List Predicate))

theorem tree_eq (combinator : Combinator) :
    combinator.tree entries =
      if (ofEntries entries search).operandTrees.isEmpty then .always
      else combinator.join (ofEntries entries search).operandTrees := by
  generalize isParts : ofEntries entries search = p
  have operands_eq : p.operandTrees =
      if (p.groups.map fun members => FilterTree.all (members.map .leaf)).isEmpty then
        p.plain.map .leaf
      else p.plain.map .leaf ++ [.any (p.groups.map fun members => .all (members.map .leaf))] := by
    rw [operandTrees, List.isEmpty_map]
    split
    · rw [List.append_nil]
    · rfl
  rw [operands_eq, ← isParts]
  rfl

/-- The tree of the entries says what the entries mean. -/
theorem truth_tree (combinator : Combinator) (value : Predicate → Truth) :
    (combinator.tree entries).truth value =
      (ofEntries entries search).entriesTruth combinator value := by
  rw [tree_eq entries search, entriesTruth, isEmpty_operandTrees]
  split
  · simp [FilterTree.always]
  · rw [FilterTree.truth_join, truths_operandTrees]

end FilterParts

theorem FilterTree.leavesOf_leaves {α : Type} (conditions : List α) :
    FilterTree.leavesOf (conditions.map FilterTree.leaf) = conditions := by
  induction conditions with
  | nil => rfl
  | cons condition rest ih =>
      rw [List.map_cons, FilterTree.leavesOf, ih, FilterTree.leaves]
      rfl

namespace Context

variable {ctx : Context}

/-- Compiled entries have the conditions of the values under their paths, the plain ones and
those of each group. -/
theorem conditions_of_compileEntry {items : List (String × FilterEntry)}
    {entries : List CompiledEntry} (compiled : items.mapM ctx.compileEntry = .ok entries) :
    ctx.conditions (items.filterMap FilterEntry.plain?) =
        .ok (entries.filterMap CompiledEntry.plain?) ∧
      (items.filterMap FilterEntry.group?).mapM ctx.conditions =
        .ok (entries.filterMap CompiledEntry.group?) := by
  rw [mapM_eq_ok] at compiled
  simp only [conditions, mapM_eq_ok]
  induction compiled with
  | nil => exact ⟨.nil, .nil⟩
  | @cons item entry rest others isEntry _ ih =>
      obtain ⟨key, item⟩ := item
      cases item with
      | plain raw =>
          obtain ⟨p, isCompiled, rfl⟩ := Except.map_eq_ok.1 isEntry
          exact ⟨.cons isCompiled ih.1, ih.2⟩
      | group members =>
          obtain ⟨ps, areCompiled, rfl⟩ := Except.map_eq_ok.1 isEntry
          exact ⟨ih.1, .cons (mapM_eq_ok.1 areCompiled) ih.2⟩

/-- There is a search where there is a search text. -/
theorem searchPart_eq {spec : FilterSpec} : ctx.searchPart spec =
    (spec.searchText?.map fun text =>
      (ctx.searchConditions text spec.extended).map some).getD (.ok none) := by
  rw [searchPart, FilterSpec.searchText?]
  cases spec.search with
  | none => rfl
  | some text => by_cases blank : Text.trimString text = "" <;> simp [blank, Option.filter_some]

/-- A composed tree says what its specification means. -/
theorem truth_compose {spec : FilterSpec} {tree : FilterTree Predicate}
    (composed : ctx.compose spec = .ok tree) :
    ∃ p, ctx.parts spec = .ok p ∧
      ∀ value, tree.truth value = p.meaning spec.combinator value := by
  obtain ⟨entries, compiled, rest⟩ := compose_eq_ok.1 composed
  obtain ⟨plain, groups⟩ := conditions_of_compileEntry compiled
  have parts_eq : ∀ search, ctx.searchPart spec = .ok search →
      ctx.parts spec = .ok (.ofEntries entries search) := by
    intro search isSearch
    rw [parts, plain, groups, isSearch]
    rfl
  rcases rest with ⟨blank, rfl⟩ | ⟨text, found, isText, searched, rfl⟩
  · refine ⟨_, parts_eq none (by rw [searchPart_eq, blank]; rfl), fun value => ?_⟩
    rw [FilterParts.truth_tree entries none, FilterParts.meaning]
    exact (Truth.and_yes _).symm
  · obtain ⟨fields, finds, rfl⟩ := search_eq_any searched
    have asked : ctx.searchConditions text spec.extended =
        .ok (fields.filterMap (·.searchLeaf? ctx.dialect text)) := by
      rw [searchConditions, mapM_eq_ok.2 finds]
      rfl
    have isSearch : ctx.searchPart spec =
        .ok (some (fields.filterMap (·.searchLeaf? ctx.dialect text))) := by
      rw [searchPart_eq, isText, Option.map_some, asked]
      rfl
    refine ⟨_, parts_eq _ isSearch, fun value => ?_⟩
    rw [FilterTree.truth_all]
    simp only [List.map_cons, List.map_nil, Truth.all_cons, Truth.all_nil, Truth.and_yes]
    rw [FilterParts.truth_tree entries, FilterTree.truth_any, FilterTree.truths_leaves]
    rfl

end Context

/-! ## Statements -/

/-- The statement over a composed tree keeps what the specification means. -/
theorem Context.hasClause_compose {ctx : Context} {spec : FilterSpec}
    {tree : FilterTree Predicate} {others : List String} {s : Sql.Select}
    (composed : ctx.compose spec = .ok tree) (selected : ctx.baseSelect tree others = .ok s) :
    ∃ p c, ctx.parts spec = .ok p ∧
      s.HasClause c fun value => p.meaning spec.combinator value = .yes := by
  obtain ⟨p, compiled, means⟩ := Context.truth_compose composed
  obtain ⟨c, clause⟩ := Context.hasClause_baseSelect selected
  simp only [means] at clause
  exact ⟨p, c, compiled, clause⟩

/-- The statement of a line is one over a composed tree, asked for a date besides. -/
theorem Line.plan_statement [ZoneDatabase] {q : StatQuery} {dialect : Sql.Dialect} {now : Instant}
    {plan : LinePlan} (planned : Line.plan q dialect now = .ok plan) :
    ∃ ctx date tree others base,
      q.context dialect now = .ok ctx ∧ Line.dateField ctx q.request = .ok date ∧
        ctx.compose q.request.filterSpec = .ok tree ∧ ctx.baseSelect tree others = .ok base ∧
        plan.statement.condition = (base.restrict (.isNotNull date.ref)).condition := by
  obtain ⟨p, _, parts, _, rfl⟩ := plan_eq_ok.1 planned
  exact ⟨p.context, p.key, p.tree, _, p.base, parts.context_eq, parts.key_eq, parts.tree_eq,
    parts.base_eq, rfl⟩

/-- A statement keeps a row exactly where the filter of its request means something
true, whatever the conditions of the filter are worth.  A line asks for a date
besides, whatever the combinator is. -/
theorem statements_keep_meaning [ZoneDatabase] :
    (∀ (ctx : Context) (spec : FilterSpec) (tree : FilterTree Predicate) (others : List String)
        (s : Sql.Select),
      ctx.compose spec = .ok tree → ctx.baseSelect tree others = .ok s →
      ∃ (p : FilterParts) (c : Option (Clause Predicate)),
        ctx.parts spec = .ok p ∧
        (s.HasClause c fun value => p.meaning spec.combinator value = .yes) ∧
        ∀ r, s.Keeps r ↔ p.meaning spec.combinator (fun q => q.formula.truth r) = .yes) ∧
    ∀ (q : StatQuery) (dialect : Sql.Dialect) (now : Instant) (plan : LinePlan),
      Line.plan q dialect now = .ok plan →
      ∃ (ctx : Context) (date : ResolvedField) (p : FilterParts) (c : Option (Clause Predicate))
          (base : Sql.Select),
        q.context dialect now = .ok ctx ∧ Line.dateField ctx q.request = .ok date ∧
        ctx.parts q.request.filterSpec = .ok p ∧
        (base.HasClause c fun value => p.meaning q.request.combinator value = .yes) ∧
        plan.statement.condition = (base.restrict (.isNotNull date.ref)).condition ∧
        ∀ r, plan.statement.Keeps r ↔
          p.meaning q.request.combinator (fun q => q.formula.truth r) = .yes ∧
            r.isNull date.ref = false := by
  constructor
  · intro ctx spec tree others s composed selected
    obtain ⟨p, c, compiled, clause⟩ := Context.hasClause_compose composed selected
    exact ⟨p, c, compiled, clause, clause.keeps_iff⟩
  · intro q dialect now plan planned
    obtain ⟨ctx, date, tree, others, base, inContext, dated, composed, selected, restricted⟩ :=
      Line.plan_statement planned
    obtain ⟨p, c, compiled, clause⟩ := Context.hasClause_compose composed selected
    refine ⟨ctx, date, p, c, base, inContext, dated, compiled, clause, restricted, fun r => ?_⟩
    have keeps : plan.statement.Keeps r ↔ (base.restrict (.isNotNull date.ref)).Keeps r := by
      rw [Sql.Select.Keeps, restricted, Sql.Select.Keeps]
    rw [keeps, Sql.Select.keeps_restrict, clause.keeps_iff]
    simp [Formula.truth, StatRequest.filterSpec]

namespace Sample

/-- Articles with a present title or an author called Ann, but not a title of `x`,
among those that the search for `b` finds. -/
def spec : FilterSpec where
  entries := .ofList
    [("title", .plain "$present"), ("author.name", .plain "Ann"),
     ("group", .group (.ofList [("title", "!x"), ("id", ">3")]))]
  combinator := .or
  search := some " b "

theorem statements_keep_meaning_of_articles :
    (∃ tree s p c, articles.compose spec = .ok tree ∧
      articles.baseSelect tree [] = .ok s ∧ articles.parts spec = .ok p ∧
      s.HasClause c fun value => p.meaning .or value = .yes) ∧
    ∃ plan, ∃ date : Sql.ColumnRef, ∃ p : FilterParts, Line.plan days .sqlite ⟨0, 0⟩ = .ok plan ∧
      ∀ r, plan.statement.Keeps r ↔
        p.meaning .or (fun q => q.formula.truth r) = .yes ∧ r.isNull date = false := by
  constructor
  · obtain ⟨p, c, compiled, clause, _⟩ :=
      statements_keep_meaning.1 articles spec _ [] _ rfl rfl
    exact ⟨_, _, p, c, rfl, rfl, compiled, clause⟩
  · obtain ⟨_, date, p, _, _, _, _, _, _, _, keeps⟩ :=
      statements_keep_meaning.2 days .sqlite ⟨0, 0⟩ _ rfl
    exact ⟨_, date.ref, p, rfl, keeps⟩

end Sample

end Backoffice
