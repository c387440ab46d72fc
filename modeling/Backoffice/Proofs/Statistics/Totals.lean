import Backoffice.Proofs.KeyMap
import Backoffice.Proofs.Listing.Totals
import Backoffice.Proofs.Scope
import Backoffice.Proofs.Sql.Groups
import Backoffice.Proofs.Statistics.Statements

/-!
# Totals of statistics

A statistic is joined for its group as well as for its filters, and a line leaves out the
records without a date.  A list with the same filters is not joined for either.  Where the
database keeps its keys the figures agree all the same: those of a pie add up to the total of
the list, and those of a line to the total less the records without a date
(`statistics_agree_with_lists`).
-/

namespace Backoffice

open Sql (Database Engine JoinedRow Select TableRow)
open StatQuery (bucketAlias keyAlias valueAlias)

variable {V : Type}

/-! ## Lists of the records of a statistic -/

/-- Of the filters of a statistic the last value of a repeated field stays. -/
theorem StatRequest.find?_filterSpec (r : StatRequest) (path : String) :
    r.filterSpec.entries.find? path =
      (r.filters.reverse.find? fun f => f.field = path).map fun f => .plain f.value := by
  rw [filterSpec, KeyMap.find?_ofList, ← List.map_reverse, List.find?_map, Option.map_map]
  rfl

/-- A list asks for the records of a statistic. -/
structure ListQuery.AsksLike (l : ListQuery) (q : StatQuery) : Prop where
  registry_eq : l.registry = q.registry
  collection_eq : l.collection = q.collection
  parent_eq : l.parent = none
  caseSensitive_eq : l.settings.caseSensitive = q.settings.caseSensitive
  timezone_eq : l.params.timezone = q.request.timezone
  /-- The filters are a map, with the last value of a repeated field. -/
  find?_eq : ∀ path, l.params.filters.entries.find? path =
    (q.request.filters.reverse.find? fun f => f.field = path).map fun f => .plain f.value
  combinator_eq : l.params.filters.combinator = q.request.combinator
  unsearched : l.params.filters.searchText? = none

namespace ListQuery.AsksLike

variable {l : ListQuery} {q : StatQuery} {ctx : Context}

theorem compose_eq (like : l.AsksLike q) :
    ctx.compose l.params.filters = ctx.compose q.request.filterSpec := by
  have sameEntries : l.params.filters.entries = q.request.filterSpec.entries :=
    KeyMap.ext_find? fun path => (like.find?_eq path).trans (q.request.find?_filterSpec path).symm
  have unsearched : q.request.filterSpec.searchText? = none := rfl
  simp only [Context.compose, sameEntries, like.combinator_eq, like.unsearched, unsearched]
  rfl

theorem context_eq [ZoneDatabase] (like : l.AsksLike q) (d : Sql.Dialect) (now : Instant) :
    Context.make l.registry l.collection d l.params.timezone now l.settings = q.context d now := by
  simp only [StatQuery.context, Context.make, like.registry_eq, like.collection_eq,
    like.timezone_eq, like.caseSensitive_eq]

/-- The list and the statistic have one context and one tree. -/
theorem parts_eq [ZoneDatabase] (like : l.AsksLike q) {d : Sql.Dialect} {now : Instant}
    {keyField : Context → StatRequest → Except Error ResolvedField} {lp : ListParts}
    (listed : l.HasParts d now lp) {p : StatParts} (parts : q.HasParts d now keyField p) :
    lp.context = p.context ∧ lp.tree = p.tree := by
  obtain ⟨context, filters, tree, _, _, _, _⟩ := lp
  have sameContext := listed.context_eq
  rw [like.context_eq, parts.context_eq] at sameContext
  obtain rfl : p.context = context := Except.ok.inj sameContext
  have sameFilters := listed.filters_eq
  rw [like.compose_eq, parts.tree_eq] at sameFilters
  obtain rfl : p.tree = filters := Except.ok.inj sameFilters
  have sameTree := listed.tree_eq
  rw [like.parent_eq] at sameTree
  exact ⟨rfl, (Except.ok.inj sameTree).symm⟩

end ListQuery.AsksLike

/-- A base is still there when less is joined. -/
theorem Context.exists_baseSelect_of_subset {ctx : Context} {tree : FilterTree Predicate}
    {others fewer : List String} {base : Select} (selected : ctx.baseSelect tree others = .ok base)
    (subset : fewer ⊆ others) : ∃ base, ctx.baseSelect tree fewer = .ok base := by
  obtain ⟨joins, joined, _⟩ := baseSelect_eq_ok.1 selected
  have each := exists_mapM_eq_ok.1 ⟨joins, joined⟩
  have fewerJoin : ∃ joins,
      (sortedNames (tree.associations ++ fewer)).mapM ctx.join = .ok joins := by
    refine exists_mapM_eq_ok.2 fun name member => each name ?_
    rw [mem_sortedNames, List.mem_append] at member ⊢
    exact member.imp id fun isFewer => subset isFewer
  obtain ⟨fewerJoins, joined⟩ := fewerJoin
  exact ⟨_, baseSelect_eq_ok.2 ⟨fewerJoins, joined, rfl⟩⟩

/-- A list that names no fields gives those of the collection. -/
theorem Context.projections_of_empty {ctx : Context} {params : ListParams}
    (noFields : params.fields = .empty) :
    ctx.projections params = .ok [ctx.ownProjection params] := by
  have noneAsked : ctx.associationProjection? params = fun _ => .ok none := by
    funext a
    rw [associationProjection?, ListParams.fieldsFor, noFields]
    rfl
  have noneGiven : ∀ items : List Association,
      items.mapM (fun _ => (.ok none : Except Error (Option Projection))) =
        .ok (items.map fun _ => none) := by
    intro items
    exact mapM_eq_ok.2 (List.forall₂_map_right_iff.2 (List.forall₂_same.2 fun _ _ => rfl))
  rw [projections, noneAsked, noneGiven]
  simp [bind, Except.bind, pure, Except.pure]

/-- The list of the records of a statistic, one on a page. -/
def StatQuery.list (q : StatQuery) : ListQuery where
  registry := q.registry
  collection := q.collection
  settings := q.settings
  params :=
    { filters := q.request.filterSpec, timezone := q.request.timezone, page := { size := some 1 } }

theorem StatQuery.asksLike_list (q : StatQuery) : q.list.AsksLike q :=
  ⟨rfl, rfl, rfl, rfl, rfl, q.request.find?_filterSpec, rfl, rfl⟩

/-- Where a statistic compiles, the list of its records does. -/
theorem StatQuery.HasParts.exists_statements [ZoneDatabase] {q : StatQuery} {d : Sql.Dialect}
    {now : Instant} {keyField : Context → StatRequest → Except Error ResolvedField} {p : StatParts}
    (parts : q.HasParts d now keyField p) : ∃ st, q.list.statements d now = .ok st := by
  obtain ⟨base, selected⟩ := Context.exists_baseSelect_of_subset parts.base_eq (List.nil_subset _)
  refine ⟨_, ListQuery.statements_eq_ok.2 ⟨⟨p.context, p.tree, p.tree, none,
    [p.context.ownProjection q.list.params], ⟨0, q.settings.pageSize 1⟩, base⟩, ?_, rfl⟩⟩
  exact
    { context_eq := parts.context_eq
      filters_eq := parts.tree_eq
      tree_eq := rfl
      sort_eq := rfl
      projections_eq := Context.projections_of_empty rfl
      window_eq := by simp [list, PageParams.window, Text.word64]
      base_eq := selected }

/-! ## Figures -/

/-- The number of records that a tree is true of and that have nothing in a column. -/
def Context.countWithout (e : Engine V) (db : Database V) (ctx : Context)
    (tree : FilterTree Predicate) (ref : Sql.ColumnRef) : Nat :=
  (db ctx.collection.table).countP fun row =>
    tree.truth (fun p => p.formula.truth (e.reading (ctx.linkedRow e db row))) = .yes ∧
      (ctx.linkedRow e db row).value ref = none

/-- The records that a tree is true of are those with a value in a column and those without. -/
theorem Context.countMatches_eq_add {e : Engine V} {db : Database V} {ctx : Context}
    {tree : FilterTree Predicate} (ref : Sql.ColumnRef) :
    ctx.countMatches e db tree =
      ((db ctx.collection.table).filter fun row =>
        tree.truth (fun p => p.formula.truth (e.reading (ctx.linkedRow e db row))) = .yes).countP
          (fun row => ((ctx.linkedRow e db row).value ref).isSome) +
        ctx.countWithout e db tree ref := by
  rw [countMatches, List.countP_eq_length_filter, List.length_eq_countP_add_countP fun row =>
    ((ctx.linkedRow e db row).value ref).isSome]
  congr 1
  rw [countWithout, List.countP_filter]
  refine List.countP_congr fun row _ => ?_
  simp [and_comm]

theorem StatQuery.summed_eq_none {ctx : Context} {request : StatRequest}
    {summed : Option ResolvedField} (counted : request.aggregate = .count)
    (isSummed : summedField ctx request = .ok summed) : summed = none := by
  rw [summedField, counted] at isSummed
  exact (Except.ok.inj isSummed).symm

namespace StatQuery.HasParts

variable {e : Engine V} {db : Database V} {q : StatQuery} {d : Sql.Dialect} {now : Instant}
variable {keyField : Context → StatRequest → Except Error ResolvedField} {p : StatParts}

section
variable {ds : List Declaration}
variable (built : Registry.build ds = .ok p.context.registry)
variable (held : p.context.collection ∈ p.context.registry.toList)
variable (names : p.context.collection.NamesTables)
variable (differ : ∀ d ∈ ds, (d.columns.map (·.field)).Nodup)
variable (isEquality : e.IsEquality) (keeps : e.KeepsKeys db ds)
variable (means : ∃ path, p.context.Means path p.key)

include built held names differ isEquality keeps means

/-- The base of a statistic keeps a row for every record that the filters match, and the row
has the field that is grouped by. -/
theorem exists_kept_base [ZoneDatabase] (parts : q.HasParts d now keyField p) :
    ∃ besides : TableRow V → JoinedRow V,
      p.base.kept e db = ((db p.context.collection.table).filter fun row =>
        p.tree.truth (fun c => c.formula.truth (e.reading (p.context.linkedRow e db row))) =
          .yes).map besides ∧
      ∀ row, (besides row).value p.key.ref = (p.context.linkedRow e db row).value p.key.ref := by
  have compiled := Context.isCompiled_compose parts.tree_eq
  have areJoins := parts.joins_of_mem means
  have isBase := Context.isBase_of_baseSelect built held compiled areJoins parts.base_eq
  obtain ⟨besides, _, isKept, _, agree⟩ := Context.exists_besides built held names differ
    isEquality keeps compiled areJoins parts.base_eq rfl rfl rfl
  refine ⟨besides, isKept, fun row => agree row _ ?_⟩
  obtain ⟨path, means⟩ := means
  refine means.isThere fun name named => (isBase.joined_iff name).2 (.inr ?_)
  exact List.mem_filterMap.2 ⟨p.key, List.mem_cons_self, named⟩

/-- The numbers of a pie of counts add up to the number of records that the filters match. -/
theorem exists_tally_pie [ZoneDatabase] (parts : q.HasParts d now keyField p)
    (counted : q.request.aggregate = .count) :
    ∃ counts, p.pie.given e db = Select.tally keyAlias valueAlias counts ∧
      (counts.map Prod.snd).sum = p.context.countMatches e db p.tree := by
  obtain ⟨besides, isKept, _⟩ :=
    parts.exists_kept_base built held names differ isEquality keeps means
  have outputs : p.pie.outputs = [(.column p.key.ref, keyAlias), (.count, valueAlias)] := by
    rw [StatParts.pie, summed_eq_none counted parts.summed_eq]
    rfl
  obtain ⟨counts, given, sum_eq⟩ := Select.exists_tally (s := p.pie) e db
    (List.cons_ne_nil _ _) rfl outputs
  refine ⟨counts, given, ?_⟩
  have sameKept : p.pie.kept e db = p.base.kept e db := rfl
  rw [sum_eq, sameKept, isKept, List.length_map, ← List.countP_eq_length_filter,
    Context.countMatches]

/-- With the records that have no date, the numbers of a line of counts add up to the number
of records that the filters match. -/
theorem exists_tally_line [ZoneDatabase] (parts : q.HasParts d now keyField p)
    (counted : q.request.aggregate = .count) :
    ∃ counts, p.line.given e db = Select.tally bucketAlias valueAlias counts ∧
      (counts.map Prod.snd).sum + p.context.countWithout e db p.tree p.key.ref =
        p.context.countMatches e db p.tree := by
  obtain ⟨besides, isKept, agree⟩ :=
    parts.exists_kept_base built held names differ isEquality keeps means
  have single : (Line.slot p.key).isAggregate = false := by
    rw [Line.slot]
    split
    · rfl
    · rfl
  have outputs : p.line.outputs = [(Line.slot p.key, bucketAlias), (.count, valueAlias)] := by
    rw [StatParts.line, summed_eq_none counted parts.summed_eq]
    rfl
  obtain ⟨counts, given, sum_eq⟩ := Select.exists_tally (s := p.line) e db
    (List.cons_ne_nil _ _) single outputs
  refine ⟨counts, given, ?_⟩
  have dated : p.line.kept e db = (p.base.kept e db).filter fun row =>
      (row.value p.key.ref).isSome := by
    have sameKept : p.line.kept e db = (p.base.restrict (.isNotNull p.key.ref)).kept e db := rfl
    rw [sameKept, Select.kept_restrict]
    refine List.filter_congr fun row _ => ?_
    cases value : row.value p.key.ref with
    | none => simp [Sql.Formula.truth, Engine.reading, value]
    | some v => simp [Sql.Formula.truth, Engine.reading, value]
  rw [sum_eq, dated, isKept, List.filter_map, List.length_map, Function.comp_def,
    Context.countMatches_eq_add p.key.ref, ← List.countP_eq_length_filter]
  simp only [agree]

end

end StatQuery.HasParts

/-- Statistics agree with lists.  Where the names in the declarations differ and the database
keeps its keys, the numbers of a pie add up to the total of every list with the same filters,
whatever the pie groups by, records without a value among them.  The numbers of a line add up
to the same total less the number of records without a date.  There is such a list. -/
theorem statistics_agree_with_lists [ZoneDatabase] {ds : List Declaration} {r : Registry}
    (built : Registry.build ds = .ok r) (names : ∀ c ∈ r.toList, c.NamesTables)
    (differ : ∀ d ∈ ds, (d.columns.map (·.field)).Nodup)
    (e : Engine V) (isEquality : e.IsEquality) (db : Database V) (keeps : e.KeepsKeys db ds)
    {q : StatQuery} (inRegistry : q.registry = r) (held : q.collection ∈ r.toList)
    (counted : q.request.aggregate = .count) (d : Sql.Dialect) (now : Instant) :
    (∀ s, Pie.statement q d now = .ok s →
      (∃ l st, ListQuery.AsksLike l q ∧ l.statements d now = .ok st) ∧
      ∃ counts, s.given e db = Select.tally keyAlias valueAlias counts ∧
        ∀ l st, ListQuery.AsksLike l q → l.statements d now = .ok st →
          st.count.given e db = [[(.number (counts.map Prod.snd).sum, countAlias)]]) ∧
    ∀ plan, Line.plan q d now = .ok plan →
      (∃ l st, ListQuery.AsksLike l q ∧ l.statements d now = .ok st) ∧
      ∃ ctx tree date counts, q.context d now = .ok ctx ∧
        ctx.compose q.request.filterSpec = .ok tree ∧ Line.dateField ctx q.request = .ok date ∧
        plan.statement.given e db = Select.tally bucketAlias valueAlias counts ∧
        ∀ l st, ListQuery.AsksLike l q → l.statements d now = .ok st →
          ∃ total, st.count.given e db = [[(.number total, countAlias)]] ∧
            (counts.map Prod.snd).sum = total - ctx.countWithout e db tree date.ref ∧
            ctx.countWithout e db tree date.ref ≤ total := by
  subst inRegistry
  have named := names _ held
  -- a list with the same filters counts the records that they match
  have isTotal : ∀ {keyField p}, q.HasParts d now keyField p → ∀ l st, ListQuery.AsksLike l q →
      l.statements d now = .ok st →
        st.count.given e db = [[(.number (p.context.countMatches e db p.tree), countAlias)]] := by
    intro keyField p parts l st like compiles
    obtain ⟨lp, listed, rfl⟩ := ListQuery.statements_eq_ok.1 compiles
    obtain ⟨sameContext, sameTree⟩ := like.parts_eq listed parts
    obtain ⟨sameRegistry, about, _⟩ := Context.of_make parts.context_eq
    rw [← sameRegistry, ← sameContext] at built held
    rw [← about, ← sameContext] at held named
    rw [← sameContext, ← sameTree]
    exact (listed.given_statements built held named differ isEquality keeps).1
  constructor
  · intro s compiles
    obtain ⟨p, parts, rfl⟩ := Pie.statement_eq_ok.1 compiles
    obtain ⟨st, listed⟩ := parts.exists_statements
    obtain ⟨sameRegistry, about, _⟩ := Context.of_make parts.context_eq
    rw [← sameRegistry] at built held
    rw [← about] at held named
    obtain ⟨counts, given, sum_eq⟩ := parts.exists_tally_pie built held named differ isEquality
      keeps (Pie.means_of_groupField parts.key_eq) counted
    refine ⟨⟨q.list, st, q.asksLike_list, listed⟩, counts, given, fun l st like compiles => ?_⟩
    rw [sum_eq]
    exact isTotal parts l st like compiles
  · intro plan compiles
    obtain ⟨p, range, parts, _, rfl⟩ := Line.plan_eq_ok.1 compiles
    obtain ⟨st, listed⟩ := parts.exists_statements
    obtain ⟨sameRegistry, about, _⟩ := Context.of_make parts.context_eq
    rw [← sameRegistry] at built held
    rw [← about] at held named
    obtain ⟨counts, given, sum_eq⟩ := parts.exists_tally_line built held named differ isEquality
      keeps (Line.means_of_dateField parts.key_eq) counted
    refine ⟨⟨q.list, st, q.asksLike_list, listed⟩, p.context, p.tree, p.key, counts,
      parts.context_eq, parts.tree_eq, parts.key_eq, given, fun l st like compiles => ?_⟩
    exact ⟨_, isTotal parts l st like compiles, by omega, by omega⟩

namespace Sample

/-- Four articles.  One has no title, one has no date, and one has no author. -/
def pressTables : Database Nat
  | "articles" =>
      [(1, some 10, some 1000, some 1), (2, some 11, none, none), (3, none, some 5, some 1),
        (4, some 12, some 1700, some 1)].map fun (id, title, created, author) column =>
      if column = "id" then some id
      else if column = "title" then title
      else if column = "created_at" then created
      else if column = "author_id" then author else none
  | "authors" => [(1, 100)].map fun (id, name) column =>
      if column = "id" then some id else if column = "name" then some name else none
  | _ => []

theorem keepsKeys_press : numbers.KeepsKeys pressTables [article, author, log] where
  primary := by decide
  hasOne := by decide

/-- The articles with a title, by their authors and by day. -/
def headlined : StatQuery where
  registry := registry
  collection := article.toCollection
  settings := {}
  request :=
    { collection := "article", kind := .pie, groupField := some "author.name",
      dateField := some "created_at", timeRange := some .day,
      filters := [⟨"title", "null"⟩, ⟨"title", "!null"⟩] }

/-- Of the two filters on titles the last one counts.  It finds three articles: two of one
author and one of none, two in one slot and one without a date. -/
theorem statistics_agree_with_lists_of_articles :
    (∃ s, Pie.statement headlined .sqlite ⟨0, 0⟩ = .ok s ∧
      s.given numbers pressTables =
        Select.tally keyAlias valueAlias [(some 100, 2), (none, 1)] ∧
      ∀ l st, ListQuery.AsksLike l headlined → l.statements .sqlite ⟨0, 0⟩ = .ok st →
        st.count.given numbers pressTables = [[(.number 3, countAlias)]]) ∧
    ∃ plan ctx tree date st, Line.plan headlined .sqlite ⟨0, 0⟩ = .ok plan ∧
      Line.dateField ctx headlined.request = .ok date ∧
      plan.statement.given numbers pressTables =
        Select.tally bucketAlias valueAlias [(some 900, 2)] ∧
      headlined.list.statements .sqlite ⟨0, 0⟩ = .ok st ∧
      st.count.given numbers pressTables = [[(.number 3, countAlias)]] ∧
      ctx.countWithout numbers pressTables tree date.ref = 1 := by
  have held : headlined.collection ∈ registry.toList := .head _
  obtain ⟨pies, lines⟩ := statistics_agree_with_lists build_declarations namesTables (by decide)
    numbers isEquality_numbers pressTables keepsKeys_press (q := headlined) rfl held rfl .sqlite
    ⟨0, 0⟩
  constructor
  · have compiled : Pie.statement headlined .sqlite ⟨0, 0⟩ = .ok _ := rfl
    obtain ⟨_, counts, given, total⟩ := pies _ compiled
    have isTally : Select.tally keyAlias valueAlias counts =
        Select.tally keyAlias valueAlias [(some 100, 2), (none, 1)] := given.symm.trans rfl
    obtain rfl := Select.tally_injective _ _ isTally
    exact ⟨_, compiled, given, total⟩
  · have planned : Line.plan headlined .sqlite ⟨0, 0⟩ = .ok _ := rfl
    have listed : headlined.list.statements .sqlite ⟨0, 0⟩ = .ok _ := rfl
    obtain ⟨_, ctx, tree, date, counts, _, _, isDate, given, isTotal⟩ := lines _ planned
    have isTally : Select.tally bucketAlias valueAlias counts =
        Select.tally bucketAlias valueAlias [(some 900, 2)] := given.symm.trans rfl
    obtain rfl := Select.tally_injective _ _ isTally
    obtain ⟨total, isCount, less, _⟩ := isTotal _ _ headlined.asksLike_list listed
    obtain rfl : 3 = total := by
      have counted : [[(Sql.Datum.number (V := Nat) 3, countAlias)]] =
        [[(.number total, countAlias)]] := isCount
      simpa using counted
    simp only [List.map_cons, List.map_nil, List.sum_cons, List.sum_nil] at less
    exact ⟨_, ctx, tree, date, _, planned, isDate, given, listed, isCount, by omega⟩

end Sample

end Backoffice
