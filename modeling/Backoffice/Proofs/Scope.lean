import Backoffice.Proofs.Listing.Statements
import Backoffice.Proofs.Sample
import Backoffice.Proofs.Statistics.Statements

/-!
# Scope of statements

Every statement of an accepted registry is scoped: those of a list, of the records that
belong to a record, of a single record, of a pie and of a line.  Their columns come from
different places in each, and the joins are those of the conditions and of a list that each
of them draws up for itself.
-/

namespace Backoffice

open Sql (ColumnRef Select)

/-! ## Single records -/

theorem RecordQuery.isCompiled_keyTree {ctx : Context} {recordId : String}
    {tree : FilterTree Predicate} (isTree : keyTree ctx recordId = .ok tree) :
    ∀ p ∈ tree.leaves, ctx.IsCompiled p := by
  rw [keyTree] at isTree
  split at isTree
  next =>
    obtain ⟨leaves, areLeaves, rfl⟩ := Except.map_eq_ok.1 isTree
    intro p member
    have isLeaf := FilterTree.exists_mem_leaves_map.1 (FilterTree.mem_leaves_all.1 member)
    obtain ⟨pair, _, compiled⟩ := exists_item_of_mem areLeaves isLeaf
    obtain ⟨c, _, compiled⟩ := Except.bind_eq_ok.1 compiled
    exact Context.isCompiled_compile compiled
  next => cases isTree

/-- The statement for a record is scoped. -/
theorem RecordQuery.isScoped_statement [ZoneDatabase] {q : RecordQuery} {d : Sql.Dialect}
    {now : Instant} {s : Select} (compiles : q.statement d now = .ok s) {ds : List Declaration}
    (built : Registry.build ds = .ok q.registry) (held : q.collection ∈ q.registry.toList)
    (names : q.collection.NamesTables) :
    ∃ ctx tree, Context.make q.registry q.collection d none now q.settings = .ok ctx ∧
      keyTree ctx q.recordId = .ok tree ∧ s.IsScoped ctx tree.Names := by
  obtain ⟨p, parts, rfl⟩ := statement_eq_ok.1 compiles
  refine ⟨p.context, p.tree, parts.context_eq, parts.tree_eq, ?_⟩
  obtain ⟨inRegistry, about, _⟩ := Context.of_make parts.context_eq
  rw [← inRegistry] at built held
  rw [← about] at held names
  have isScoped := Context.isScoped_of_sameCondition built held names
    (isCompiled_keyTree parts.tree_eq) (by simp) parts.base_eq
    (s := p.statement q.collection) rfl rfl rfl ?_
  · exact isScoped.congr fun name => by simp
  · obtain ⟨joins, _, isBase⟩ := Context.baseSelect_eq_ok.1 parts.base_eq
    intro ref member
    rw [RecordParts.statement, ← isBase] at member
    simp only [Select.givenColumns, List.flatMap_nil, List.append_nil] at member
    obtain ⟨output, isOutput, isColumn⟩ := List.mem_flatMap.1 member
    obtain ⟨f, isField, rfl⟩ := List.mem_map.1 isOutput
    rw [List.mem_singleton.1 isColumn]
    rw [← about] at isField ⊢
    exact ⟨Context.describes_own isField, .inl rfl⟩

/-! ## Statistics -/

namespace StatQuery

variable {ctx : Context} {request : StatRequest}

theorem means_of_summedField {summed : Option ResolvedField}
    (isSummed : summedField ctx request = .ok summed) :
    ∀ f ∈ summed, ∃ path, ctx.Means path f := by
  rw [summedField] at isSummed
  split at isSummed
  next =>
    cases isSummed
    simp
  next =>
    obtain ⟨path, _, checked⟩ := Except.bind_eq_ok.1 isSummed
    obtain ⟨f, means, rfl⟩ := Context.means_of_checked checked
    rintro _ ⟨⟩
    exact ⟨path, means⟩

theorem columns_figure {summed : Option ResolvedField} :
    ∀ ref ∈ (figure summed).columns, ∃ f ∈ summed, ref = f.ref := by
  cases summed with
  | none => simp [figure, Sql.Output.columns]
  | some f => simp [figure, Sql.Output.columns]

theorem means_of_fields {key : ResolvedField} {summed : Option ResolvedField}
    (means : ∃ path, ctx.Means path key) (isSummed : summedField ctx request = .ok summed) :
    ∀ f ∈ key :: summed.toList, ∃ path, ctx.Means path f := by
  intro f member
  rcases List.mem_cons.1 member with rfl | isSum
  · exact means
  · exact means_of_summedField isSummed f (Option.mem_toList.1 isSum)

/-- What a statistic reads of its key and of its figure are columns of its fields. -/
theorem exists_field {key : ResolvedField} {summed : Option ResolvedField} {ref : ColumnRef}
    (read : ref = key.ref ∨ ref ∈ (figure summed).columns) :
    ∃ f ∈ key :: summed.toList, ref = f.ref := by
  rcases read with rfl | inFigure
  · exact ⟨key, List.mem_cons_self, rfl⟩
  · obtain ⟨f, isSum, isColumn⟩ := columns_figure ref inFigure
    exact ⟨f, .tail _ (Option.mem_toList.2 isSum), isColumn⟩

namespace HasParts

variable {q : StatQuery} {d : Sql.Dialect} {now : Instant} {p : StatParts} {s : Select}
variable {keyField : Context → StatRequest → Except Error ResolvedField}

theorem joins_of_mem [ZoneDatabase] (parts : q.HasParts d now keyField p)
    (means : ∃ path, p.context.Means path p.key) :
    ∀ name ∈ p.fields.filterMap (·.associationName), p.context.Joins name := by
  intro name member
  obtain ⟨f, isField, named⟩ := List.mem_filterMap.1 member
  obtain ⟨path, means⟩ := means_of_fields means parts.summed_eq f isField
  exact means.joins named

/-- A statistic is scoped when its columns are those of its condition, its key and its
figure. -/
theorem isScoped [ZoneDatabase] (parts : q.HasParts d now keyField p)
    (means : ∃ path, p.context.Means path p.key)
    {ds : List Declaration} (built : Registry.build ds = .ok q.registry)
    (held : q.collection ∈ q.registry.toList) (names : q.collection.NamesTables)
    (sameTable : s.table = p.base.table) (sameJoins : s.joins = p.base.joins)
    (given : ∀ ref ∈ s.conditionColumns ++ s.givenColumns, ref ∈ p.base.conditionColumns ∨
      ref = p.key.ref ∨ ref ∈ (figure p.summed).columns) :
    s.IsScoped p.context fun name =>
      p.tree.Names name ∨ ∃ f ∈ p.fields, f.associationName = some name := by
  obtain ⟨inRegistry, about, _⟩ := Context.of_make parts.context_eq
  rw [← inRegistry] at built held
  rw [← about] at held names
  have isScoped := Context.isScoped_of_baseSelect built held names
    (Context.isCompiled_compose parts.tree_eq) (parts.joins_of_mem means) parts.base_eq sameTable
    sameJoins ?_
  · exact isScoped.congr fun name => or_congr Iff.rfl List.mem_filterMap
  · intro ref member
    rcases given ref member with inCondition | read
    · exact .inl inCondition
    · obtain ⟨f, isField, rfl⟩ := exists_field read
      obtain ⟨path, means⟩ := means_of_fields means parts.summed_eq f isField
      exact .inr (means.isThere fun name named => List.mem_filterMap.2 ⟨f, isField, named⟩)

end HasParts

end StatQuery

theorem Pie.means_of_groupField {ctx : Context} {request : StatRequest} {group : ResolvedField}
    (isGroup : groupField ctx request = .ok group) : ∃ path, ctx.Means path group := by
  obtain ⟨path, _, checked⟩ := Except.bind_eq_ok.1 isGroup
  obtain ⟨_, means, rfl⟩ := Context.means_of_checked checked
  exact ⟨path, means⟩

/-- The statement of a pie is scoped. -/
theorem Pie.isScoped_statement [ZoneDatabase] {q : StatQuery} {d : Sql.Dialect} {now : Instant}
    {s : Select} (compiles : statement q d now = .ok s) {ds : List Declaration}
    (built : Registry.build ds = .ok q.registry) (held : q.collection ∈ q.registry.toList)
    (names : q.collection.NamesTables) :
    ∃ ctx tree group summed, q.context d now = .ok ctx ∧
      ctx.compose q.request.filterSpec = .ok tree ∧ groupField ctx q.request = .ok group ∧
      StatQuery.summedField ctx q.request = .ok summed ∧ s.IsScoped ctx fun name =>
        tree.Names name ∨ ∃ f ∈ group :: summed.toList, f.associationName = some name := by
  obtain ⟨p, parts, rfl⟩ := Pie.statement_eq_ok.1 compiles
  refine ⟨p.context, p.tree, p.key, p.summed, parts.context_eq, parts.tree_eq, parts.key_eq,
    parts.summed_eq, ?_⟩
  refine parts.isScoped (s := p.pie) (means_of_groupField parts.key_eq) built held names rfl rfl
    fun ref member => ?_
  rcases List.mem_append.1 member with inCondition | isGiven
  · exact .inl inCondition
  · simp only [StatParts.pie, Select.givenColumns, List.flatMap_cons, Sql.Output.columns,
      List.flatMap_nil, Sql.SortKey.columns, List.append_nil, List.mem_append,
      List.mem_singleton] at isGiven
    tauto

theorem Line.means_of_dateField {ctx : Context} {request : StatRequest} {date : ResolvedField}
    (isDate : dateField ctx request = .ok date) : ∃ path, ctx.Means path date := by
  obtain ⟨path, _, checked⟩ := Except.bind_eq_ok.1 isDate
  obtain ⟨_, means, rfl⟩ := Context.means_of_checked checked
  exact ⟨path, means⟩

theorem Line.columns_slot {date : ResolvedField} : (slot date).columns = [date.ref] := by
  rw [slot]
  split
  · rfl
  · rfl

/-- The statement of a line is scoped. -/
theorem Line.isScoped_plan [ZoneDatabase] {q : StatQuery} {d : Sql.Dialect} {now : Instant}
    {plan : LinePlan} (compiles : Line.plan q d now = .ok plan) {ds : List Declaration}
    (built : Registry.build ds = .ok q.registry) (held : q.collection ∈ q.registry.toList)
    (names : q.collection.NamesTables) :
    ∃ ctx tree date summed, q.context d now = .ok ctx ∧
      ctx.compose q.request.filterSpec = .ok tree ∧ dateField ctx q.request = .ok date ∧
      StatQuery.summedField ctx q.request = .ok summed ∧ plan.statement.IsScoped ctx fun name =>
        tree.Names name ∨ ∃ f ∈ date :: summed.toList, f.associationName = some name := by
  obtain ⟨p, _, parts, _, rfl⟩ := Line.plan_eq_ok.1 compiles
  refine ⟨p.context, p.tree, p.key, p.summed, parts.context_eq, parts.tree_eq, parts.key_eq,
    parts.summed_eq, ?_⟩
  refine parts.isScoped (s := p.line) (means_of_dateField parts.key_eq) built held names rfl rfl
    fun ref member => ?_
  rcases List.mem_append.1 member with inCondition | isGiven
  · have restricted : ref ∈ (p.base.restrict (.isNotNull p.key.ref)).conditionColumns := inCondition
    rw [Select.conditionColumns_restrict, List.mem_append] at restricted
    exact restricted.imp id fun isDate => .inl (List.mem_singleton.1 isDate)
  · simp only [StatParts.line, Select.givenColumns, List.flatMap_cons, columns_slot,
      List.flatMap_nil, Sql.SortKey.columns, List.append_nil, List.mem_append,
      List.mem_singleton] at isGiven
    tauto

/-! ## All statements -/

/-- Every statement that compiles is scoped, and the associations it joins are those that
the request names. -/
theorem statements_are_scoped [ZoneDatabase] {ds : List Declaration} {r : Registry}
    (built : Registry.build ds = .ok r) (names : ∀ c ∈ r.toList, c.NamesTables) :
    (∀ (q : ListQuery) (d : Sql.Dialect) (now : Instant) (st : ListStatements),
      q.registry = r → q.collection ∈ r.toList → q.statements d now = .ok st →
      ∃ p, q.HasParts d now p ∧ ∀ s ∈ [st.count, st.page], s.IsScoped p.context fun name =>
        p.tree.Names name ∨ (∃ key ∈ p.sort, key.1.associationName = some name) ∨
          q.params.AsksFor q.collection name) ∧
    (∀ (q : RecordQuery) (d : Sql.Dialect) (now : Instant) (s : Select),
      q.registry = r → q.collection ∈ r.toList → q.statement d now = .ok s →
      ∃ ctx tree, Context.make q.registry q.collection d none now q.settings = .ok ctx ∧
        RecordQuery.keyTree ctx q.recordId = .ok tree ∧ s.IsScoped ctx tree.Names) ∧
    (∀ (q : StatQuery) (d : Sql.Dialect) (now : Instant) (s : Select),
      q.registry = r → q.collection ∈ r.toList → Pie.statement q d now = .ok s →
      ∃ ctx tree group summed, q.context d now = .ok ctx ∧
        ctx.compose q.request.filterSpec = .ok tree ∧ Pie.groupField ctx q.request = .ok group ∧
        StatQuery.summedField ctx q.request = .ok summed ∧ s.IsScoped ctx fun name =>
          tree.Names name ∨ ∃ f ∈ group :: summed.toList, f.associationName = some name) ∧
    ∀ (q : StatQuery) (d : Sql.Dialect) (now : Instant) (plan : LinePlan),
      q.registry = r → q.collection ∈ r.toList → Line.plan q d now = .ok plan →
      ∃ ctx tree date summed, q.context d now = .ok ctx ∧
        ctx.compose q.request.filterSpec = .ok tree ∧ Line.dateField ctx q.request = .ok date ∧
        StatQuery.summedField ctx q.request = .ok summed ∧
        plan.statement.IsScoped ctx fun name =>
          tree.Names name ∨ ∃ f ∈ date :: summed.toList, f.associationName = some name := by
  refine ⟨?_, ?_, ?_, ?_⟩
  · rintro q d now st rfl held compiles
    obtain ⟨p, parts, rfl⟩ := ListQuery.statements_eq_ok.1 compiles
    obtain ⟨inRegistry, about, _⟩ := Context.of_make parts.context_eq
    refine ⟨p, parts, ?_⟩
    rw [← inRegistry] at built held
    rw [← about] at held ⊢
    exact ListQuery.HasParts.isScoped built held (names _ (inRegistry ▸ held)) parts
  · rintro q d now s rfl held compiles
    exact RecordQuery.isScoped_statement compiles built held (names _ held)
  · rintro q d now s rfl held compiles
    exact Pie.isScoped_statement compiles built held (names _ held)
  · rintro q d now plan rfl held compiles
    exact Line.isScoped_plan compiles built held (names _ held)

namespace Sample

theorem namesTables : ∀ c ∈ registry.toList, c.NamesTables :=
  Registry.namesTables build_declarations (by decide)

/-- The titles of the articles whose authors are called Ann, in the order of the names of
the authors. -/
def titles : ListQuery where
  registry := registry
  collection := article.toCollection
  settings := {}
  params :=
    { fields := .ofList [("article", "title"), ("author", "name")]
      filters := { entries := .ofList [("author.name", .plain "Ann")] }
      sort := some "-author.name" }

/-- How many articles each author has written. -/
def authors : StatQuery where
  registry := registry
  collection := article.toCollection
  settings := {}
  request := { collection := "article", kind := .pie, groupField := some "author.name" }

theorem statements_are_scoped_of_articles :
    (∃ st p, titles.statements .postgres ⟨0, 0⟩ = .ok st ∧ titles.HasParts .postgres ⟨0, 0⟩ p ∧
      st.page.joins.map (·.knownAs) = ["author"] ∧
      ∀ s ∈ [st.count, st.page], s.IsScoped p.context fun name =>
        p.tree.Names name ∨ (∃ key ∈ p.sort, key.1.associationName = some name) ∨
          titles.params.AsksFor article.toCollection name) ∧
    (∃ s ctx joined, RecordQuery.statement ⟨registry, log.toCollection, "a-b", {}⟩ .mysql ⟨0, 0⟩ =
      .ok s ∧ s.IsScoped ctx joined) ∧
    (∃ s ctx joined, Pie.statement authors .sqlite ⟨0, 0⟩ = .ok s ∧ s.IsScoped ctx joined) ∧
    ∃ plan ctx joined, Line.plan days .sqlite ⟨0, 0⟩ = .ok plan ∧
      plan.statement.IsScoped ctx joined := by
  obtain ⟨lists, records, pies, lines⟩ := statements_are_scoped build_declarations namesTables
  refine ⟨?_, ?_, ?_, ?_⟩
  · obtain ⟨p, parts, areScoped⟩ := lists titles .postgres ⟨0, 0⟩ _ rfl (.head _) rfl
    exact ⟨_, p, rfl, parts, rfl, areScoped⟩
  · obtain ⟨ctx, tree, _, _, isScoped⟩ :=
      records ⟨registry, log.toCollection, "a-b", {}⟩ .mysql ⟨0, 0⟩ _ rfl
        (.tail _ (.tail _ (.head _))) rfl
    exact ⟨_, ctx, _, rfl, isScoped⟩
  · obtain ⟨ctx, _, _, _, _, _, _, _, isScoped⟩ := pies authors .sqlite ⟨0, 0⟩ _ rfl (.head _) rfl
    exact ⟨_, ctx, _, rfl, isScoped⟩
  · obtain ⟨ctx, _, _, _, _, _, _, _, isScoped⟩ := lines days .sqlite ⟨0, 0⟩ _ rfl (.head _) rfl
    exact ⟨_, ctx, _, rfl, isScoped⟩

end Sample

end Backoffice
