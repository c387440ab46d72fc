import Backoffice.Listing.Single
import Backoffice.Proofs.Listing.Joins

/-!
# The statements of lists and records

A list compiles when each of its parts does, and the statements are then made of the parts
(`ListQuery.statements_eq_ok`).  The fields a list gives are those of the collection and
those of the associations that the request names.  The statement for a record has fewer
parts (`RecordQuery.statement_eq_ok`).
-/

namespace Backoffice

open Sql (Select)

/-- What makes a context: the registry, the collection and the dialect are those of the
request. -/
theorem Context.of_make [ZoneDatabase] {registry : Registry} {collection : Collection}
    {d : Sql.Dialect} {timezone : Option String} {now : Instant} {settings : Settings}
    {ctx : Context}
    (made : Context.make registry collection d timezone now settings = .ok ctx) :
    ctx.registry = registry ∧ ctx.collection = collection ∧ ctx.dialect = d := by
  cases timezone with
  | none =>
      cases made
      exact ⟨rfl, rfl, rfl⟩
  | some name =>
      cases zone : ZoneDatabase.zone? name with
      | some zone =>
          simp only [make, zone] at made
          cases made
          exact ⟨rfl, rfl, rfl⟩
      | none =>
          simp only [make, zone] at made
          cases made

/-! ## Parts -/

/-- What the statements of a list are made of. -/
structure ListParts where
  context : Context
  /-- The tree of the filters. -/
  filters : FilterTree Predicate
  /-- The tree of the filters and of the parent. -/
  tree : FilterTree Predicate
  sort : Option (ResolvedField × Sql.Direction)
  /-- The requested fields. -/
  projections : List Projection
  window : Window
  /-- The tables and the condition of both statements. -/
  base : Sql.Select

namespace ListParts

/-- The associations that are joined for what is given and for the order. -/
def others (p : ListParts) : List String :=
  p.projections.filterMap (·.association) ++ (p.sort.bind (·.1.associationName)).toList

/-- The statements that the parts make up. -/
def statements (p : ListParts) (c : Collection) : ListStatements where
  count := { p.base with outputs := [(.count, countAlias)] }
  page := { p.base with
    outputs := p.projections.flatMap Projection.outputs
    order := ListQuery.pageOrder c p.sort
    limit := some p.window.limit
    offset := some p.window.offset }

end ListParts

/-- The parts of a list at an instant. -/
structure ListQuery.HasParts [ZoneDatabase] (q : ListQuery) (d : Sql.Dialect) (now : Instant)
    (p : ListParts) : Prop where
  context_eq :
    Context.make q.registry q.collection d q.params.timezone now q.settings = .ok p.context
  filters_eq : p.context.compose q.params.filters = .ok p.filters
  /-- The parent stands beside the filters. -/
  tree_eq : ListQuery.withParent p.context q.parent p.filters = .ok p.tree
  sort_eq : ListQuery.sortKey p.context q.params.sortOrder? = .ok p.sort
  projections_eq : p.context.projections q.params = .ok p.projections
  window_eq : q.params.page.window q.settings = .ok p.window
  /-- Both statements have one base. -/
  base_eq : p.context.baseSelect p.tree p.others = .ok p.base

theorem ListQuery.statements_eq_ok [ZoneDatabase] {q : ListQuery} {d : Sql.Dialect} {now : Instant}
    {st : ListStatements} :
    q.statements d now = .ok st ↔ ∃ p, q.HasParts d now p ∧ p.statements q.collection = st := by
  rw [statements]
  simp only [Except.bind_eq_ok]
  constructor
  · rintro ⟨ctx, isContext, filters, isFilters, tree, isTree, sort, isSort, projections,
      isProjections, window, isWindow, base, isBase, rest⟩
    cases rest
    exact ⟨⟨ctx, filters, tree, sort, projections, window, base⟩,
      ⟨isContext, isFilters, isTree, isSort, isProjections, isWindow, isBase⟩, rfl⟩
  · rintro ⟨p, parts, rfl⟩
    exact ⟨p.context, parts.context_eq, p.filters, parts.filters_eq, p.tree, parts.tree_eq, p.sort,
      parts.sort_eq, p.projections, parts.projections_eq, p.window, parts.window_eq, p.base,
      parts.base_eq, rfl⟩

/-- What the statement for a record is made of. -/
structure RecordParts where
  context : Context
  /-- The tree of the conditions on the key. -/
  tree : FilterTree Predicate
  /-- The table and the condition. -/
  base : Sql.Select

/-- The statement that the parts make up. -/
def RecordParts.statement (p : RecordParts) (c : Collection) : Sql.Select :=
  { p.base with outputs := (Projection.ofCollection c).outputs, limit := some 1 }

/-- The parts of a request for a record at an instant. -/
structure RecordQuery.HasParts [ZoneDatabase] (q : RecordQuery) (d : Sql.Dialect) (now : Instant)
    (p : RecordParts) : Prop where
  /-- A record is asked for in UTC. -/
  context_eq : Context.make q.registry q.collection d none now q.settings = .ok p.context
  tree_eq : keyTree p.context q.recordId = .ok p.tree
  base_eq : p.context.baseSelect p.tree [] = .ok p.base

theorem RecordQuery.statement_eq_ok [ZoneDatabase] {q : RecordQuery} {d : Sql.Dialect}
    {now : Instant} {s : Select} :
    q.statement d now = .ok s ↔ ∃ p, q.HasParts d now p ∧ p.statement q.collection = s := by
  rw [statement]
  simp only [Except.bind_eq_ok]
  constructor
  · rintro ⟨ctx, isContext, tree, isTree, base, isBase, rest⟩
    cases rest
    exact ⟨⟨ctx, tree, base⟩, ⟨isContext, isTree, isBase⟩, rfl⟩
  · rintro ⟨p, parts, rfl⟩
    exact ⟨p.context, parts.context_eq, p.tree, parts.tree_eq, p.base, parts.base_eq, rfl⟩

/-! ## Requested fields -/

/-- A request asks for fields of the associated records of a name. -/
def ListParams.AsksFor (params : ListParams) (c : Collection) (name : String) : Prop :=
  ∃ a ∈ c.toOneAssociations, a.name = name ∧ (params.fieldsFor name).isSome

namespace Context

variable {ctx : Context} {params : ListParams} {projections : List Projection}

/-- A projection gives the fields of the collection or of a record that an association
reaches. -/
inductive Gives (ctx : Context) (params : ListParams) : Projection → Prop where
  | own {fields : List Field} (described : ∀ f ∈ fields, f ∈ ctx.collection.fields) :
      Gives ctx params ⟨ctx.collection.table, none, fields⟩
  | associated {a : Association} {target : Collection} {fields : List Field}
      (member : a ∈ ctx.collection.toOneAssociations)
      (asked : (params.fieldsFor a.name).isSome)
      (reaches : ctx.registry.collection a.target = .ok target)
      (described : ∀ f ∈ fields, f ∈ target.fields) :
      Gives ctx params ⟨a.name, some a.name, fields⟩

theorem gives_of_projections (projected : ctx.projections params = .ok projections) :
    ∀ p ∈ projections, ctx.Gives params p := by
  obtain ⟨associated, areAssociated, rest⟩ := Except.bind_eq_ok.1 projected
  cases rest
  intro p member
  rcases List.mem_cons.1 member with rfl | later
  · refine .own fun f isField => ?_
    split at isField
    next => exact List.mem_of_mem_filter isField
    next => exact isField
  · obtain ⟨some, isSome, isP⟩ := List.mem_filterMap.1 later
    cases isP
    obtain ⟨a, isAssociation, isProjection⟩ := exists_item_of_mem areAssociated isSome
    rw [associationProjection?] at isProjection
    split at isProjection
    next => cases isProjection
    next names asked =>
      obtain ⟨target, reaches, isP⟩ := Except.map_eq_ok.1 isProjection
      cases isP
      exact .associated isAssociation (by rw [asked]; rfl) reaches fun f =>
        List.mem_of_mem_filter

theorem mem_projected (projected : ctx.projections params = .ok projections) {name : String} :
    name ∈ projections.filterMap (·.association) ↔ params.AsksFor ctx.collection name := by
  constructor
  · intro member
    obtain ⟨p, isP, named⟩ := List.mem_filterMap.1 member
    cases gives_of_projections projected p isP with
    | own => cases named
    | associated isAssociation asked =>
        cases named
        exact ⟨_, isAssociation, rfl, asked⟩
  · rintro ⟨a, isAssociation, rfl, asked⟩
    obtain ⟨associated, areAssociated, rest⟩ := Except.bind_eq_ok.1 projected
    cases rest
    obtain ⟨some, isSome, isProjection⟩ := exists_result_of_mem areAssociated isAssociation
    obtain ⟨names, isNames⟩ := Option.isSome_iff_exists.1 asked
    rw [associationProjection?, isNames] at isProjection
    obtain ⟨target, _, rfl⟩ := Except.map_eq_ok.1 isProjection
    refine List.mem_filterMap.2 ⟨_, .tail _ (List.mem_filterMap.2 ⟨_, isSome, rfl⟩), rfl⟩

end Context

/-! ## Names and columns of a list -/

section
variable {ctx : Context} {params : ListParams}

/-- The names that a list has joined beside those of its conditions. -/
theorem ListParts.mem_others {p : ListParts}
    (projected : p.context.projections params = .ok p.projections) {name : String} :
    name ∈ p.others ↔ (∃ key ∈ p.sort, key.1.associationName = some name) ∨
      params.AsksFor p.context.collection name := by
  rw [others, List.mem_append, Context.mem_projected projected, or_comm]
  simp [Option.bind_eq_some_iff]

theorem Context.isThere_outputs {others : List String} {p : Projection} (gives : ctx.Gives params p)
    (names : ctx.collection.NamesTables) (listed : ∀ name ∈ p.association, name ∈ others) :
    ∀ ref ∈ p.outputs.flatMap (·.1.columns), ctx.IsThere others ref := by
  intro ref member
  obtain ⟨output, isOutput, isColumn⟩ := List.mem_flatMap.1 member
  obtain ⟨f, isField, rfl⟩ := List.mem_map.1 isOutput
  rw [List.mem_singleton.1 isColumn]
  cases gives with
  | own described => exact ⟨describes_own (described f isField), .inl rfl⟩
  | associated isAssociation _ reaches described =>
      have link := links_of_mem names isAssociation reaches
      exact ⟨describes_linked link (described f isField), .inr (listed _ rfl)⟩

theorem ListQuery.means_of_sortKey {order : Option SortOrder}
    {sort : Option (ResolvedField × Sql.Direction)} (sorted : sortKey ctx order = .ok sort) :
    ∀ key ∈ sort, ∃ path, ctx.Means path key.1 := by
  cases order with
  | none =>
      cases sorted
      simp
  | some order =>
      obtain ⟨field, checked, rfl⟩ := Except.map_eq_ok.1 sorted
      obtain ⟨_, means, rfl⟩ := Context.means_of_checked checked
      rintro key ⟨⟩
      exact ⟨order.path, means⟩

/-- The parent adds a condition about a field that a path means. -/
theorem ListQuery.isCompiled_withParent {parent : Option ParentScope}
    {filters tree : FilterTree Predicate} (beside : withParent ctx parent filters = .ok tree)
    (compiled : ∀ p ∈ filters.leaves, ctx.IsCompiled p) : ∀ p ∈ tree.leaves, ctx.IsCompiled p := by
  cases parent with
  | none =>
      cases beside
      exact compiled
  | some scope =>
      obtain ⟨belongs, isEquality, rfl⟩ := Except.map_eq_ok.1 beside
      intro p member
      obtain ⟨part, isPart, isLeaf⟩ := FilterTree.mem_leaves_all.1 member
      rcases List.mem_pair.1 isPart with rfl | rfl
      · rw [FilterTree.mem_leaves_leaf.1 isLeaf]
        exact Context.isCompiled_compileEquals isEquality
      · exact compiled p isLeaf

end

namespace ListQuery.HasParts

variable [ZoneDatabase] {q : ListQuery} {d : Sql.Dialect} {now : Instant} {p : ListParts}

/-- The fields that a page gives are there. -/
theorem isThere_outputs (parts : q.HasParts d now p) (names : p.context.collection.NamesTables) :
    ∀ ref ∈ (p.projections.flatMap Projection.outputs).flatMap (·.1.columns),
      p.context.IsThere p.others ref := by
  intro ref member
  rw [List.flatMap_assoc] at member
  obtain ⟨projection, isProjection, isColumn⟩ := List.mem_flatMap.1 member
  have gives := Context.gives_of_projections parts.projections_eq projection isProjection
  refine Context.isThere_outputs gives names (fun name named => ?_) ref isColumn
  exact List.mem_append_left _ (List.mem_filterMap.2 ⟨projection, isProjection, named⟩)

/-- What a page is ordered by is there. -/
theorem isThere_order (parts : q.HasParts d now p) :
    ∀ ref ∈ (pageOrder p.context.collection p.sort).flatMap (·.1.columns),
      p.context.IsThere p.others ref := by
  intro ref member
  rw [pageOrder, List.flatMap_append, List.mem_append] at member
  rcases member with inSort | inKey
  · obtain ⟨_, isKey, isColumn⟩ := List.mem_flatMap.1 inSort
    obtain ⟨key, inSort, rfl⟩ := List.mem_map.1 isKey
    rw [List.mem_singleton.1 isColumn]
    obtain ⟨path, means⟩ := means_of_sortKey parts.sort_eq key (Option.mem_toList.1 inSort)
    refine means.isThere fun name named => ?_
    exact (ListParts.mem_others parts.projections_eq).2
      (.inl ⟨key, Option.mem_toList.1 inSort, named⟩)
  · obtain ⟨_, isSortKey, isColumn⟩ := List.mem_flatMap.1 inKey
    obtain ⟨key, isKey, rfl⟩ := List.mem_map.1 isSortKey
    rw [List.mem_singleton.1 isColumn]
    exact ⟨Context.describes_own (Collection.mem_of_keyFields isKey), .inl rfl⟩

/-- Every condition is about a field that a path means, that of the parent too. -/
theorem isCompiled (parts : q.HasParts d now p) : ∀ c ∈ p.tree.leaves, p.context.IsCompiled c :=
  isCompiled_withParent parts.tree_eq (Context.isCompiled_compose parts.filters_eq)

section
variable {ds : List Declaration} (built : Registry.build ds = .ok p.context.registry)
variable (held : p.context.collection ∈ p.context.registry.toList)
variable (names : p.context.collection.NamesTables)

include built held names

/-- What is joined for the fields and for the order are to-one associations. -/
theorem joins_others (parts : q.HasParts d now p) : ∀ name ∈ p.others, p.context.Joins name := by
  intro name listed
  rcases (ListParts.mem_others parts.projections_eq).1 listed with
    ⟨key, isKey, named⟩ | ⟨a, member, named, _⟩
  · obtain ⟨path, means⟩ := means_of_sortKey parts.sort_eq key isKey
    exact means.joins named
  · obtain ⟨target, reaches, _⟩ :=
      Registry.exists_link built held (List.mem_of_mem_filter member)
    exact ⟨a, target, Context.links_of_mem names member reaches, named⟩

/-- Both statements of a list are scoped. -/
theorem isScoped (parts : q.HasParts d now p) :
    ∀ s ∈ [(p.statements p.context.collection).count, (p.statements p.context.collection).page],
      s.IsScoped p.context fun name => p.tree.Names name ∨
        (∃ key ∈ p.sort, key.1.associationName = some name) ∨
          q.params.AsksFor p.context.collection name := by
  -- the statements have one base, and differ in what they give and in the order
  have ofBase : ∀ s : Select, s.table = p.base.table → s.joins = p.base.joins →
      s.condition = p.base.condition → (∀ ref ∈ s.givenColumns, p.context.IsThere p.others ref) →
      s.IsScoped p.context fun name => p.tree.Names name ∨
        (∃ key ∈ p.sort, key.1.associationName = some name) ∨
          q.params.AsksFor p.context.collection name := by
    intro s sameTable sameJoins sameCondition given
    have isScoped := Context.isScoped_of_sameCondition built held names parts.isCompiled
      (joins_others built held names parts) parts.base_eq sameTable sameJoins sameCondition given
    exact isScoped.congr fun name => or_congr Iff.rfl (ListParts.mem_others parts.projections_eq)
  obtain ⟨joins, _, isBase⟩ := Context.baseSelect_eq_ok.1 parts.base_eq
  intro s member
  rcases List.mem_pair.1 member with rfl | rfl
  · refine ofBase _ rfl rfl rfl fun ref isGiven => ?_
    simp [ListParts.statements, Select.givenColumns, Sql.Output.columns, ← isBase] at isGiven
  · refine ofBase _ rfl rfl rfl fun ref isGiven => ?_
    simp only [ListParts.statements, Select.givenColumns, ← isBase, List.flatMap_nil,
      List.append_nil, List.mem_append] at isGiven
    rcases isGiven with inOutputs | inOrder
    · exact parts.isThere_outputs names ref inOutputs
    · exact parts.isThere_order ref inOrder

end

end ListQuery.HasParts

end Backoffice
