import Backoffice.Proofs.Filter.Erasure
import Backoffice.Proofs.Listing.KeyCondition
import Backoffice.Proofs.Storage.Requests

/-!
# Requests that differ in values

The statements of a request are made of its filters and of the rest of it.  The rest is the
same in two requests that differ in filter values, search texts and record ids alone, and
their filters compose to alike trees.  So their statements differ in nothing but bound values
(`values_never_shape_statements`).
-/

namespace Backoffice

open Sql (Select)
open StatQuery (bucketAlias valueAlias)

/-! ## Equality with ids -/

/-- What is left of the equality with an id does not depend on the id. -/
theorem Context.alike_compileEquals {ctx : Context} {path id other : String} {p q : Predicate}
    (compiled : ctx.compileEquals path id = .ok p)
    (otherCompiled : ctx.compileEquals path other = .ok q) : p.Alike q := by
  obtain ⟨f, resolved, compiled⟩ := Except.bind_eq_ok.1 compiled
  obtain ⟨c, isEquality, compiled⟩ := Except.bind_eq_ok.1 compiled
  obtain ⟨g, otherResolved, otherCompiled⟩ := Except.bind_eq_ok.1 otherCompiled
  obtain ⟨otherEquality, isOther, otherCompiled⟩ := Except.bind_eq_ok.1 otherCompiled
  rw [resolved] at otherResolved
  cases otherResolved
  obtain ⟨_, _, rfl⟩ := Condition.equals_eq_ok.1 isEquality
  obtain ⟨_, _, rfl⟩ := Condition.equals_eq_ok.1 isOther
  exact alike_compile compiled otherCompiled rfl

namespace RecordQuery

variable {ctx : Context}

theorem alike_keyCondition {f : Field} {part other : String} {p q : Predicate}
    (compiled : keyCondition ctx f part = .ok p)
    (otherCompiled : keyCondition ctx f other = .ok q) : p.Alike q := by
  obtain ⟨g, _, _, resolved, _, _, _, association, formula⟩ := keyCondition_eq_ok compiled
  obtain ⟨g', _, _, otherResolved, _, _, _, otherAssociation, otherFormula⟩ :=
    keyCondition_eq_ok otherCompiled
  rw [resolved] at otherResolved
  cases otherResolved
  rw [Predicate.Alike, Predicate.erased, Predicate.erased, association, otherAssociation, formula,
    otherFormula]
  rfl

/-- The trees of two ids are alike. -/
theorem alike_keyTree {id other : String} {tree otherTree : FilterTree Predicate}
    (isTree : keyTree ctx id = .ok tree) (isOther : keyTree ctx other = .ok otherTree) :
    tree.Alike otherTree := by
  rw [keyTree] at isTree isOther
  split at isTree
  next asMany =>
    split at isOther
    next otherAsMany =>
      obtain ⟨leaves, areLeaves, rfl⟩ := Except.map_eq_ok.1 isTree
      obtain ⟨others, areOthers, rfl⟩ := Except.map_eq_ok.1 isOther
      -- both ids are cut into as many parts as there are key fields
      have sameKeys : List.Forall₂ (fun pair other : Field × String => pair.1 = other.1)
          (ctx.collection.keyFields.zip (idParts ctx.collection.keyFields.length id))
          (ctx.collection.keyFields.zip (idParts ctx.collection.keyFields.length other)) := by
        refine List.forall₂_map_left_iff.1 (List.forall₂_map_right_iff.1 ?_)
        rw [List.map_fst_zip asMany.ge, List.map_fst_zip otherAsMany.ge, List.forall₂_eq_eq_eq]
      refine FilterTree.alike_all (FilterTree.forall₂_alike_leaves
        (forall₂_of_mapM sameKeys ?_ areLeaves areOthers))
      rintro ⟨key, part⟩ ⟨_, otherPart⟩ p q rfl
      exact alike_keyCondition
    next => cases isOther
  next => cases isTree

end RecordQuery

/-! ## Statements -/

/-- The erased statements of a list have the erased tables and condition. -/
theorem ListParts.erased_calls (p : ListParts) (c : Collection) :
    (p.calls c).map (·.statement.erased) =
      [({ p with base := p.base.erased }.statements c).count,
        ({ p with base := p.base.erased }.statements c).page] := rfl

theorem RecordParts.erased_statement (p : RecordParts) (c : Collection) :
    (p.statement c).erased = { p with base := p.base.erased }.statement c := rfl

theorem StatParts.erased_pie (p : StatParts) :
    p.pie.erased = { p with base := p.base.erased }.pie := rfl

theorem StatParts.erased_line (p : StatParts) :
    p.line.erased = { p with base := p.base.erased }.line := by
  have restricted := p.base.erased_restrict (.isNotNull p.key.ref)
  exact congrArg (fun s : Select => { s with
    outputs := [(Line.slot p.key, bucketAlias), (StatQuery.figure p.summed, valueAlias)]
    groups := [Line.slot p.key]
    order := [(.output (Line.slot p.key), .ascending)] }) restricted

section
variable {d : Sql.Dialect} {now : Instant}

namespace ListQuery

/-- The context of a list at an instant. -/
def context [ZoneDatabase] (q : ListQuery) (d : Sql.Dialect)
    (now : Instant) : Except Error Context :=
  Context.make q.registry q.collection d q.params.timezone now q.settings

/-- The list with other filters, and that of another record when it is that of one. -/
def replace (q : ListQuery) (filters : FilterSpec) (id : String) : ListQuery :=
  { q with
    params := { q.params with filters }
    parent := q.parent.map fun scope => { scope with recordId := id } }

variable {q other : ListQuery} {filters : FilterSpec} {id : String}

theorem eq_replace_of_ofCollection {registry : Registry} {collection : String}
    {params : ListParams} {settings : Settings}
    (asked : ofCollection registry collection params settings = .ok q)
    (otherAsked : ofCollection registry collection { params with filters } settings = .ok other)
    (id : String) : q.params = params ∧ other = q.replace filters id := by
  obtain ⟨c, declared, rfl⟩ := Except.map_eq_ok.1 asked
  obtain ⟨c', otherDeclared, rfl⟩ := Except.map_eq_ok.1 otherAsked
  cases declared.symm.trans otherDeclared
  exact ⟨rfl, rfl⟩

theorem eq_replace_of_ofParent {registry : Registry} {collection recordId association : String}
    {params : ListParams} {settings : Settings}
    (asked : ofParent registry collection recordId association params settings = .ok q)
    (otherAsked : ofParent registry collection id association { params with filters } settings =
      .ok other) : q.params = params ∧ other = q.replace filters id := by
  obtain ⟨c, declared, asked⟩ := Except.bind_eq_ok.1 asked
  obtain ⟨c', otherDeclared, otherAsked⟩ := Except.bind_eq_ok.1 otherAsked
  cases declared.symm.trans otherDeclared
  obtain ⟨link, associated, asked⟩ := Except.bind_eq_ok.1 asked
  obtain ⟨link', otherAssociated, otherAsked⟩ := Except.bind_eq_ok.1 otherAsked
  cases associated.symm.trans otherAssociated
  split at asked
  next => cases asked
  next isHas =>
    rw [if_neg isHas] at otherAsked
    obtain ⟨target, reaches, asked⟩ := Except.bind_eq_ok.1 asked
    obtain ⟨target', otherReaches, otherAsked⟩ := Except.bind_eq_ok.1 otherAsked
    cases reaches.symm.trans otherReaches
    split at asked
    next => cases asked
    next foreignKey isKey =>
      rw [isKey] at otherAsked
      cases asked
      cases otherAsked
      exact ⟨rfl, rfl⟩

theorem alike_withParent {ctx : Context} {parent : Option ParentScope}
    {tree otherTree within otherWithin : FilterTree Predicate} (alike : tree.Alike otherTree)
    (isWithin : withParent ctx parent tree = .ok within)
    (isOther : withParent ctx (parent.map fun scope => { scope with recordId := id }) otherTree =
      .ok otherWithin) : within.Alike otherWithin := by
  cases parent with
  | none =>
      cases isWithin
      cases isOther
      exact alike
  | some scope =>
      obtain ⟨belongs, isBelongs, rfl⟩ := Except.map_eq_ok.1 isWithin
      obtain ⟨otherBelongs, isOtherBelongs, rfl⟩ := Except.map_eq_ok.1 isOther
      have belongsAlike := Context.alike_compileEquals isBelongs isOtherBelongs
      exact FilterTree.alike_all
        (.cons (FilterTree.alike_leaf belongsAlike) (.cons alike .nil))

theorem HasParts.erased_calls [ZoneDatabase] {p other : ListParts} (parts : q.HasParts d now p)
    (otherParts : (q.replace filters id).HasParts d now other)
    (alike : p.context.FiltersAlike q.params.filters filters) :
    (p.calls q.collection).map (·.statement.erased) =
      (other.calls q.collection).map (·.statement.erased) := by
  obtain ⟨ctx, tree, within, sort, projections, window, base⟩ := p
  obtain ⟨otherCtx, otherTree, otherWithin, otherSort, otherProjections, otherWindow, otherBase⟩ :=
    other
  cases parts.context_eq.symm.trans otherParts.context_eq
  cases parts.sort_eq.symm.trans otherParts.sort_eq
  cases parts.projections_eq.symm.trans otherParts.projections_eq
  cases parts.window_eq.symm.trans otherParts.window_eq
  have treesAlike := Context.alike_compose alike parts.filters_eq otherParts.filters_eq
  have sameBase : base.erased = otherBase.erased := Context.erased_baseSelect
    (alike_withParent treesAlike parts.tree_eq otherParts.tree_eq) parts.base_eq otherParts.base_eq
  rw [ListParts.erased_calls, ListParts.erased_calls, sameBase]
  rfl

end ListQuery

namespace RecordQuery

variable {q : RecordQuery} {id : String}

theorem eq_of_ofCollection {registry : Registry} {collection recordId : String}
    {settings : Settings} {other : RecordQuery}
    (asked : ofCollection registry collection recordId settings = .ok q)
    (otherAsked : ofCollection registry collection id settings = .ok other) :
    other = { q with recordId := id } := by
  obtain ⟨c, declared, rfl⟩ := Except.map_eq_ok.1 asked
  obtain ⟨c', otherDeclared, rfl⟩ := Except.map_eq_ok.1 otherAsked
  cases declared.symm.trans otherDeclared
  rfl

theorem HasParts.erased_statement [ZoneDatabase] {p other : RecordParts}
    (parts : q.HasParts d now p)
    (otherParts : ({ q with recordId := id } : RecordQuery).HasParts d now other) :
    (p.statement q.collection).erased = (other.statement q.collection).erased := by
  obtain ⟨ctx, tree, base⟩ := p
  obtain ⟨otherCtx, otherTree, otherBase⟩ := other
  cases parts.context_eq.symm.trans otherParts.context_eq
  have sameBase : base.erased = otherBase.erased := Context.erased_baseSelect
    (alike_keyTree parts.tree_eq otherParts.tree_eq) parts.base_eq otherParts.base_eq
  rw [RecordParts.erased_statement, RecordParts.erased_statement, sameBase]
  rfl

end RecordQuery

namespace StatQuery

variable {q : StatQuery} {filters : List StatFilter}

/-- The statistic with other filters. -/
def replace (q : StatQuery) (filters : List StatFilter) : StatQuery :=
  { q with request := { q.request with filters } }

theorem eq_replace_of_ofRequest {kind : StatKind} {registry : Registry} {request : StatRequest}
    {settings : Settings} {q other : StatQuery}
    (asked : ofRequest kind registry request settings = .ok q)
    (otherAsked : ofRequest kind registry { request with filters } settings = .ok other) :
    q.request = request ∧ other = q.replace filters := by
  obtain ⟨_, _, asked⟩ := Except.bind_eq_ok.1 asked
  obtain ⟨_, _, otherAsked⟩ := Except.bind_eq_ok.1 otherAsked
  obtain ⟨c, declared, asked⟩ := Except.bind_eq_ok.1 asked
  obtain ⟨c', otherDeclared, otherAsked⟩ := Except.bind_eq_ok.1 otherAsked
  cases declared.symm.trans otherDeclared
  cases asked
  cases otherAsked
  exact ⟨rfl, rfl⟩

theorem HasParts.erased_statements [ZoneDatabase]
    {keyField : Context → StatRequest → Except Error ResolvedField} {p other : StatParts}
    (parts : q.HasParts d now keyField p)
    (otherParts : (q.replace filters).HasParts d now keyField other)
    (unfiltered : ∀ ctx, keyField ctx q.request = keyField ctx (q.replace filters).request)
    (alike : p.context.FiltersAlike q.request.filterSpec (q.replace filters).request.filterSpec) :
    p.pie.erased = other.pie.erased ∧ p.line.erased = other.line.erased := by
  obtain ⟨ctx, key, summed, tree, base⟩ := p
  obtain ⟨otherCtx, otherKey, otherSummed, otherTree, otherBase⟩ := other
  cases parts.context_eq.symm.trans otherParts.context_eq
  cases (parts.key_eq.symm.trans (unfiltered ctx)).trans otherParts.key_eq
  cases parts.summed_eq.symm.trans otherParts.summed_eq
  have treesAlike := Context.alike_compose alike parts.tree_eq otherParts.tree_eq
  have sameBase : base.erased = otherBase.erased :=
    Context.erased_baseSelect treesAlike parts.base_eq otherParts.base_eq
  constructor
  · rw [StatParts.erased_pie, StatParts.erased_pie, sameBase]
    rfl
  · rw [StatParts.erased_line, StatParts.erased_line, sameBase]
    rfl

end StatQuery

end

/-! ## Requests -/

namespace Request

/-- What a request keeps the records by. -/
def filters : Request → FilterSpec
  | list _ params | children _ _ _ params => params.filters
  | record .. => {}
  | pie request | line request => request.filterSpec

/-- Two requests ask for the same of one collection, but for their filters and for the id of a
record. -/
inductive SameApart : Request → Request → Prop where
  | list {collection : String} {params : ListParams} (filters : FilterSpec) :
      SameApart (.list collection params) (.list collection { params with filters })
  | children {collection id association : String} {params : ListParams} (other : String)
      (filters : FilterSpec) :
      SameApart (.children collection id association params)
        (.children collection other association { params with filters })
  | record {collection id : String} (other : String) :
      SameApart (.record collection id) (.record collection other)
  | pie {request : StatRequest} (filters : List StatFilter) :
      SameApart (.pie request) (.pie { request with filters })
  | line {request : StatRequest} (filters : List StatFilter) :
      SameApart (.line request) (.line { request with filters })

section
variable (registry : Registry) (settings : Settings) (d : Sql.Dialect) (now : Instant)

/-- What a request is read against. -/
def context [ZoneDatabase] : Request → Except Error Context
  | list collection params =>
      ListQuery.ofCollection registry collection params settings >>= fun q => q.context d now
  | children collection recordId association params =>
      ListQuery.ofParent registry collection recordId association params settings >>= fun q =>
        q.context d now
  | record collection recordId =>
      (RecordQuery.ofCollection registry collection recordId settings).map fun q =>
        q.contextOf d now
  | pie request => StatQuery.ofRequest .pie registry request settings >>= fun q => q.context d now
  | line request => StatQuery.ofRequest .line registry request settings >>= fun q => q.context d now

end

variable {registry : Registry} {settings : Settings} {d : Sql.Dialect} {now : Instant}

/-- The erased statements of requests with alike filters are the same. -/
theorem SameApart.map_erased [ZoneDatabase] {r other : Request} (same : r.SameApart other)
    (alike : ∀ ctx, r.context registry settings d now = .ok ctx →
      ctx.FiltersAlike r.filters other.filters)
    {plan otherPlan : List Call} (compiles : r.Compiles registry settings d now plan)
    (otherCompiles : other.Compiles registry settings d now otherPlan) :
    plan.map (·.statement.erased) = otherPlan.map (·.statement.erased) := by
  -- what the request is apart from its filters gives both the same context and parts
  cases same with
  | list filters =>
      cases compiles with
      | @list _ _ q p asked parts =>
          cases otherCompiles with
          | list otherAsked otherParts =>
              obtain ⟨rfl, rfl⟩ := ListQuery.eq_replace_of_ofCollection asked otherAsked ""
              have inContext := alike p.context
                (Except.bind_eq_ok.2 ⟨q, asked, parts.context_eq⟩)
              exact parts.erased_calls otherParts inContext
  | children otherId filters =>
      cases compiles with
      | @children _ _ _ _ q p asked parts =>
          cases otherCompiles with
          | children otherAsked otherParts =>
              obtain ⟨rfl, rfl⟩ := ListQuery.eq_replace_of_ofParent asked otherAsked
              have inContext := alike p.context
                (Except.bind_eq_ok.2 ⟨q, asked, parts.context_eq⟩)
              exact parts.erased_calls otherParts inContext
  | record otherId =>
      cases compiles with
      | record asked parts =>
          cases otherCompiles with
          | record otherAsked otherParts =>
              cases RecordQuery.eq_of_ofCollection asked otherAsked
              exact congrArg (fun s => [s]) (parts.erased_statement otherParts)
  | pie filters =>
      cases compiles with
      | @pie _ q p asked parts =>
          cases otherCompiles with
          | pie otherAsked otherParts =>
              obtain ⟨rfl, rfl⟩ := StatQuery.eq_replace_of_ofRequest asked otherAsked
              have inContext := alike p.context
                (Except.bind_eq_ok.2 ⟨q, asked, parts.context_eq⟩)
              have erased := parts.erased_statements otherParts (fun _ => rfl) inContext
              exact congrArg (fun s => [s]) erased.1
  | line filters =>
      cases compiles with
      | @line _ q p _ asked parts =>
          cases otherCompiles with
          | line otherAsked otherParts =>
              obtain ⟨rfl, rfl⟩ := StatQuery.eq_replace_of_ofRequest asked otherAsked
              have inContext := alike p.context
                (Except.bind_eq_ok.2 ⟨q, asked, parts.context_eq⟩)
              have erased := parts.erased_statements otherParts (fun _ => rfl) inContext
              exact congrArg (fun s => [s]) erased.2

end Request

/-- Values never shape a statement.  Two requests that compile and differ in filter values,
search texts and record ids alone have the same statements, but for the values that are bound
to them, and the same texts of statements, as long as the values choose the same operators and
the search texts are both blank or have the same fields take part. -/
theorem values_never_shape_statements [ZoneDatabase] {registry : Registry} {settings : Settings}
    {d : Sql.Dialect} {now : Instant} {r other : Request} (same : r.SameApart other)
    (alike : ∀ ctx, r.context registry settings d now = .ok ctx →
      ctx.FiltersAlike r.filters other.filters)
    {plan otherPlan : List Call} (compiles : r.Compiles registry settings d now plan)
    (otherCompiles : other.Compiles registry settings d now otherPlan) :
    plan.map (·.statement.erased) = otherPlan.map (·.statement.erased) ∧
      plan.map (fun call => (call.statement.statement d).sql) =
        otherPlan.map fun call => (call.statement.statement d).sql := by
  have sameStatements := same.map_erased alike compiles otherCompiles
  refine ⟨sameStatements, ?_⟩
  have texts : ∀ calls : List Call, calls.map (fun call => (call.statement.statement d).sql) =
      (calls.map (·.statement.erased)).map fun s => (s.statement d).sql := by
    intro calls
    rw [List.map_map]
    exact List.map_congr_left fun call _ => (call.statement.sql_erased d).symm
  rw [texts, texts, sameStatements]

namespace Sample

/-- A page of the articles whose title matches a value and that are found by a text. -/
def sought (value text : String) : ListParams where
  filters :=
    { entries := .ofList [("any", .group (.ofList [("title", value)]))]
      search := some text }

/-- How many articles with a title that matches a value each author has written. -/
def authorsOf (value : String) : StatRequest where
  collection := "article"
  kind := .pie
  groupField := some "author.name"
  filters := [⟨"title", value⟩]

theorem chooseAlike_title : articles.ChooseAlike "title" "*sea*" "*'*" := by
  intro f resolved
  have isTitle : articles.resolve "title" = .ok title := rfl
  cases isTitle.symm.trans resolved
  decide

theorem filtersAlike_sought :
    articles.FiltersAlike (sought "*sea*" "boat").filters (sought "*'*" "$1").filters where
  entries_alike := .cons ⟨rfl, .group (.cons ⟨rfl, chooseAlike_title⟩ .nil)⟩ .nil
  combinator_eq := rfl
  extended_eq := rfl
  search_alike := by
    have isText : (sought "*sea*" "boat").filters.searchText? = some "boat" := by decide
    have isOther : (sought "*'*" "$1").filters.searchText? = some "$1" := by decide
    rw [isText, isOther]
    refine .some ?_
    intro path _ f _
    rw [ResolvedField.isSome_searchOperand? (by decide) (by decide),
      ResolvedField.isSome_searchOperand? (by decide) (by decide)]

/-- A value and a text that look like parts of a statement are bound like any other, and so is
the id of the author. -/
theorem values_never_shape_statements_of_articles :
    (∃ plan otherPlan,
      (Request.children "author" "1" "articles" (sought "*sea*" "boat")).Compiles registry {}
        .sqlite ⟨0, 0⟩ plan ∧
      (Request.children "author" "2" "articles" (sought "*'*" "$1")).Compiles registry {}
        .sqlite ⟨0, 0⟩ otherPlan ∧
      plan.map (fun call => (call.statement.statement .sqlite).sql) =
        otherPlan.map (fun call => (call.statement.statement .sqlite).sql) ∧
      plan.map (·.statement) ≠ otherPlan.map (·.statement)) ∧
    ∃ plan otherPlan,
      (Request.pie (authorsOf "*sea*")).Compiles registry {} .sqlite ⟨0, 0⟩ plan ∧
      (Request.pie (authorsOf "*'*")).Compiles registry {} .sqlite ⟨0, 0⟩ otherPlan ∧
      plan.map (fun call => (call.statement.statement .sqlite).sql) =
        otherPlan.map fun call => (call.statement.statement .sqlite).sql := by
  constructor
  · have compiled : ListQuery.statements ⟨registry, article.toCollection, sought "*sea*" "boat", {},
        some ⟨"author_id", "1"⟩⟩ .sqlite ⟨0, 0⟩ = .ok _ := rfl
    have otherCompiled : ListQuery.statements ⟨registry, article.toCollection, sought "*'*" "$1",
        {}, some ⟨"author_id", "2"⟩⟩ .sqlite ⟨0, 0⟩ = .ok _ := rfl
    obtain ⟨p, parts, made⟩ := ListQuery.statements_eq_ok.1 compiled
    obtain ⟨other, otherParts, otherMade⟩ := ListQuery.statements_eq_ok.1 otherCompiled
    have compiles : (Request.children "author" "1" "articles" (sought "*sea*" "boat")).Compiles
        registry {} .sqlite ⟨0, 0⟩ (p.calls article.toCollection) := .children rfl parts
    have otherCompiles : (Request.children "author" "2" "articles" (sought "*'*" "$1")).Compiles
        registry {} .sqlite ⟨0, 0⟩ (other.calls article.toCollection) := .children rfl otherParts
    have same := values_never_shape_statements (.children "2" _) (fun ctx isContext => ?_) compiles
      otherCompiles
    · refine ⟨_, _, compiles, otherCompiles, same.2, ?_⟩
      rw [ListParts.calls, ListParts.calls, made, otherMade]
      decide
    · cases isContext
      exact filtersAlike_sought
  · have compiled : Pie.statement ⟨registry, article.toCollection, authorsOf "*sea*", {}⟩ .sqlite
        ⟨0, 0⟩ = .ok _ := rfl
    have otherCompiled : Pie.statement ⟨registry, article.toCollection, authorsOf "*'*", {}⟩ .sqlite
        ⟨0, 0⟩ = .ok _ := rfl
    obtain ⟨p, parts, _⟩ := Pie.statement_eq_ok.1 compiled
    obtain ⟨other, otherParts, _⟩ := Pie.statement_eq_ok.1 otherCompiled
    have compiles : (Request.pie (authorsOf "*sea*")).Compiles registry {} .sqlite ⟨0, 0⟩ _ :=
      .pie rfl parts
    have otherCompiles : (Request.pie (authorsOf "*'*")).Compiles registry {} .sqlite ⟨0, 0⟩ _ :=
      .pie rfl otherParts
    have same := values_never_shape_statements (.pie [⟨"title", "*'*"⟩]) (fun ctx isContext => ?_)
      compiles otherCompiles
    · exact ⟨_, _, compiles, otherCompiles, same.2⟩
    · cases isContext
      exact Context.filtersAlike_filterSpec (.cons ⟨rfl, chooseAlike_title⟩ .nil)

end Sample

end Backoffice
