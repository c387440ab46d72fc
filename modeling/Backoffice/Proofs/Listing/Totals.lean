import Backoffice.Proofs.Filter.Lowering
import Backoffice.Proofs.Listing.Statements
import Backoffice.Proofs.Sample
import Backoffice.Proofs.Schema.Names
import Backoffice.Proofs.Sql.Database

/-!
# Totals of lists

Where a database keeps the keys that the declarations speak of, an association reaches at
most one record, so the joins of a list give every record of the collection exactly one
joined row.  The number of records that a list counts is then the number of those which the
filters match, whatever is joined for the order and for the requested fields.
-/

namespace Backoffice

open Sql (Database Engine JoinedRow Select TableRow)

variable {V : Type}

/-! ## Keys -/

/-- A database keeps the keys of some declarations: no two records have the same values in
all columns of the primary key, and no two have the same foreign key where a record of
another collection has one of them. -/
structure Sql.Engine.KeepsKeys (e : Engine V) (db : Database V) (ds : List Declaration) : Prop where
  primary : ∀ d ∈ ds, (db d.table).Pairwise fun row other =>
    ∃ c ∈ d.columns, c.primaryKey = true ∧ e.equal (row c.column) (other c.column) = false
  /-- The foreign keys of records that a record has one of. -/
  hasOne : ∀ d ∈ ds, ∀ a ∈ d.associations, a.kind = .hasOne → ∀ t ∈ ds, t.name = a.target →
    e.Unique (db t.table) a.foreignKey

/-- The single key column of a collection is that of the only column of the primary key. -/
theorem Declaration.eq_keyColumn {d : Declaration} (differ : (d.columns.map (·.field)).Nodup)
    (simple : d.toCollection.isComposite = false) {key : String}
    (isKey : d.toCollection.keyColumn = .ok key) :
    ∀ c ∈ d.columns, c.primaryKey = true → c.column = key := by
  obtain ⟨k, single, rfl⟩ := Collection.keyColumn_eq_ok.1 isKey
  have isKeyField : k ∈ d.toCollection.keyFields := by
    rw [single]
    exact List.mem_singleton_self k
  obtain ⟨name, isName, found⟩ := List.mem_filterMap.1 isKeyField
  obtain ⟨isField, rfl⟩ := Collection.field_of_field? found
  obtain ⟨column, isColumn, made⟩ := List.mem_filterMap.1 isField
  intro c member primary
  have named : c.field ∈ d.toCollection.primaryKeys :=
    List.mem_map_of_mem (List.mem_filter.2 ⟨member, primary⟩)
  obtain ⟨only, isOnly⟩ := Collection.exists_singleKey (List.ne_nil_of_mem named) simple
  rw [isOnly, List.mem_singleton] at named isName
  obtain ⟨hasName, hasColumn⟩ := Column.of_field? made
  have sameName : c.field = column.field := by
    rw [named, ← isName, hasName]
  rw [hasColumn, List.inj_on_of_nodup_map differ member isColumn sameName]

/-! ## Associations that find one record -/

namespace Association

variable {a : Association} {c target : Collection} {key : String}

theorem looksUp_join (apart : c.table ≠ a.name) :
    (a.join c target key).LooksUp c.table (a.ownColumn key) (a.otherColumn key) := by
  refine ⟨by rwa [knownAs_join], ?_⟩
  rw [join]
  cases a.kind with
  | belongsTo => exact .inl ⟨rfl, rfl⟩
  | hasOne | hasMany => exact .inr ⟨rfl, rfl⟩

end Association

section
variable {e : Engine V} {db : Database V} {ds : List Declaration} {r : Registry}
variable (differ : ∀ d ∈ ds, (d.columns.map (·.field)).Nodup) (keeps : e.KeepsKeys db ds)
variable (built : Registry.build ds = .ok r)

include differ keeps built

theorem Registry.unique_keyColumn {name : String} {c : Collection}
    (found : r.collection name = .ok c) (simple : c.isComposite = false) {key : String}
    (isKey : c.keyColumn = .ok key) :
    e.Unique (db c.table) key := by
  obtain ⟨d, member, _, rfl, _⟩ := exists_declaration built found
  refine (keeps.primary d member).imp ?_
  rintro row other ⟨column, isColumn, primary, unequal⟩
  rwa [← Declaration.eq_keyColumn (differ d member) simple isKey column isColumn primary]

/-- In the column that a to-one association looks for, no value stands twice. -/
theorem Registry.unique_otherColumn {c target : Collection} (held : c ∈ r.toList) {a : Association}
    (member : a ∈ c.associations) (toOne : a.isToOne = true)
    (reaches : r.collection a.target = .ok target) {key : String}
    (isKey : (a.referenced c target).keyColumn = .ok key) :
    e.Unique (db target.table) (a.otherColumn key) := by
  obtain ⟨linked, isLinked, link⟩ := exists_link built held member
  cases reaches.symm.trans isLinked
  have simple := link.simple
  rw [Association.referenced] at isKey simple
  rw [Association.otherColumn]
  cases kind : a.kind with
  | belongsTo =>
      rw [kind] at isKey simple
      exact unique_keyColumn differ keeps built reaches simple isKey
  | hasOne =>
      obtain ⟨name, found⟩ := mem_toList.1 held
      obtain ⟨d, isDeclaration, _, rfl, _⟩ := exists_declaration built found
      obtain ⟨t, isTarget, named, rfl, _⟩ := exists_declaration built reaches
      exact keeps.hasOne d isDeclaration a member kind t isTarget named
  | hasMany => simp [Association.isToOne, kind] at toOne

end

/-! ## Rows with the records they reach -/

/-- The association of a name, the collection it reaches, and the key column that its
foreign key refers to. -/
def Context.linkOf (ctx : Context) (name : String) :
    Except Error (Association × Collection × String) := do
  let a ← ctx.collection.association name
  let target ← ctx.registry.collection a.target
  let key ← (a.referenced ctx.collection target).keyColumn
  return (a, target, key)

/-- A record with the records that its associations reach, under their names.  They are
found by the foreign key and the key it refers to; where there is none, all is null. -/
def Context.linkedRow (e : Engine V) (db : Database V) (ctx : Context) (row : TableRow V) :
    JoinedRow V := fun name =>
  if name = ctx.collection.table then row
  else match ctx.linkOf name with
    | .ok (a, target, key) => e.find (db target.table) (row (a.ownColumn key)) (a.otherColumn key)
    | .error _ => .null

/-- The number of records of the collection that a tree is true of. -/
def Context.countMatches (e : Engine V) (db : Database V) (ctx : Context)
    (tree : FilterTree Predicate) : Nat :=
  (db ctx.collection.table).countP fun row =>
    tree.truth (fun p => p.formula.truth (e.reading (ctx.linkedRow e db row))) = .yes

namespace Context

variable {e : Engine V} {db : Database V} {ctx : Context} {name : String}

theorem join_eq_ok_iff_linkOf {j : Sql.Join} :
    ctx.join name = .ok j ↔ ∃ a target key,
      ctx.linkOf name = .ok (a, target, key) ∧ a.join ctx.collection target key = j := by
  rw [join_eq_ok]
  simp only [linkOf, Except.bind_eq_ok, pure, Except.pure, Except.ok.injEq, Prod.mk.injEq]
  constructor
  · rintro ⟨a, target, key, found, reaches, isKey, isJoin⟩
    exact ⟨a, target, key, ⟨a, found, target, reaches, key, isKey, rfl, rfl, rfl⟩, isJoin⟩
  · rintro ⟨a, target, key, ⟨_, found, _, reaches, _, isKey, rfl, rfl, rfl⟩, isJoin⟩
    exact ⟨_, _, _, found, reaches, isKey, isJoin⟩

/-! ## Joined rows of a base -/

section
variable {ds : List Declaration} (built : Registry.build ds = .ok ctx.registry)
variable (held : ctx.collection ∈ ctx.registry.toList) (names : ctx.collection.NamesTables)
variable (differ : ∀ d ∈ ds, (d.columns.map (·.field)).Nodup)
variable (isEquality : e.IsEquality) (keeps : e.KeepsKeys db ds)

include built held names differ keeps in
/-- The join of a to-one association looks up a column in which no value stands twice. -/
theorem findsOne_join (isName : ctx.Joins name) {j : Sql.Join} (joined : ctx.join name = .ok j) :
    ∃ own other, j.LooksUp ctx.collection.table own other ∧ e.Unique (db j.table) other := by
  obtain ⟨a, target, link, rfl⟩ := isName
  obtain ⟨b, reached, key, found, reaches, isKey, rfl⟩ := join_eq_ok.1 joined
  cases link.found.symm.trans found
  have member := (Collection.of_association found).1
  refine ⟨a.ownColumn key, a.otherColumn key, Association.looksUp_join (table_ne names found), ?_⟩
  rw [Association.table_join]
  exact Registry.unique_otherColumn differ keeps built held member link.toOne reaches isKey

include isEquality in
/-- Beside a record, each join puts the record that its association reaches. -/
theorem beside_eq_linkedRow {listed : List String} {joins : List Sql.Join}
    (joined : listed.mapM ctx.join = .ok joins)
    (apart : (ctx.collection.table :: joins.map (·.knownAs)).Nodup) (row : TableRow V)
    (isName : name = ctx.collection.table ∨ name ∈ joins.map (·.knownAs)) :
    Select.beside e db joins (JoinedRow.single ctx.collection.table row) name =
      ctx.linkedRow e db row name := by
  obtain ⟨others, found⟩ := Select.beside_spec isEquality db apart
    (JoinedRow.single ctx.collection.table row)
  have isRow : JoinedRow.single ctx.collection.table row ctx.collection.table = row :=
    Function.update_self ..
  by_cases isTable : name = ctx.collection.table
  · rw [isTable, others _ (List.nodup_cons.1 apart).1, linkedRow, if_pos rfl, isRow]
  · have isJoined := isName.resolve_left isTable
    obtain ⟨j, member, rfl⟩ := List.mem_map.1 isJoined
    obtain ⟨other, _, isJoin⟩ := exists_item_of_mem joined member
    rw [← knownAs_of_join isJoin] at isJoin
    obtain ⟨a, target, key, isLink, isJoin⟩ := join_eq_ok_iff_linkOf.1 isJoin
    rw [linkedRow, if_neg isTable, isLink]
    subst isJoin
    rw [Association.knownAs_join] at isTable
    have looksUp : (a.join ctx.collection target key).LooksUp _ _ _ :=
      Association.looksUp_join (Ne.symm isTable)
    rw [found _ member _ _ looksUp, isRow, Association.table_join]

variable {tree : FilterTree Predicate} {others : List String} {s base : Select}
variable (compiled : ∀ p ∈ tree.leaves, ctx.IsCompiled p)
variable (areJoins : ∀ name ∈ others, ctx.Joins name)
variable (selected : ctx.baseSelect tree others = .ok base)

include built held names differ isEquality keeps compiled areJoins selected

/-- Over the base of a request, the rows of the collection have one joined row each. -/
theorem exists_joinedRows_eq_map (sameTable : s.table = base.table)
    (sameJoins : s.joins = base.joins) :
    ∃ besides : TableRow V → JoinedRow V,
      s.joinedRows e db = (db ctx.collection.table).map besides ∧
      (∀ row, besides row ctx.collection.table = row) ∧
      ∀ row ref, ctx.IsThere (base.joins.map (·.knownAs)) ref →
        (besides row).value ref = (ctx.linkedRow e db row).value ref := by
  have isBase := isBase_of_baseSelect built held compiled areJoins selected
  obtain ⟨joins, joined, rfl⟩ := baseSelect_eq_ok.1 selected
  have apart : (ctx.collection.table :: joins.map (·.knownAs)).Nodup :=
    nodup_tableNames built held names compiled areJoins selected
  have findsOne : Select.FindsOne e db s.table s.joins := by
    rw [sameTable, sameJoins]
    intro j member
    obtain ⟨name, _, isJoin⟩ := exists_item_of_mem joined member
    have isName : name ∈ joins.map (·.knownAs) := by
      rw [← knownAs_of_join isJoin]
      exact List.mem_map_of_mem member
    have isJoined := joins_of_names compiled areJoins ((isBase.joined_iff name).1 isName)
    exact findsOne_join built held names differ keeps isJoined isJoin
  have agree : ∀ row name, name = ctx.collection.table ∨ name ∈ joins.map (·.knownAs) →
      Select.beside e db joins (JoinedRow.single ctx.collection.table row) name =
        ctx.linkedRow e db row name :=
    fun row _ => beside_eq_linkedRow isEquality joined apart row
  refine ⟨fun row => Select.beside e db joins (JoinedRow.single ctx.collection.table row),
    ?_, fun row => ?_, fun row ref there => ?_⟩
  · rw [Select.joinedRows_eq_map isEquality findsOne, sameTable, sameJoins]
  · refine (agree row _ (.inl rfl)).trans ?_
    rw [linkedRow, if_pos rfl]
  · exact congrFun (agree row _ there.introduced) ref.column

/-- A statement with the condition of the base keeps the joined rows of the records that the
tree is true of, and they have what the records reach in what is joined. -/
theorem exists_besides (sameTable : s.table = base.table) (sameJoins : s.joins = base.joins)
    (sameCondition : s.condition = base.condition) :
    ∃ besides : TableRow V → JoinedRow V,
      s.joinedRows e db = (db ctx.collection.table).map besides ∧
      s.kept e db = ((db ctx.collection.table).filter fun row =>
        tree.truth (fun p => p.formula.truth (e.reading (ctx.linkedRow e db row))) = .yes).map
          besides ∧
      (∀ row, besides row ctx.collection.table = row) ∧
      ∀ row ref, ctx.IsThere (base.joins.map (·.knownAs)) ref →
        (besides row).value ref = (ctx.linkedRow e db row).value ref := by
  have isBase := isBase_of_baseSelect built held compiled areJoins selected
  obtain ⟨besides, isMap, own, agree⟩ := exists_joinedRows_eq_map built held names differ
    isEquality keeps compiled areJoins selected sameTable sameJoins
  have keepsIff : ∀ row, s.Keeps (e.reading (besides row)) ↔
      tree.truth (fun p => p.formula.truth (e.reading (ctx.linkedRow e db row))) = .yes := by
    intro row
    obtain ⟨clause, hasClause⟩ := hasClause_baseSelect selected
    -- the condition reads nothing but what is joined, where the two rows agree
    rw [← hasClause.keeps_iff, Select.Keeps, sameCondition, Select.Keeps]
    refine forall₂_congr fun condition isCondition => ?_
    rw [Sql.Formula.truth_congr fun ref read => agree row ref (isBase.columns ref ?_)]
    refine List.mem_append_right _ ?_
    rw [Select.conditionColumns]
    rw [Option.mem_def] at isCondition
    simpa [isCondition] using read
  refine ⟨besides, isMap, ?_, own, agree⟩
  rw [Select.kept, isMap, List.filter_map]
  congr 1
  refine List.filter_congr fun row _ => ?_
  simp [keepsIff]

theorem exists_kept_eq_map (sameTable : s.table = base.table) (sameJoins : s.joins = base.joins)
    (sameCondition : s.condition = base.condition) :
    ∃ besides : TableRow V → JoinedRow V,
      s.joinedRows e db = (db ctx.collection.table).map besides ∧
      s.kept e db = ((db ctx.collection.table).filter fun row =>
        tree.truth (fun p => p.formula.truth (e.reading (ctx.linkedRow e db row))) = .yes).map
          besides ∧
      ∀ row, besides row ctx.collection.table = row := by
  obtain ⟨besides, isMap, isKept, own, _⟩ := exists_besides built held names differ isEquality
    keeps compiled areJoins selected sameTable sameJoins sameCondition
  exact ⟨besides, isMap, isKept, own⟩

/-- There are as many rows as records that the tree is true of. -/
theorem length_kept (sameTable : s.table = base.table) (sameJoins : s.joins = base.joins)
    (sameCondition : s.condition = base.condition) :
    (s.kept e db).length = ctx.countMatches e db tree := by
  obtain ⟨besides, _, isKept, _⟩ := exists_kept_eq_map built held names differ isEquality keeps
    compiled areJoins selected sameTable sameJoins sameCondition
  rw [isKept, List.length_map, ← List.countP_eq_length_filter, countMatches]

end

end Context

/-! ## Lists -/

/-- A statement that only counts gives the number of rows it keeps. -/
theorem Sql.Select.given_count {e : Engine V} {db : Database V} {s : Select} {name : String}
    (groups : s.groups = []) (outputs : s.outputs = [(.count, name)]) :
    s.given e db = [[(.number (s.kept e db).length, name)]] := by
  rw [given, grouped, groups, outputs]
  rfl

/-- A statement that makes nothing of several rows gives a row for every row it keeps. -/
theorem Sql.Select.length_given {e : Engine V} {db : Database V} {s : Select}
    (groups : s.groups = []) (single : ∀ output ∈ s.outputs, output.1.isAggregate = false) :
    (s.given e db).length = (s.kept e db).length := by
  have noAggregate : s.outputs.any (·.1.isAggregate) = false := by
    rw [List.any_eq_false]
    intro output member
    rw [single output member]
    exact Bool.false_ne_true
  rw [given, grouped, groups]
  simp [noAggregate]

namespace ListQuery

variable {e : Engine V} {db : Database V} {q : ListQuery} {d : Sql.Dialect} {now : Instant}

theorem HasParts.isAggregate_outputs {p : ListParts} :
    ∀ output ∈ p.projections.flatMap Projection.outputs, output.1.isAggregate = false := by
  intro output member
  obtain ⟨projection, _, isOutput⟩ := List.mem_flatMap.1 member
  obtain ⟨f, _, rfl⟩ := List.mem_map.1 isOutput
  rfl

/-- Sort order, requested fields and page leave the context and the conditions alone. -/
theorem HasParts.tree_eq_of_params [ZoneDatabase] {p p' : ListParts} (parts : q.HasParts d now p)
    {fields : KeyMap String} {sort : Option String} {page : PageParams}
    (parts' :
      { q with params := { q.params with fields, sort, page } : ListQuery }.HasParts d now p') :
    p'.context = p.context ∧ p'.tree = p.tree := by
  obtain ⟨context, filters, tree, _, _, _, _⟩ := p
  obtain ⟨context', filters', tree', _, _, _, _⟩ := p'
  obtain rfl := Except.ok.inj (parts.context_eq.symm.trans parts'.context_eq)
  obtain rfl := Except.ok.inj (parts.filters_eq.symm.trans parts'.filters_eq)
  obtain rfl := Except.ok.inj (parts.tree_eq.symm.trans parts'.tree_eq)
  exact ⟨rfl, rfl⟩

section
variable {ds : List Declaration} {p : ListParts}
variable (built : Registry.build ds = .ok p.context.registry)
variable (held : p.context.collection ∈ p.context.registry.toList)
variable (names : p.context.collection.NamesTables)
variable (differ : ∀ d ∈ ds, (d.columns.map (·.field)).Nodup)
variable (isEquality : e.IsEquality) (keeps : e.KeepsKeys db ds)

include built held names differ isEquality keeps

theorem HasParts.map_joinedRows [ZoneDatabase] (parts : q.HasParts d now p) :
    ∀ s ∈ [(p.statements q.collection).count, (p.statements q.collection).page],
      (s.joinedRows e db).map (fun row => row p.context.collection.table) =
        db p.context.collection.table := by
  have ofBase : ∀ s : Select, s.table = p.base.table → s.joins = p.base.joins →
      (s.joinedRows e db).map (fun row => row p.context.collection.table) =
        db p.context.collection.table := by
    intro s sameTable sameJoins
    obtain ⟨besides, isMap, own, _⟩ := Context.exists_joinedRows_eq_map built held names differ
      isEquality keeps parts.isCompiled (joins_others built held names parts) parts.base_eq
      sameTable sameJoins
    rw [isMap, List.map_map, Function.comp_def, funext own]
    exact List.map_id _
  intro s member
  rcases List.mem_pair.1 member with rfl | rfl
  · exact ofBase _ rfl rfl
  · exact ofBase _ rfl rfl

/-- The count is the number of records that the conditions are true of, and there are as many
rows to be put on pages. -/
theorem HasParts.given_statements [ZoneDatabase] (parts : q.HasParts d now p) :
    (p.statements q.collection).count.given e db =
        [[(.number (p.context.countMatches e db p.tree), countAlias)]] ∧
      ((p.statements q.collection).page.given e db).length =
        p.context.countMatches e db p.tree := by
  have length_kept := fun (s : Select) => Context.length_kept (s := s) built held names differ
    isEquality keeps parts.isCompiled (joins_others built held names parts) parts.base_eq
  obtain ⟨joins, _, isBase⟩ := Context.baseSelect_eq_ok.1 parts.base_eq
  have noGroups : p.base.groups = [] := by rw [← isBase]
  constructor
  · rw [← length_kept (p.statements q.collection).count rfl rfl rfl]
    exact Select.given_count noGroups rfl
  · rw [← length_kept (p.statements q.collection).page rfl rfl rfl]
    exact Select.length_given noGroups HasParts.isAggregate_outputs

end

end ListQuery

/-- Where field names differ and the names of tables do, and where the database keeps its
keys, joins neither multiply nor drop records: the count of a list is the number of records
that its conditions are true of, as many rows are there to be put on pages, and sort order,
requested fields and page do not change it. -/
theorem totals_count_records [ZoneDatabase] {ds : List Declaration} {r : Registry}
    (built : Registry.build ds = .ok r) (names : ∀ c ∈ r.toList, c.NamesTables)
    (differ : ∀ d ∈ ds, (d.columns.map (·.field)).Nodup)
    (e : Engine V) (isEquality : e.IsEquality) (db : Database V) (keeps : e.KeepsKeys db ds)
    {q : ListQuery} (inRegistry : q.registry = r) (held : q.collection ∈ r.toList)
    {d : Sql.Dialect} {now : Instant} {st : ListStatements}
    (compiles : q.statements d now = .ok st) :
    (∀ s ∈ [st.count, st.page],
      (s.joinedRows e db).map (fun row => row q.collection.table) = db q.collection.table) ∧
    (∃ p, q.HasParts d now p ∧
      st.count.given e db = [[(.number (p.context.countMatches e db p.tree), countAlias)]] ∧
      (st.page.given e db).length = p.context.countMatches e db p.tree) ∧
    ∀ fields sort page st',
      { q with params := { q.params with fields, sort, page } : ListQuery }.statements d now =
        .ok st' → st'.count.given e db = st.count.given e db := by
  obtain ⟨p, parts, rfl⟩ := ListQuery.statements_eq_ok.1 compiles
  obtain ⟨sameRegistry, about, _⟩ := Context.of_make parts.context_eq
  subst inRegistry
  have named := names _ held
  rw [← sameRegistry] at built held
  rw [← about] at held named
  have isCount := parts.given_statements built held named differ isEquality keeps
  refine ⟨?_, ⟨p, parts, isCount⟩, fun fields sort page st' compiles' => ?_⟩
  · rw [← about]
    have oneEach := parts.map_joinedRows built held named differ isEquality keeps
    rwa [← about] at oneEach
  · obtain ⟨p', parts', rfl⟩ := ListQuery.statements_eq_ok.1 compiles'
    obtain ⟨sameContext, sameTree⟩ := parts.tree_eq_of_params parts'
    have isCount' : (p'.statements q.collection).count.given e db =
        [[(.number (p'.context.countMatches e db p'.tree), countAlias)]] :=
      (parts'.given_statements (by rwa [sameContext]) (by rwa [sameContext])
        (by rwa [sameContext]) differ isEquality keeps).1
    rw [isCount.1, isCount', sameContext, sameTree]

namespace Sample

/-- Members, each with at most one card. -/
def member : Declaration where
  name := "member"
  table := "members"
  columns := [(Column.named "id" .integer).asPrimaryKey, Column.named "born" .integer]
  associations := [⟨"card", "card", .hasOne, "member_id"⟩]

/-- Cards, some of them not given to a member. -/
def card : Declaration where
  name := "card"
  table := "cards"
  columns :=
    [(Column.named "id" .integer).asPrimaryKey, Column.named "member_id" .integer,
     Column.named "number" .integer]
  associations := [⟨"member", "member", .belongsTo, "member_id"⟩]

/-- The registry of the two. -/
def club : Registry := (Registry.build [member, card]).toOption.getD ⟨.empty⟩

/-- The members whose card has the number 7, in the order of the numbers. -/
def sevens : ListQuery where
  registry := club
  collection := member.toCollection
  settings := {}
  params :=
    { filters := { entries := .ofList [("card.number", .plain "7")] }, sort := some "card.number" }

/-- Numbers that compare with numbers. -/
def numbers : Engine Nat where
  same v w := v == w
  compare comparison v value :=
    match comparison, value with
    | .equal, .bigInt n => .ofBool (n == v)
    | _, _ => .unknown
  fits _ _ _ := .unknown
  asText := id
  sum values := some (values.foldl Nat.add 0)
  slot v := v / 900 * 900

/-- Three members.  Two have a card, and one card of the number 7 is not given to anyone. -/
def clubTables : Database Nat
  | "members" => [1, 2, 3].map fun id column => if column = "id" then some id else none
  | "cards" => [(1, some 1, 7), (2, none, 7), (3, some 2, 8)].map fun (id, owner, number) column =>
      if column = "id" then some id
      else if column = "member_id" then owner
      else if column = "number" then some number else none
  | _ => []

theorem isEquality_numbers : numbers.IsEquality where
  symm same := beq_iff_eq.2 (beq_iff_eq.1 same).symm
  trans first second := beq_iff_eq.2 ((beq_iff_eq.1 first).trans (beq_iff_eq.1 second))

theorem keepsKeys_club : numbers.KeepsKeys clubTables [member, card] where
  primary := by decide
  hasOne := by decide

theorem totals_count_records_of_sevens :
    ∃ st, sevens.statements .sqlite ⟨0, 0⟩ = .ok st ∧
      (st.page.joinedRows numbers clubTables).map (fun row => row "members") =
        clubTables "members" ∧
      st.count.given numbers clubTables = [[(.number 1, "total")]] ∧
      (st.page.given numbers clubTables).length = 1 := by
  have built : Registry.build [member, card] = .ok club := rfl
  have names := Registry.namesTables built (by decide)
  have compiles : sevens.statements .sqlite ⟨0, 0⟩ = .ok _ := rfl
  obtain ⟨oneEach, ⟨p, _, isCount, isLength⟩, _⟩ := totals_count_records built names (by decide)
    numbers isEquality_numbers clubTables keepsKeys_club (q := sevens) rfl (.tail _ (.head _))
    compiles
  refine ⟨_, compiles, oneEach _ (.tail _ (.head _)), rfl, ?_⟩
  have counted : [[(Sql.Datum.number (V := Nat) 1, "total")]] =
      [[(.number (p.context.countMatches numbers clubTables p.tree), countAlias)]] := isCount
  have isOne : 1 = p.context.countMatches numbers clubTables p.tree := by
    simpa [countAlias] using counted
  rw [isLength, ← isOne]

end Sample

end Backoffice
