import Backoffice.Listing.Base
import Backoffice.Proofs.Filter.Reach
import Backoffice.Proofs.Schema.Keys

/-!
# Joined tables

A statement joins the tables of associations under their names.  `Sql.Select.IsScoped` says
what it takes for all the columns it names to be there: no table name is given twice, each
joined table is the one that a to-one association reaches, and each column is that of a
described field of the collection which the name of its table stands for.

Columns come from conditions, joins, outputs, groups and orders, and joins come from a list
of names apart from them.  A statement over the base of a request is scoped when the names
of its list are those of its columns (`Context.isScoped_of_baseSelect`).
-/

namespace Backoffice

open Sql (ColumnRef Select)

/-! ## Names of tables -/

/-- The names that stand for tables in the statements about a collection differ. -/
structure Collection.NamesTables (c : Collection) : Prop where
  /-- No two associations have one name. -/
  associationsDiffer : (c.associations.map (·.name)).Nodup
  notTable : c.table ∉ c.associations.map (·.name)

/-- The names of tables differ when they do in the declarations. -/
theorem Registry.namesTables {ds : List Declaration} {r : Registry} (built : build ds = .ok r)
    (apart : ∀ d ∈ ds, (d.associations.map (·.name)).Nodup ∧
      d.table ∉ d.associations.map (·.name)) : ∀ c ∈ r.toList, c.NamesTables := by
  intro c held
  obtain ⟨name, found⟩ := mem_toList.1 held
  obtain ⟨d, member, _, rfl, _⟩ := exists_declaration built found
  exact ⟨(apart d member).1, (apart d member).2⟩

/-- Some condition of a tree is about a record that an association of a name reaches. -/
def FilterTree.Names (tree : FilterTree Predicate) (name : String) : Prop :=
  ∃ p ∈ tree.leaves, p.association = some name

theorem FilterTree.mem_associations {tree : FilterTree Predicate} {name : String} :
    name ∈ tree.associations ↔ tree.Names name := by
  rw [associations, mem_sortedNames, List.mem_filterMap]
  rfl

namespace Context

/-- The collection that the name of a table stands for. -/
inductive StandsFor (ctx : Context) : String → Collection → Prop where
  | base : StandsFor ctx ctx.collection.table ctx.collection
  | linked {a : Association} {target : Collection} (link : ctx.Links a target) :
      StandsFor ctx a.name target

/-- A column is that of a described field. -/
def Describes (ctx : Context) (ref : ColumnRef) : Prop :=
  ∃ c, ctx.StandsFor ref.table c ∧ ∃ f ∈ c.fields, f.column = ref.column

/-- A name is that of a to-one association. -/
def Joins (ctx : Context) (name : String) : Prop := ∃ a target, ctx.Links a target ∧ a.name = name

end Context

/-- A statement is scoped, with the associations of some names joined. -/
structure Sql.Select.IsScoped (s : Select) (ctx : Context) (joined : String → Prop) : Prop where
  /-- It reads the table of the collection. -/
  table_eq : s.table = ctx.collection.table
  /-- No name is given to two tables. -/
  namesDiffer : s.tableNames.Nodup
  /-- What is joined is what a to-one association reaches. -/
  joins : ∀ j ∈ s.joins, ∃ a target,
    ctx.Links a target ∧ j.knownAs = a.name ∧ j.table = target.table
  introduced : ∀ ref ∈ s.columns, ref.table ∈ s.tableNames
  described : ∀ ref ∈ s.columns, ctx.Describes ref
  joined_iff : ∀ name, name ∈ s.joins.map (·.knownAs) ↔ joined name

/-- What is joined may be said in other words. -/
theorem Sql.Select.IsScoped.congr {s : Select} {ctx : Context} {joined joined' : String → Prop}
    (isScoped : s.IsScoped ctx joined) (same : ∀ name, joined name ↔ joined' name) :
    s.IsScoped ctx joined' :=
  { isScoped with joined_iff := fun name => (isScoped.joined_iff name).trans (same name) }

namespace Context

variable {ctx : Context} {name : String} {a : Association} {target : Collection}

/-! ## Fields of paths -/

theorem links_of_mem (names : ctx.collection.NamesTables)
    (member : a ∈ ctx.collection.toOneAssociations)
    (reaches : ctx.registry.collection a.target = .ok target) : ctx.Links a target := by
  obtain ⟨isAssociation, toOne⟩ := List.mem_filter.1 member
  refine ⟨Collection.association_eq_ok.2 ?_, toOne, reaches⟩
  exact List.find?_of_nodup names.associationsDiffer isAssociation

theorem describes_own {f : Field} (member : f ∈ ctx.collection.fields) :
    ctx.Describes ⟨ctx.collection.table, f.column⟩ :=
  ⟨ctx.collection, .base, f, member, rfl⟩

theorem describes_linked {f : Field} (link : ctx.Links a target) (member : f ∈ target.fields) :
    ctx.Describes ⟨a.name, f.column⟩ :=
  ⟨target, .linked link, f, member, rfl⟩

/-- A column is there: it is described, and its table is read or joined. -/
structure IsThere (ctx : Context) (others : List String) (ref : ColumnRef) : Prop where
  described : ctx.Describes ref
  introduced : ref.table = ctx.collection.table ∨ ref.table ∈ others

variable {path : String} {g : ResolvedField} {others : List String}

theorem IsThere.mono {more : List String} (all : ∀ name ∈ others, name ∈ more) {ref : ColumnRef}
    (there : ctx.IsThere others ref) : ctx.IsThere more ref :=
  ⟨there.described, there.introduced.imp id (all _)⟩

theorem Means.isThere (means : ctx.Means path g)
    (joined : ∀ name, g.associationName = some name → name ∈ others) :
    ctx.IsThere others g.ref := by
  cases means with
  | own _ found =>
      exact ⟨describes_own (Collection.field_of_field? found).1, .inl rfl⟩
  | through _ link _ found =>
      exact ⟨describes_linked link (Collection.field_of_field? found).1, .inr (joined _ rfl)⟩

theorem Means.joins (means : ctx.Means path g) (named : g.associationName = some name) :
    ctx.Joins name := by
  cases means with
  | own => cases named
  | through _ link =>
      cases named
      exact ⟨_, _, link, rfl⟩

end Context

/-! ## Joins -/

namespace Association

/-- The column of a record that has to equal one of the record it is joined with, given the
key column that the foreign key refers to. -/
def ownColumn (a : Association) (key : String) : String :=
  match a.kind with
  | .belongsTo => a.foreignKey
  | .hasOne | .hasMany => key

/-- The column of the other record. -/
def otherColumn (a : Association) (key : String) : String :=
  match a.kind with
  | .belongsTo => key
  | .hasOne | .hasMany => a.foreignKey

/-- The join of an association of the collection.  The foreign key stands on the left. -/
def join (a : Association) (c target : Collection) (key : String) : Sql.Join :=
  let own : ColumnRef := ⟨c.table, a.ownColumn key⟩
  let other : ColumnRef := ⟨a.name, a.otherColumn key⟩
  match a.kind with
  | .belongsTo => { table := target.table, knownAs := a.name, left := own, right := other }
  | .hasOne | .hasMany =>
      { table := target.table, knownAs := a.name, left := other, right := own }

variable {a : Association} {c target : Collection} {key : String}

@[simp] theorem table_join : (a.join c target key).table = target.table := by
  rw [join]
  cases a.kind <;> rfl

@[simp] theorem knownAs_join : (a.join c target key).knownAs = a.name := by
  rw [join]
  cases a.kind <;> rfl

theorem mem_columns_join {ref : ColumnRef} :
    ref ∈ (a.join c target key).columns ↔
      ref = ⟨c.table, a.ownColumn key⟩ ∨ ref = ⟨a.name, a.otherColumn key⟩ := by
  rw [join]
  cases a.kind with
  | belongsTo => simp [Sql.Join.columns]
  | hasOne | hasMany => simp [Sql.Join.columns, or_comm]

/-- Both columns of a link are those of fields. -/
theorem IsLink.columns (isLink : a.IsLink c target)
    (isKey : (a.referenced c target).keyColumn = .ok key) :
    (∃ f ∈ c.fields, f.column = a.ownColumn key) ∧
      ∃ f ∈ target.fields, f.column = a.otherColumn key := by
  obtain ⟨foreign, isForeign⟩ := isLink.foreignKey
  obtain ⟨isField, isColumn⟩ := Collection.column_of_fieldByColumn? isForeign
  obtain ⟨k, single, rfl⟩ := Collection.keyColumn_eq_ok.1 isKey
  have keyIsField : k ∈ (a.referenced c target).fields :=
    Collection.mem_of_keyFields (by rw [single]; exact List.mem_singleton_self k)
  rw [owner] at isField
  rw [referenced] at keyIsField
  rw [ownColumn, otherColumn]
  cases kind : a.kind with
  | belongsTo =>
      rw [kind] at isField keyIsField
      exact ⟨⟨foreign, isField, isColumn⟩, k, keyIsField, rfl⟩
  | hasOne | hasMany =>
      rw [kind] at isField keyIsField
      exact ⟨⟨k, keyIsField, rfl⟩, foreign, isField, isColumn⟩

end Association

namespace Context

variable {ctx : Context} {name : String}

theorem join_eq_ok {j : Sql.Join} :
    ctx.join name = .ok j ↔
      ∃ a target key, ctx.collection.association name = .ok a ∧
        ctx.registry.collection a.target = .ok target ∧
        (a.referenced ctx.collection target).keyColumn = .ok key ∧
        a.join ctx.collection target key = j := by
  rw [join]
  simp only [Except.bind_eq_ok]
  constructor
  · rintro ⟨a, found, target, reaches, ⟨left, right⟩, columns, rest⟩
    rw [joinColumns] at columns
    cases kind : a.kind with
    | belongsTo =>
        simp only [kind] at columns
        obtain ⟨key, isKey, sides⟩ := Except.map_eq_ok.1 columns
        refine ⟨a, target, key, found, reaches, by rwa [Association.referenced, kind], ?_⟩
        cases sides
        cases rest
        rw [Association.join, kind, Association.ownColumn, Association.otherColumn, kind]
    | hasOne | hasMany =>
        simp only [kind] at columns
        obtain ⟨key, isKey, sides⟩ := Except.map_eq_ok.1 columns
        refine ⟨a, target, key, found, reaches, by rwa [Association.referenced, kind], ?_⟩
        cases sides
        cases rest
        rw [Association.join, kind, Association.ownColumn, Association.otherColumn, kind]
  · rintro ⟨a, target, key, found, reaches, isKey, rfl⟩
    refine ⟨a, found, target, reaches, ?_⟩
    rw [Association.referenced] at isKey
    rw [joinColumns, Association.join, Association.ownColumn, Association.otherColumn]
    cases kind : a.kind with
    | belongsTo =>
        simp only [kind] at isKey
        simp only [isKey]
        exact ⟨_, rfl, rfl⟩
    | hasOne | hasMany =>
        simp only [kind] at isKey
        simp only [isKey]
        exact ⟨_, rfl, rfl⟩

/-- A join is known by the name of its association. -/
theorem knownAs_of_join {j : Sql.Join} (joined : ctx.join name = .ok j) : j.knownAs = name := by
  obtain ⟨a, target, key, found, _, _, rfl⟩ := join_eq_ok.1 joined
  rw [Association.knownAs_join]
  exact (Collection.of_association found).2

theorem map_knownAs {names : List String} {joins : List Sql.Join}
    (joined : names.mapM ctx.join = .ok joins) : joins.map (·.knownAs) = names := by
  rw [mapM_eq_ok] at joined
  induction joined with
  | nil => rfl
  | cons first _ ih => rw [List.map_cons, ih, knownAs_of_join first]

/-! ## Statements -/

variable {tree : FilterTree Predicate} {others : List String} {s base : Select}

theorem baseSelect_eq_ok :
    ctx.baseSelect tree others = .ok s ↔
      ∃ joins, (sortedNames (tree.associations ++ others)).mapM ctx.join = .ok joins ∧
        { table := ctx.collection.table, joins, condition := tree.condition? } = s := by
  rw [baseSelect]
  simp [Except.bind_eq_ok, pure, Except.pure]

theorem mem_joined {joins : List Sql.Join}
    (joined : (sortedNames (tree.associations ++ others)).mapM ctx.join = .ok joins) :
    name ∈ joins.map (·.knownAs) ↔ tree.Names name ∨ name ∈ others := by
  rw [map_knownAs joined, mem_sortedNames, List.mem_append, FilterTree.mem_associations]

theorem joins_of_names (compiled : ∀ p ∈ tree.leaves, ctx.IsCompiled p)
    (areJoins : ∀ name ∈ others, ctx.Joins name) (listed : tree.Names name ∨ name ∈ others) :
    ctx.Joins name := by
  rcases listed with ⟨p, isLeaf, named⟩ | other
  · obtain ⟨path, g, means, about⟩ := compiled p isLeaf
    exact means.joins (about.association_eq.symm.trans named)
  · exact areJoins name other

/-- The columns of a join of an accepted registry are those of fields, of the collection and
of the record that is reached. -/
theorem isThere_join {ds : List Declaration} (built : Registry.build ds = .ok ctx.registry)
    (held : ctx.collection ∈ ctx.registry.toList) (isName : ctx.Joins name) {j : Sql.Join}
    (joined : ctx.join name = .ok j) :
    (∃ a target, ctx.Links a target ∧ j.knownAs = a.name ∧ j.table = target.table) ∧
      ∀ ref ∈ j.columns, ctx.IsThere [name] ref := by
  obtain ⟨a, target, link, rfl⟩ := isName
  obtain ⟨b, reached, key, found, reaches, isKey, rfl⟩ := join_eq_ok.1 joined
  cases link.found.symm.trans found
  cases link.reaches.symm.trans reaches
  obtain ⟨isAssociation, _⟩ := Collection.of_association found
  obtain ⟨linked, isLinked, isLink⟩ := Registry.exists_link built held isAssociation
  cases reaches.symm.trans isLinked
  obtain ⟨⟨f, isField, isOwn⟩, g, isOtherField, isOther⟩ := isLink.columns isKey
  refine ⟨⟨a, target, link, Association.knownAs_join, Association.table_join⟩, ?_⟩
  intro ref member
  rcases Association.mem_columns_join.1 member with rfl | rfl
  · exact ⟨isOwn ▸ describes_own isField, .inl rfl⟩
  · exact ⟨isOther ▸ describes_linked link isOtherField, .inr (List.mem_singleton_self _)⟩

/-- The columns of the condition of a tree are those of its fields. -/
theorem isThere_condition (compiled : ∀ p ∈ tree.leaves, ctx.IsCompiled p)
    {condition : Sql.Formula} (isCondition : tree.condition? = some condition) :
    ∀ ref ∈ condition.columns, ctx.IsThere tree.associations ref := by
  intro ref read
  rw [FilterTree.condition?] at isCondition
  split at isCondition
  next => cases isCondition
  next =>
    cases isCondition
    obtain ⟨p, isLeaf, reads⟩ := FilterTree.exists_leaf_of_mem_lower read
    obtain ⟨path, g, means, about⟩ := compiled p isLeaf
    rw [about.columns ref reads]
    refine means.isThere fun name named => ?_
    exact FilterTree.mem_associations.2 ⟨p, isLeaf, about.association_eq.trans named⟩

section
variable {ds : List Declaration} (built : Registry.build ds = .ok ctx.registry)
variable (held : ctx.collection ∈ ctx.registry.toList) (names : ctx.collection.NamesTables)
variable (compiled : ∀ p ∈ tree.leaves, ctx.IsCompiled p)
variable (areJoins : ∀ name ∈ others, ctx.Joins name)

/-- What the base of a request joins, and the columns it names. -/
structure IsBase (ctx : Context) (base : Select) (joined : String → Prop) : Prop where
  table_eq : base.table = ctx.collection.table
  /-- The joins are known by the names. -/
  joined_iff : ∀ name, name ∈ base.joins.map (·.knownAs) ↔ joined name
  knownApart : (base.joins.map (·.knownAs)).Nodup
  joins : ∀ j ∈ base.joins, ∃ a target,
    ctx.Links a target ∧ j.knownAs = a.name ∧ j.table = target.table
  /-- The columns of joins and of the condition are there. -/
  columns : ∀ ref ∈ base.joins.flatMap Sql.Join.columns ++ base.conditionColumns,
    ctx.IsThere (base.joins.map (·.knownAs)) ref

include built held compiled areJoins in
theorem isBase_of_baseSelect (selected : ctx.baseSelect tree others = .ok base) :
    ctx.IsBase base fun name => tree.Names name ∨ name ∈ others := by
  obtain ⟨joins, joined, rfl⟩ := baseSelect_eq_ok.1 selected
  have eachJoin : ∀ j ∈ joins, ∃ name, name ∈ joins.map (·.knownAs) ∧
      (∃ a target, ctx.Links a target ∧ j.knownAs = a.name ∧ j.table = target.table) ∧
        ∀ ref ∈ j.columns, ctx.IsThere [name] ref := by
    intro j member
    obtain ⟨name, listed, isJoin⟩ := exists_item_of_mem joined member
    rw [← map_knownAs joined] at listed
    have isName := joins_of_names compiled areJoins ((mem_joined joined).1 listed)
    exact ⟨name, listed, isThere_join built held isName isJoin⟩
  refine ⟨rfl, fun name => mem_joined joined, ?_, fun j member => ?_, fun ref member => ?_⟩
  · show (joins.map (·.knownAs)).Nodup
    rw [map_knownAs joined]
    exact nodup_sortedNames
  · obtain ⟨_, _, isJoin, _⟩ := eachJoin j member
    exact isJoin
  · rcases List.mem_append.1 member with inJoins | inCondition
    · obtain ⟨j, isJoin, isColumn⟩ := List.mem_flatMap.1 inJoins
      obtain ⟨name, listed, _, there⟩ := eachJoin j isJoin
      refine (there ref isColumn).mono fun other same => ?_
      rwa [List.mem_singleton.1 same]
    · rw [Select.conditionColumns] at inCondition
      split at inCondition
      next condition isCondition =>
        refine (isThere_condition compiled isCondition ref inCondition).mono fun name listed => ?_
        exact (mem_joined joined).2 (.inl (FilterTree.mem_associations.1 listed))
      next => cases inCondition

include names in
theorem table_ne {a : Association} (found : ctx.collection.association name = .ok a) :
    ctx.collection.table ≠ a.name := by
  intro same
  apply names.notTable
  rw [same]
  exact List.mem_map_of_mem (Collection.of_association found).1

include built held names compiled areJoins in
/-- No name is given to two tables. -/
theorem nodup_tableNames (selected : ctx.baseSelect tree others = .ok base) :
    base.tableNames.Nodup := by
  have isBase := isBase_of_baseSelect built held compiled areJoins selected
  rw [Select.tableNames, isBase.table_eq]
  refine List.nodup_cons.2 ⟨fun isName => ?_, isBase.knownApart⟩
  obtain ⟨a, target, link, named⟩ :=
    joins_of_names compiled areJoins ((isBase.joined_iff _).1 isName)
  exact table_ne names link.found named.symm

include built held names compiled areJoins in
/-- A statement over the base of a request is scoped when its other columns are there. -/
theorem isScoped_of_baseSelect (selected : ctx.baseSelect tree others = .ok base)
    (sameTable : s.table = base.table) (sameJoins : s.joins = base.joins)
    (given : ∀ ref ∈ s.conditionColumns ++ s.givenColumns,
      ref ∈ base.conditionColumns ∨ ctx.IsThere others ref) :
    s.IsScoped ctx fun name => tree.Names name ∨ name ∈ others := by
  have isBase := isBase_of_baseSelect built held compiled areJoins selected
  have areThere : ∀ ref ∈ s.columns, ctx.IsThere (base.joins.map (·.knownAs)) ref := by
    intro ref member
    rw [Select.columns, List.append_assoc, List.mem_append, sameJoins] at member
    rcases member with inJoins | elsewhere
    · exact isBase.columns ref (List.mem_append_left _ inJoins)
    · rcases given ref elsewhere with inCondition | there
      · exact isBase.columns ref (List.mem_append_right _ inCondition)
      · exact there.mono fun name listed => (isBase.joined_iff name).2 (.inr listed)
  refine ⟨sameTable.trans isBase.table_eq, ?_, ?_, ?_, fun ref => fun member => ?_, ?_⟩
  · rw [Select.tableNames, sameTable, sameJoins]
    exact nodup_tableNames built held names compiled areJoins selected
  · rw [sameJoins]
    exact isBase.joins
  · intro ref member
    rw [Select.tableNames, sameTable, sameJoins, isBase.table_eq, List.mem_cons]
    exact (areThere ref member).introduced
  · exact (areThere ref member).described
  · rw [sameJoins]
    exact isBase.joined_iff

include built held names compiled areJoins in
/-- The same for a statement with the condition of the base. -/
theorem isScoped_of_sameCondition (selected : ctx.baseSelect tree others = .ok base)
    (sameTable : s.table = base.table) (sameJoins : s.joins = base.joins)
    (sameCondition : s.condition = base.condition)
    (given : ∀ ref ∈ s.givenColumns, ctx.IsThere others ref) :
    s.IsScoped ctx fun name => tree.Names name ∨ name ∈ others := by
  refine isScoped_of_baseSelect built held names compiled areJoins selected sameTable sameJoins ?_
  intro ref member
  rcases List.mem_append.1 member with inCondition | isGiven
  · rw [Select.conditionColumns, sameCondition] at inCondition
    exact .inl inCondition
  · exact .inr (given ref isGiven)

end

end Context

end Backoffice
