import Backoffice.Proofs.Listing.DescribedKeys

/-!
# Relations and the joins made of them

A relation pairs a column of the owned side, the referring one, with a column of the owning
side.  An association keeps the referring column only.  For the other column, joins and lists
of children take the key of the owning side: a join puts the key column there
(`Association.equates_join_iff`), and a list of children compares the referring column with the
id of a record, which stands for its key (`Field.links_equation_iff`).  So they equate the two
columns of the relation exactly when it refers to the key.
-/

namespace Backoffice

open Sql (ColumnRef Engine Formula Join JoinedRow TableRow Value)

/-! ## Relations of two columns -/

namespace Relation

/-- The columns that are referred to: those of the owning side. -/
def referencedColumns (rel : Relation) : List String :=
  if rel.isOwner then rel.ownColumns else rel.otherColumns

/-- A relation has a single column on each side. -/
structure Pairs (rel : Relation) (own other : String) : Prop where
  own_eq : rel.ownColumns = [own]
  other_eq : rel.otherColumns = [other]

variable {rel : Relation} {own other name target key : String} {a : Association}

/-- Every relation of two columns stands for an association. -/
theorem Pairs.toAssociation_eq (pairs : rel.Pairs own other) (name target : String) :
    rel.toAssociation name target =
      .ok ⟨name, target, rel.kind, if rel.isOwner then other else own⟩ := by
  rw [toAssociation, referringColumns, pairs.own_eq, pairs.other_eq]
  cases rel.isOwner with
  | true => rfl
  | false => rfl

/-- The association has the key in place of the column that is referred to. -/
theorem Pairs.columns (pairs : rel.Pairs own other)
    (derived : rel.toAssociation name target = .ok a) (key : String) :
    a.ownColumn key = (if rel.isOwner then key else own) ∧
      a.otherColumn key = if rel.isOwner then other else key := by
  rw [pairs.toAssociation_eq] at derived
  cases derived
  rw [Association.ownColumn, Association.otherColumn, kind]
  cases rel.isOwner with
  | true => cases rel.many <;> exact ⟨rfl, rfl⟩
  | false => exact ⟨rfl, rfl⟩

theorem Pairs.referencedColumns_eq (pairs : rel.Pairs own other) :
    rel.referencedColumns = [if rel.isOwner then own else other] := by
  rw [referencedColumns, pairs.own_eq, pairs.other_eq]
  cases rel.isOwner <;> rfl

/-- The owning side belongs to no record by the relation. -/
theorem kind_ne_belongsTo (isOwner : rel.isOwner = true) : rel.kind ≠ .belongsTo := by
  rw [kind, if_pos isOwner]
  split <;> exact fun same => nomatch same

end Relation

/-! ## Joins -/

/-- The two columns of a join, on whichever sides they stand. -/
def Sql.Join.Equates (j : Join) (ref other : ColumnRef) : Prop :=
  (j.left = ref ∧ j.right = other) ∨ (j.left = other ∧ j.right = ref)

namespace Sql.Join

variable {j : Join} {ref other another : ColumnRef}

theorem equates_comm : j.Equates ref other ↔ j.Equates other ref := or_comm

/-- A join equates a column with one other. -/
theorem Equates.iff_eq (equates : j.Equates ref other) :
    j.Equates ref another ↔ another = other := by
  refine ⟨fun equatesToo => ?_, fun same => same ▸ equates⟩
  rcases equates with ⟨left, right⟩ | ⟨left, right⟩
  · rcases equatesToo with ⟨_, right'⟩ | ⟨left', right'⟩
    · exact right'.symm.trans right
    · exact left'.symm.trans (left.trans (right'.symm.trans right))
  · rcases equatesToo with ⟨left', right'⟩ | ⟨left', _⟩
    · exact right'.symm.trans (right.trans (left'.symm.trans left))
    · exact left'.symm.trans left

end Sql.Join

namespace Association

variable {a : Association} {c target : Collection} {key : String}

theorem equates_join : (a.join c target key).Equates ⟨c.table, a.ownColumn key⟩
    ⟨a.name, a.otherColumn key⟩ := by
  rw [join]
  cases a.kind with
  | belongsTo => exact .inl ⟨rfl, rfl⟩
  | hasOne | hasMany => exact .inr ⟨rfl, rfl⟩

end Association

/-- How the join of an association that a relation stands for goes with the relation. -/
structure Relation.Joins (rel : Relation) (own other : String) (c target : Collection) (j : Join)
    (key : String) : Prop where
  table_eq : j.table = target.table
  /-- The referring column equals the key. -/
  equates : j.Equates ⟨c.table, if rel.isOwner then key else own⟩
    ⟨j.knownAs, if rel.isOwner then other else key⟩
  /-- These are the columns of the relation when it refers to the key. -/
  columns_iff : j.Equates ⟨c.table, own⟩ ⟨j.knownAs, other⟩ ↔ rel.referencedColumns = [key]

theorem Relation.Pairs.joins {rel : Relation} {own other name target key : String}
    {a : Association} {c t : Collection} (pairs : rel.Pairs own other)
    (derived : rel.toAssociation name target = .ok a) :
    rel.Joins own other c t (a.join c t key) key := by
  obtain ⟨isOwn, isOther⟩ := pairs.columns derived key
  have equates : (a.join c t key).Equates ⟨c.table, if rel.isOwner then key else own⟩
      ⟨a.name, if rel.isOwner then other else key⟩ := by
    rw [← isOwn, ← isOther]
    exact Association.equates_join
  refine ⟨Association.table_join, by rwa [Association.knownAs_join], ?_⟩
  rw [pairs.referencedColumns_eq, Association.knownAs_join, List.singleton_inj]
  -- the referring column is one of the two, so the other one decides
  cases owner : rel.isOwner with
  | true =>
      simp only [owner, if_true] at equates ⊢
      rw [Join.equates_comm, (Join.equates_comm.1 equates).iff_eq, ColumnRef.mk.injEq]
      exact and_iff_right rfl
  | false =>
      simp only [owner, Bool.false_eq_true, if_false] at equates ⊢
      rw [equates.iff_eq, ColumnRef.mk.injEq]
      exact and_iff_right rfl

/-! ## Lists of children -/

/-- A literal stands for a value: what is compared with the literal equals the value. -/
def Sql.Engine.StandsFor {V : Type} (e : Engine V) (value : Value) (w : V) : Prop :=
  ∀ v, e.compare .equal v value = .ofBool (e.same w v) ∧
    e.compare .equal (e.asText v) value = .ofBool (e.same w v)

/-- A condition links the rows whose column equals a column of a record, in every database
where a literal stands for the key of the record. -/
def Sql.Formula.Links (formula : Formula) (value : Value) (key own : String) (other : ColumnRef) :
    Prop :=
  ∀ (V : Type) (e : Engine V) (record : TableRow V) (row : JoinedRow V) (w : V),
    record key = some w → e.StandsFor value w →
      (formula.truth (e.reading row) = .yes ↔ e.equal (record own) (row.value other) = true)

namespace Field

variable {f : Field} {table key own : String} {d : Sql.Dialect} {value : Value}

/-- The equation of a field is true where the column equals what the literal stands for. -/
theorem truth_equation {V : Type} {e : Engine V} {w : V} (stands : e.StandsFor value w)
    (row : JoinedRow V) :
    (f.equation table d value).truth (e.reading row) = .yes ↔
      e.equal (some w) (row.value ⟨table, f.column⟩) = true := by
  rw [equation, Formula.truth]
  split
  next =>
    cases held : row.value ⟨table, f.column⟩ with
    | none => simp [Engine.reading, Sql.Subject.ref, held, Engine.equal]
    | some v => simp [Engine.reading, Sql.Subject.ref, held, (stands v).2, Engine.equal]
  next =>
    cases held : row.value ⟨table, f.column⟩ with
    | none => simp [Engine.reading, Sql.Subject.ref, held, Engine.equal]
    | some v => simp [Engine.reading, Sql.Subject.ref, held, (stands v).1, Engine.equal]

end Field

namespace Sql.Engine

/-- Truth values of which every literal stands for the true one. -/
def flags : Engine Bool where
  same v w := v == w
  compare _ v _ := .ofBool v
  fits _ _ _ := .unknown
  asText := id
  sum _ := none
  slot := id

theorem standsFor_flags (value : Value) : flags.StandsFor value true := by
  intro v
  cases v <;> exact ⟨rfl, rfl⟩

end Sql.Engine

/-- The equation of a field links the key of a record, and no other column of it. -/
theorem Field.links_equation_iff {f : Field} {table key own : String} {d : Sql.Dialect}
    {value : Value} :
    (f.equation table d value).Links value key own ⟨table, f.column⟩ ↔ own = key := by
  constructor
  · intro links
    -- a record that differs from its key in every other column, beside a row of the key
    have linked := links Bool .flags (fun column => some (decide (column = key)))
      (fun _ _ => some true) true (by simp) (Engine.standsFor_flags value)
    rw [Field.truth_equation (Engine.standsFor_flags value)] at linked
    simpa [Engine.equal, Engine.flags, JoinedRow.value] using linked
  · rintro rfl V e record row w isKey stands
    rw [Field.truth_equation stands, isKey]

/-- How the list of the records that belong to a record, through the association that a relation
stands for, goes with the relation. -/
structure Relation.Scopes [ZoneDatabase] (rel : Relation) (own other id : String)
    (c target : Collection) (f : Field) (children all : ListQuery) : Prop where
  /-- The field is that of the referring column. -/
  isReferring : f ∈ target.fields ∧ f.column = other
  /-- The statements are those of the list of all records, with the equation of the field. -/
  statements_iff : ∀ d now st, children.statements d now = .ok st ↔
    ∃ st' value, all.statements d now = .ok st' ∧ f.Reads id.toList value ∧
      st'.within (f.equation target.table d value) = st
  /-- The referring column equals the key. -/
  links : ∀ d value key, c.keyColumn = .ok key →
    (f.equation target.table d value).Links value key key ⟨target.table, other⟩
  /-- These are the columns of the relation when it refers to the key. -/
  columns_iff : ∀ d value key, c.keyColumn = .ok key →
    ((f.equation target.table d value).Links value key own ⟨target.table, other⟩ ↔
      rel.referencedColumns = [key])

/-- The list of children compares the referring column of the target with the id. -/
theorem Relation.Pairs.scopes [ZoneDatabase] {rel : Relation} {own other : String}
    {c t : Collection}
    (pairs : rel.Pairs own other) (isOwner : rel.isOwner = true) (plain : t.HasPlainFields)
    {f : Field} (isKey : t.fieldByColumn? other = some f) (r : Registry) (id : String)
    (params : ListParams) (settings : Settings) :
    rel.Scopes own other id c t f
      { registry := r, collection := t, params, settings, parent := some ⟨f.name, id⟩ }
      { registry := r, collection := t, params, settings } := by
  obtain ⟨isField, rfl⟩ := Collection.column_of_fieldByColumn? isKey
  refine ⟨⟨isField, rfl⟩, fun d now st => ?_, fun d value key _ => Field.links_equation_iff.2 rfl,
    fun d value key _ => ?_⟩
  · exact ListQuery.statements_within rfl (plain.field? isField) (plain.fieldsUndotted f isField)
  · rw [pairs.referencedColumns_eq, isOwner, if_pos rfl, List.singleton_inj]
    exact Field.links_equation_iff

/-- An association that is derived from a relation of two columns joins on the key of the
owning side, whatever column the relation refers to.  The derivation accepts every such
relation.  The join, which exists when the key is described, equates the referring column with
the key, and the lists of children do so with the key of the parent.  These are the two columns
of the relation exactly when it refers to the key. -/
theorem derived_associations_use_keys [ZoneDatabase] {ds : List Declaration} {r : Registry}
    (built : Registry.build ds = .ok r) {cName : String} {c : Collection}
    (declared : r.collection cName = .ok c) {rel : Relation} {own other : String}
    (pairs : rel.Pairs own other) (name target : String) :
    ∃ a, rel.toAssociation name target = .ok a ∧
      (c.association name = .ok a → ∃ t, r.collection target = .ok t ∧
        (∀ ctx : Context, ctx.registry = r → ctx.collection = c →
          ((∃ j, ctx.join name = .ok j) ↔ (a.referenced c t).KeyIsDescribed) ∧
          ∀ tree others s, ctx.baseSelect tree others = .ok s → ∀ j ∈ s.joins, j.knownAs = name →
            ∃ key, (a.referenced c t).keyColumn = .ok key ∧ rel.Joins own other c t j key) ∧
        (rel.isOwner = true → t.HasPlainFields → ∀ id params settings, ∃ f children all,
          ListQuery.ofParent r cName id name params settings = .ok children ∧
          ListQuery.ofCollection r target params settings = .ok all ∧
          rel.Scopes own other id c t f children all)) := by
  refine ⟨_, pairs.toAssociation_eq name target, fun associated => ?_⟩
  have held : c ∈ r.toList := Registry.mem_toList.2 ⟨cName, declared⟩
  obtain ⟨t, reaches, link⟩ :=
    Registry.exists_link built held (Collection.of_association associated).1
  refine ⟨t, reaches, ?joins, ?children⟩
  case joins =>
    rintro ctx rfl rfl
    constructor
    · rw [Context.exists_join_iff built held]
      constructor
      · rintro ⟨b, reached, found, reaches', described⟩
        cases associated.symm.trans found
        cases reaches.symm.trans reaches'
        exact described
      · exact fun described => ⟨_, t, associated, reaches, described⟩
    · intro tree others s selected j member named
      obtain ⟨joins, joined, rfl⟩ := Context.baseSelect_eq_ok.1 selected
      obtain ⟨_, _, isJoin⟩ := exists_item_of_mem joined member
      rw [← Context.knownAs_of_join isJoin, named] at isJoin
      obtain ⟨b, reached, key, found, reaches', isKey, rfl⟩ := Context.join_eq_ok.1 isJoin
      cases associated.symm.trans found
      cases reaches.symm.trans reaches'
      exact ⟨key, isKey, pairs.joins (pairs.toAssociation_eq name target)⟩
  case children =>
    intro isOwner plain id params settings
    have isHas := rel.kind_ne_belongsTo isOwner
    obtain ⟨f, isKey⟩ := link.foreignKey
    rw [Association.owner_eq_target isHas] at isKey
    refine ⟨f, _, _, ListQuery.ofParent_eq_ok declared associated isHas reaches isKey id params
      settings, Except.map_eq_ok.2 ⟨t, reaches, rfl⟩, ?_⟩
    rw [isOwner, if_pos rfl] at isKey
    exact pairs.scopes isOwner plain isKey r id params settings

namespace Sample

/-- Pets, each with the code of an owner. -/
def pet : Declaration where
  name := "pet"
  table := "pets"
  columns := [(Column.named "id" .integer).asPrimaryKey, Column.named "owner_code" .string]
  associations := [⟨"owner", "owner", .belongsTo, "owner_code"⟩]

/-- Owners, whose code is not their key. -/
def owner : Declaration where
  name := "owner"
  table := "owners"
  columns := [(Column.named "id" .integer).asPrimaryKey, Column.named "code" .string]
  associations := [⟨"pets", "pet", .hasMany, "owner_code"⟩]

/-- The registry of the two. -/
def household : Registry := (Registry.build [pet, owner]).toOption.getD ⟨.empty⟩

/-- A request about pets. -/
def pets : Context := { articles with registry := household, collection := pet.toCollection }

/-- A pet refers to the code of its owner. -/
def ownerOfPet : Relation := ⟨false, false, ["owner_code"], ["code"]⟩

/-- The same relation, seen from the owner. -/
def petsOfOwner : Relation := ⟨true, true, ["code"], ["owner_code"]⟩

theorem derived_associations_use_keys_of_pets :
    ownerOfPet.toAssociation "owner" "owner" = pet.toCollection.association "owner" ∧
    (∃ s, pets.baseSelect (.all []) ["owner"] = .ok s ∧ ∀ j ∈ s.joins, j.knownAs = "owner" →
      j.Equates ⟨"pets", "owner_code"⟩ ⟨"owner", "id"⟩ ∧
        ¬ j.Equates ⟨"pets", "owner_code"⟩ ⟨"owner", "code"⟩) ∧
    ∃ (f : Field) (children : ListQuery), ListQuery.ofParent household "owner" "7" "pets" {} {} =
        .ok children ∧
      (f.equation "pets" .sqlite (.text "7")).Links (.text "7") "id" "id" ⟨"pets", "owner_code"⟩ ∧
      ¬ (f.equation "pets" .sqlite (.text "7")).Links (.text "7") "id" "code"
        ⟨"pets", "owner_code"⟩ := by
  have built : Registry.build [pet, owner] = .ok household := rfl
  have isPet : household.collection "pet" = .ok pet.toCollection := rfl
  have isOwner : household.collection "owner" = .ok owner.toCollection := rfl
  refine ⟨rfl, ⟨_, rfl, fun j member named => ?_⟩, ?_⟩
  · have pairs : ownerOfPet.Pairs "owner_code" "code" := ⟨rfl, rfl⟩
    obtain ⟨a, derived, rest⟩ := derived_associations_use_keys built isPet pairs "owner" "owner"
    cases derived
    obtain ⟨t, reaches, joins, _⟩ := rest rfl
    cases reaches
    obtain ⟨key, isKey, goes⟩ := (joins pets rfl rfl).2 (.all []) ["owner"] _ rfl j member named
    cases isKey
    have equates := goes.equates
    have columns := goes.columns_iff
    rw [named] at equates columns
    exact ⟨equates, fun same => absurd (columns.1 same) (by decide)⟩
  · have pairs : petsOfOwner.Pairs "code" "owner_code" := ⟨rfl, rfl⟩
    obtain ⟨a, derived, rest⟩ := derived_associations_use_keys built isOwner pairs "pets" "pet"
    cases derived
    obtain ⟨t, reaches, _, children⟩ := rest rfl
    cases reaches
    obtain ⟨f, q, _, isChildren, _, scopes⟩ := children rfl ⟨by decide, by decide⟩ "7" {} {}
    have columns := scopes.columns_iff .sqlite (.text "7") "id" rfl
    exact ⟨f, q, isChildren, scopes.links .sqlite (.text "7") "id" rfl,
      fun linked => absurd (columns.1 linked) (by decide)⟩

end Sample

end Backoffice
