import Backoffice.Proofs.Listing.Nesting
import Backoffice.Proofs.Listing.Totals

/-!
# What records keep of rows

A record keeps each column of its row, in an object where the alias has a point
(`Collection.Keeps`).

For a row of a page there is more to say about the object of a to-one association.  Its columns
are those of the projection of the association (`ListQuery.Nests.exists_field`), which has the
key of the target in it, and the join puts nulls in all of them when it finds no row
(`Select.finds_of_mem_joinedRows`).  So the member is null exactly there.

Both need names apart.  The id of a composite collection takes the place of an object of its
name, and a name with a point can put the columns of another table into the object.
-/

namespace Backoffice

open Sql (Database Engine JoinedRow Select TableRow)

/-! ## Records -/

/-- The record of columns that come in some order. -/
def Collection.recordOf (c : Collection) (order : List (String × Json)) : KeyMap Json :=
  let members := Record.shapeOf order
  if c.isComposite then
    members.insert compositeIdField (.text (Record.compositeId c.primaryKeys members))
  else members

/-- No column takes the place of an object, nor that of the composite id. -/
structure Record.Unambiguous (columns : KeyMap Json) : Prop where
  apart : Record.NamesApart columns.entries
  noId : ∀ column ∈ columns.entries, column.1 ≠ compositeIdField
  noIdObject : ∀ column ∈ columns.entries, Record.owner? column.1 ≠ some compositeIdField

instance Record.decidableUnambiguous (columns : KeyMap Json) :
    Decidable (Record.Unambiguous columns) :=
  decidable_of_iff (Record.NamesApart columns.entries ∧
      (∀ column ∈ columns.entries, column.1 ≠ compositeIdField) ∧
      ∀ column ∈ columns.entries, Record.owner? column.1 ≠ some compositeIdField)
    ⟨fun ⟨apart, noId, noIdObject⟩ => ⟨apart, noId, noIdObject⟩,
      fun row => ⟨row.apart, row.noId, row.noIdObject⟩⟩

namespace Record.Unambiguous

variable {columns : KeyMap Json} {key a f : String} {value : Json}

theorem ne_id (row : Unambiguous columns) (found : columns.find? key = some value) :
    key ≠ compositeIdField :=
  row.noId _ (KeyMap.find?_eq_some_iff.1 found)

theorem object_ne_id (row : Unambiguous columns) (undotted : '.' ∉ a.toList)
    (found : columns.find? (FieldPath.through a f) = some value) : a ≠ compositeIdField := by
  rintro rfl
  refine row.noIdObject _ (KeyMap.find?_eq_some_iff.1 found) ?_
  exact owner?_eq_some_iff.2 ⟨undotted, f, rfl⟩

end Record.Unambiguous

/-- A record keeps some columns. -/
structure Collection.Keeps (c : Collection) (columns record : KeyMap Json) : Prop where
  /-- A column without a point keeps its value. -/
  plain : ∀ key value, '.' ∉ key.toList → columns.find? key = some value →
    record.find? key = some value
  /-- The columns under a name are the fields of an object, or null when they are all null. -/
  nested : ∀ a f value, '.' ∉ a.toList → columns.find? (FieldPath.through a f) = some value →
    ∃ fields : KeyMap Json, (∀ g, fields.find? g = columns.find? (FieldPath.through a g)) ∧
      record.find? a =
        some (if fields.values.all Json.isNull then .null else .ofMap fields)
  /-- There is no other member but the composite id. -/
  only : ∀ key member, record.find? key = some member → key ≠ compositeIdField →
    '.' ∉ key.toList ∧ ((∃ value, columns.find? key = some value) ∨
      ∃ f value, columns.find? (FieldPath.through key f) = some value)
  compositeId : (record.find? compositeIdField).isSome = c.isComposite

namespace Collection

variable {c : Collection} {columns : KeyMap Json} {key : String}

theorem find?_record (different : key ≠ compositeIdField) :
    (c.record columns).find? key = (Record.shape columns).find? key := by
  rw [record]
  split
  next => rw [KeyMap.find?_insert_of_ne _ different]
  next => rfl

theorem keeps_record (row : Record.Unambiguous columns) : c.Keeps columns (c.record columns) := by
  have shaped : Record.IsShaped columns (Record.shape columns) :=
    Record.isShaped_shapeOf (.refl _) row.apart
  refine ⟨fun key value undotted found => ?_, fun a f value undotted found => ?_,
    fun key member found different => ?_, ?_⟩
  · rw [find?_record (row.ne_id found)]
    exact shaped.plain undotted found
  · rw [find?_record (row.object_ne_id undotted found)]
    exact shaped.nested undotted found
  · rw [find?_record different] at found
    exact shaped.only found
  · rw [record]
    by_cases composite : c.isComposite = true
    · rw [if_pos composite, KeyMap.find?_insert_self, composite]
      rfl
    · rw [if_neg composite, Bool.eq_false_iff.2 composite, Option.isSome_eq_false_iff,
        Option.isNone_iff_eq_none]
      refine Option.eq_none_iff_forall_ne_some.2 fun member found => ?_
      obtain ⟨undotted, ⟨value, isColumn⟩ | ⟨f, value, isColumn⟩⟩ := shaped.only found
      · exact row.ne_id isColumn rfl
      · exact row.object_ne_id undotted isColumn rfl

theorem recordOf_perm {order : List (String × Json)} (perm : order.Perm columns.entries)
    (apart : Record.NamesApart columns.entries) : c.recordOf order = c.record columns := by
  rw [recordOf, Record.shapeOf_perm perm apart]
  rfl

end Collection

theorem Json.isNull_iff {value : Json} : value.isNull = true ↔ value = .null := by
  cases value <;> simp [isNull]

/-- An object of fields is null when all of them are. -/
theorem Record.nest_eq_null_iff {fields : KeyMap Json} :
    Record.nest fields = .null ↔
      ∀ f value, fields.find? f = some value → value.isNull = true := by
  rw [Record.nest]
  split
  next allNull =>
    rw [List.all_eq_true] at allNull
    exact iff_of_true rfl fun f value found => allNull _ (KeyMap.mem_values_iff.2 ⟨f, found⟩)
  next someField =>
    refine iff_of_false (by simp [Json.ofMap]) fun allNull => someField ?_
    rw [List.all_eq_true]
    intro value member
    obtain ⟨f, found⟩ := KeyMap.mem_values_iff.1 member
    exact allNull f value found

/-! ## Rows of pages -/

variable {V : Type}

/-- The columns of a row of a statement, as they are shown under their aliases. -/
def Sql.Select.shownRow (e : Engine V) (shown : String → Option V → Json) (s : Select)
    (row : JoinedRow V) : KeyMap Json :=
  .ofList (s.outputs.map fun output => (output.2, shown output.2 (output.1.ofRow e row)))

/-- A list gives the records of an association in objects of their own. -/
structure ListQuery.Nests (q : ListQuery) (a : Association) (target : Collection) (key : Field) :
    Prop where
  toOne : a ∈ q.collection.toOneAssociations
  asked : (q.params.fieldsFor a.name).isSome
  reaches : q.registry.collection a.target = .ok target
  undotted : '.' ∉ a.name.toList
  unique : ∀ b ∈ q.collection.associations, b.name = a.name → b = a
  isKey : key ∈ target.fields ∧ key.isPrimaryKey = true
  /-- No other field of the target has the name of the key. -/
  keyApart : ∀ f ∈ target.fields, f.name = key.name → f = key
  /-- No field of the collection has an alias in the object. -/
  fieldsApart : ∀ f ∈ q.collection.fields, Record.owner? f.name ≠ some a.name
  /-- No other association has one. -/
  associationsApart : ∀ b ∈ q.collection.associations, Record.owner? b.name ≠ some a.name

namespace Record

/-- What is before the first point of a name is so in front of a field. -/
theorem owner?_through {name field a : String}
    (owned : owner? (FieldPath.through name field) = some a) : name = a ∨ owner? name = some a := by
  obtain ⟨undotted, f, same⟩ := owner?_eq_some_iff.1 owned
  by_cases dotted : '.' ∈ name.toList
  · obtain ⟨before, after, split, absent⟩ := Text.exists_before_first dotted
    have cut : cut? (FieldPath.through name field) =
        some (String.ofList before, String.ofList (after ++ '.' :: field.toList)) := by
      rw [cut?, FieldPath.toList_through, split, List.append_assoc, List.cons_append,
        Text.splitFirst_eq_some_iff.2 ⟨rfl, absent⟩]
      rfl
    refine .inr ?_
    rw [owner?, cut] at owned
    rw [owner?, cut?, split, Text.splitFirst_eq_some_iff.2 ⟨rfl, absent⟩]
    exact owned
  · rw [owner?, cut?_through dotted] at owned
    exact .inl (Option.some.inj owned)

end Record

/-- What is asked for through an association is projected, with the key of its target. -/
theorem Context.exists_projection {ctx : Context} {params : ListParams}
    {projections : List Projection} (projected : ctx.projections params = .ok projections)
    {a : Association} {target : Collection} (toOne : a ∈ ctx.collection.toOneAssociations)
    (asked : (params.fieldsFor a.name).isSome)
    (reaches : ctx.registry.collection a.target = .ok target) :
    ∃ names, ⟨a.name, some a.name, target.pick names⟩ ∈ projections := by
  obtain ⟨associated, areAssociated, rest⟩ := Except.bind_eq_ok.1 projected
  cases rest
  obtain ⟨some, isSome, isProjection⟩ := exists_result_of_mem areAssociated toOne
  obtain ⟨names, isNames⟩ := Option.isSome_iff_exists.1 asked
  rw [associationProjection?, isNames, reaches] at isProjection
  cases isProjection
  exact ⟨names, .tail _ (List.mem_filterMap.2 ⟨_, isSome, rfl⟩)⟩

namespace ListQuery

variable {q : ListQuery} {d : Sql.Dialect} {now : Instant} {p : ListParts} {a : Association}
variable {target : Collection} {key : Field}

/-- The outputs of a page in the object of an association are fields of its target. -/
theorem Nests.exists_field [ZoneDatabase] (nests : q.Nests a target key)
    (parts : q.HasParts d now p) :
    ∀ output ∈ (p.statements q.collection).page.outputs, Record.owner? output.2 = some a.name →
      ∃ f ∈ target.fields,
        output = (.column ⟨a.name, f.column⟩, FieldPath.through a.name f.name) := by
  obtain ⟨sameRegistry, about, _⟩ := Context.of_make parts.context_eq
  intro output member owned
  obtain ⟨projection, isProjection, isOutput⟩ := List.mem_flatMap.1 member
  obtain ⟨f, isField, rfl⟩ := List.mem_map.1 isOutput
  have gives := Context.gives_of_projections parts.projections_eq projection isProjection
  cases gives with
  | own described =>
      rw [about] at described
      exact absurd owned (nests.fieldsApart f (described f isField))
  | @associated b reached fields toOne _ reaches described =>
      rw [about] at toOne
      rw [sameRegistry] at reaches
      have isAssociation := List.mem_of_mem_filter toOne
      rcases Record.owner?_through owned with named | named
      · obtain rfl := nests.unique b isAssociation named
        obtain rfl := Except.ok.inj (nests.reaches.symm.trans reaches)
        exact ⟨f, described f isField, rfl⟩
      · exact absurd named (nests.associationsApart b isAssociation)

/-- The key of the target is one of them. -/
theorem Nests.key_mem_outputs [ZoneDatabase] (nests : q.Nests a target key)
    (parts : q.HasParts d now p) :
    (.column ⟨a.name, key.column⟩, FieldPath.through a.name key.name) ∈
      (p.statements q.collection).page.outputs := by
  obtain ⟨sameRegistry, about, _⟩ := Context.of_make parts.context_eq
  obtain ⟨names, isProjection⟩ := Context.exists_projection parts.projections_eq
    (by rw [about]; exact nests.toOne) nests.asked (by rw [sameRegistry]; exact nests.reaches)
  refine List.mem_flatMap.2 ⟨_, isProjection, List.mem_map.2 ⟨key, ?_, rfl⟩⟩
  refine List.mem_filter.2 ⟨nests.isKey.1, ?_⟩
  rw [nests.isKey.2]
  rfl

/-- The association is joined, to the table of its target. -/
theorem Nests.exists_join [ZoneDatabase] (nests : q.Nests a target key)
    (parts : q.HasParts d now p) :
    ∃ j ∈ (p.statements q.collection).page.joins, j.knownAs = a.name ∧ j.table = target.table := by
  obtain ⟨sameRegistry, about, _⟩ := Context.of_make parts.context_eq
  obtain ⟨joins, joined, isBase⟩ := Context.baseSelect_eq_ok.1 parts.base_eq
  obtain ⟨names, isProjection⟩ := Context.exists_projection parts.projections_eq
    (by rw [about]; exact nests.toOne) nests.asked (by rw [sameRegistry]; exact nests.reaches)
  have listed : a.name ∈ sortedNames (p.tree.associations ++ p.others) := by
    refine mem_sortedNames.2 (List.mem_append_right _ (List.mem_append_left _ ?_))
    exact List.mem_filterMap.2 ⟨_, isProjection, rfl⟩
  obtain ⟨j, member, isJoin⟩ := exists_result_of_mem joined listed
  obtain ⟨b, reached, column, found, reaches, _, rfl⟩ := Context.join_eq_ok.1 isJoin
  obtain ⟨isAssociation, named⟩ := Collection.of_association found
  rw [about] at isAssociation
  obtain rfl := nests.unique b isAssociation named
  rw [sameRegistry] at reaches
  obtain rfl := Except.ok.inj (nests.reaches.symm.trans reaches)
  have isPageJoin : b.join p.context.collection target column ∈ p.base.joins := by
    rw [← isBase]
    exact member
  exact ⟨_, isPageJoin, Association.knownAs_join, Association.table_join⟩

/-- Each join of a page looks rows up by a column of the collection. -/
theorem HasParts.lookUp [ZoneDatabase] (parts : q.HasParts d now p)
    (differ : (p.statements q.collection).page.tableNames.Nodup) :
    ∀ j ∈ (p.statements q.collection).page.joins,
      ∃ own other, j.LooksUp (p.statements q.collection).page.table own other := by
  obtain ⟨joins, joined, isBase⟩ := Context.baseSelect_eq_ok.1 parts.base_eq
  intro j member
  have notTable : j.knownAs ≠ p.base.table := by
    intro same
    refine (List.nodup_cons.1 differ).1 (List.mem_map.2 ⟨j, member, same⟩)
  have isJoin : j ∈ p.base.joins := member
  show ∃ own other, j.LooksUp p.base.table own other
  rw [← isBase] at isJoin notTable ⊢
  obtain ⟨_, _, joins⟩ := exists_item_of_mem joined isJoin
  obtain ⟨a, target, key, _, _, _, rfl⟩ := Context.join_eq_ok.1 joins
  rw [Association.knownAs_join] at notTable
  exact ⟨_, _, Association.looksUp_join notTable.symm⟩

section
variable {e : Engine V} {db : Database V} {shown : String → Option V → Json} {row : JoinedRow V}

/-- A column in the object of an association shows what the row has under its name. -/
theorem Nests.exists_shown [ZoneDatabase] (nests : q.Nests a target key)
    (parts : q.HasParts d now p) {g : String} {value : Json}
    (found : ((p.statements q.collection).page.shownRow e shown row).find?
      (FieldPath.through a.name g) = some value) :
    ∃ f ∈ target.fields, f.name = g ∧
      value = shown (FieldPath.through a.name g) (row a.name f.column) := by
  obtain ⟨output, isOutput, same⟩ := List.mem_map.1 (KeyMap.mem_of_find?_ofList found)
  obtain ⟨named, rfl⟩ := Prod.mk.inj same
  have owned : Record.owner? output.2 = some a.name :=
    Record.owner?_eq_some_iff.2 ⟨nests.undotted, g, named⟩
  obtain ⟨f, isField, rfl⟩ := nests.exists_field parts output isOutput owned
  have cuts : Record.cut? (FieldPath.through a.name f.name) =
      Record.cut? (FieldPath.through a.name g) := congrArg Record.cut? named
  rw [Record.cut?_through nests.undotted, Record.cut?_through nests.undotted] at cuts
  cases cuts
  exact ⟨f, isField, rfl, rfl⟩

/-- The key of the target has a column in the row. -/
theorem Nests.exists_key [ZoneDatabase] (nests : q.Nests a target key)
    (parts : q.HasParts d now p) :
    ((p.statements q.collection).page.shownRow e shown row).find?
      (FieldPath.through a.name key.name) =
        some (shown (FieldPath.through a.name key.name) (row a.name key.column)) := by
  obtain ⟨value, found⟩ : ∃ value, ((p.statements q.collection).page.shownRow e shown row).find?
      (FieldPath.through a.name key.name) = some value :=
    KeyMap.exists_find?_ofList (List.mem_map.2 ⟨_, nests.key_mem_outputs parts, rfl⟩)
  obtain ⟨f, isField, sameName, isValue⟩ := nests.exists_shown parts found
  rw [nests.keyApart f isField sameName] at isValue
  rw [isValue] at found
  exact found

/-- The member of an association is null when the join finds no row. -/
theorem Nests.null_iff [ZoneDatabase] (nests : q.Nests a target key) (parts : q.HasParts d now p)
    (unambiguous : Record.Unambiguous ((p.statements q.collection).page.shownRow e shown row))
    (nulls : ∀ name, shown name none = .null)
    (keyShown : ∀ v, shown (FieldPath.through a.name key.name) (some v) ≠ .null)
    (keyHeld : ∀ found ∈ db target.table, found key.column ≠ none)
    {j : Sql.Join} (named : j.knownAs = a.name) (reaches : j.table = target.table)
    (finds : j.Finds e db row) :
    (q.collection.record ((p.statements q.collection).page.shownRow e shown row)).find? a.name =
        some .null ↔ ∀ found ∈ db target.table, j.accepts e row found = false := by
  have hasKey : ((p.statements q.collection).page.shownRow e shown row).find? _ = some _ :=
    nests.exists_key parts
  have keeps : q.collection.Keeps _ _ := Collection.keeps_record unambiguous
  obtain ⟨fields, areFields, isMember⟩ := keeps.nested _ _ _ nests.undotted hasKey
  rw [isMember, Option.some_inj, ← Record.nest, Record.nest_eq_null_iff, ← reaches]
  cases finds with
  | matched isRow accepted =>
      refine iff_of_false (fun allNull => ?_) fun refused => ?_
      · have keyNull := allNull key.name _ ((areFields key.name).trans hasKey)
        rw [named, reaches] at isRow
        obtain ⟨v, isValue⟩ := Option.ne_none_iff_exists'.1 (keyHeld _ isRow)
        rw [isValue, Json.isNull_iff] at keyNull
        exact keyShown v keyNull
      · rw [refused _ isRow] at accepted
        cases accepted
  | unmatched isNull refused =>
      refine iff_of_true (fun g value found => ?_) refused
      rw [areFields] at found
      obtain ⟨f, _, _, rfl⟩ := nests.exists_shown parts found
      rw [← named, isNull]
      exact congrArg Json.isNull (nulls _)

end

end ListQuery

/-- A record keeps every column of its row, in whatever order they come, where no column takes
the place of an object or of the composite id.  In a row of a page, the member of a to-one
association that the list asks for is null exactly where the join finds no row.  For that its
key is not shown as null, and nothing but columns of its target is in its object. -/
theorem records_lose_nothing [ZoneDatabase] :
    (∀ (c : Collection) (columns : KeyMap Json), Record.Unambiguous columns →
      c.Keeps columns (c.record columns) ∧
        ∀ order, order.Perm columns.entries → c.recordOf order = c.record columns) ∧
    ∀ (V : Type) (e : Engine V) (db : Database V) (shown : String → Option V → Json)
      (q : ListQuery) (d : Sql.Dialect) (now : Instant) (st : ListStatements) (a : Association)
      (target : Collection) (key : Field),
      q.statements d now = .ok st → st.page.tableNames.Nodup → q.Nests a target key →
      (∀ name, shown name none = .null) →
      (∀ v, shown (FieldPath.through a.name key.name) (some v) ≠ .null) →
      (∀ found ∈ db target.table, found key.column ≠ none) →
      ∃ j ∈ st.page.joins, j.knownAs = a.name ∧ j.table = target.table ∧
        ∀ row ∈ st.page.kept e db, Record.Unambiguous (st.page.shownRow e shown row) →
          ((q.collection.record (st.page.shownRow e shown row)).find? a.name = some .null ↔
            ∀ found ∈ db target.table, j.accepts e row found = false) := by
  constructor
  · intro c columns row
    exact ⟨Collection.keeps_record row, fun order perm => Collection.recordOf_perm perm row.apart⟩
  · intro V e db shown q d now st a target key compiles differ nests nulls keyShown keyHeld
    obtain ⟨p, parts, rfl⟩ := ListQuery.statements_eq_ok.1 compiles
    obtain ⟨j, isJoin, named, reaches⟩ := nests.exists_join parts
    refine ⟨j, isJoin, named, reaches, fun row isKept unambiguous => ?_⟩
    have finds : j.Finds e db row := Select.finds_of_mem_joinedRows differ (parts.lookUp differ)
      (List.mem_of_mem_filter isKept) j isJoin
    exact nests.null_iff parts unambiguous nulls keyShown keyHeld named reaches finds

namespace Sample

/-- The members with the numbers of their cards. -/
def cardNumbers : ListQuery where
  registry := club
  collection := member.toCollection
  settings := {}
  params := { fields := .ofList [("card", "number")] }

/-- Numbers as they are shown. -/
def showNumber (_ : String) (v : Option Nat) : Json := Json.orNull Json.nat v

/-- The row of a log entry, with a column in an object. -/
def logRow : KeyMap Json :=
  .ofList [("code", .text "a"), ("trace", .text "b"), ("stack.top", .null)]

theorem records_lose_nothing_of_cardNumbers :
    log.toCollection.Keeps logRow (log.toCollection.record logRow) ∧
    ∃ st, cardNumbers.statements .sqlite ⟨0, 0⟩ = .ok st ∧
      ∃ j ∈ st.page.joins, j.knownAs = "card" ∧ ∀ row ∈ st.page.kept numbers clubTables,
        ((member.toCollection.record (st.page.shownRow numbers showNumber row)).find? "card" =
            some .null ↔ ∀ found ∈ clubTables "cards", j.accepts numbers row found = false) := by
  constructor
  · exact (records_lose_nothing.1 log.toCollection logRow (by decide)).1
  · have nests : cardNumbers.Nests ⟨"card", "card", .hasOne, "member_id"⟩ card.toCollection
        (card.toCollection.fields.head (by decide)) := by
      have others : ∀ f ∈ card.toCollection.fields.tail, f.name ≠ "id" := by decide
      refine ⟨by decide, rfl, rfl, by decide, by decide, ⟨.head _, rfl⟩, ?_, by decide, by decide⟩
      refine List.forall_mem_cons.2 ⟨fun _ => rfl, fun f member same => ?_⟩
      exact absurd same (others f member)
    obtain ⟨j, isJoin, named, _, nullIff⟩ := records_lose_nothing.2 Nat numbers clubTables
      showNumber cardNumbers .sqlite ⟨0, 0⟩ _ _ _ _ rfl (by decide) nests (fun _ => rfl)
      (fun _ isNull => nomatch isNull) (by decide)
    refine ⟨_, rfl, j, isJoin, named, fun row isKept => nullIff row isKept ?_⟩
    revert row
    decide

/-- A row of the log with an association in the name of the composite id. -/
def idRow : KeyMap Json :=
  .ofList [("code", .text "a"), ("trace", .text "b"), ("compositeId.id", .int 7)]

/-- Members with a note, whose name puts it into the object of the card. -/
def notedMember : Declaration :=
  { member with columns :=
      member.columns ++ [{ Column.named "note" .integer with field := "card.note" }] }

/-- Cards with two fields of one name. -/
def doubledCard : Declaration :=
  { card with columns := card.columns ++ [{ Column.named "number" .integer with field := "id" }] }

/-- A member without a card, and one whose card has no number. -/
def noteTables : Database Nat
  | "members" => [fun column => if column = "id" then some 4 else if column = "note" then some 5
      else none, fun column => if column = "id" then some 1 else none]
  | "cards" => [fun column => if column = "id" then some 2
      else if column = "member_id" then some 1 else none]
  | _ => []

/-- The members of a club with such cards. -/
def clubList (m c : Declaration) : ListQuery where
  registry := (Registry.build [m, c]).toOption.getD ⟨.empty⟩
  collection := m.toCollection
  settings := {}
  params := { fields := .ofList [("card", "id")] }

end Sample

/-- Names that are not apart.  The composite id takes the place of an object of its name.  A
member of the association is there without a card, by the column of another table in its
object, and is null with a card, whose key has given its alias to another column. -/
theorem Sample.names_hide_columns :
    (Record.NamesApart idRow.entries ∧ (∀ column ∈ idRow.entries, column.1 ≠ compositeIdField) ∧
      ((log.toCollection.record idRow).find? "compositeId").map Json.isObject = some false ∧
      ((log.toCollection.record idRow).find? "compositeId").map Json.isNull = some false) ∧
    (∃ st, (clubList notedMember card).statements .sqlite ⟨0, 0⟩ = .ok st ∧
      ∃ j ∈ st.page.joins, ∃ row ∈ st.page.kept numbers noteTables,
        j.knownAs = "card" ∧ Record.Unambiguous (st.page.shownRow numbers showNumber row) ∧
        (∀ found ∈ noteTables "cards", j.accepts numbers row found = false) ∧
        ((notedMember.toCollection.record (st.page.shownRow numbers showNumber row)).find?
          "card").map Json.isNull = some false) ∧
    ∃ st, (clubList member doubledCard).statements .sqlite ⟨0, 0⟩ = .ok st ∧
      ∃ j ∈ st.page.joins, ∃ row ∈ st.page.kept numbers noteTables,
        j.knownAs = "card" ∧ Record.Unambiguous (st.page.shownRow numbers showNumber row) ∧
        (∃ found ∈ noteTables "cards", j.accepts numbers row found = true ∧
          found "id" = some 2) ∧
        ((member.toCollection.record (st.page.shownRow numbers showNumber row)).find?
          "card").map Json.isNull = some true := by
  refine ⟨⟨by decide, by decide, by decide, by decide⟩, ?_, ?_⟩
  · exact ⟨_, rfl, _, .head _, _, .head _, rfl, by decide, by decide, by decide⟩
  · exact ⟨_, rfl, _, .head _, _, .tail _ (.head _), rfl, by decide,
      ⟨_, .head _, by decide, rfl⟩, by decide⟩

end Backoffice
