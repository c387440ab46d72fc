import Backoffice.Proofs.Filter.Paths
import Backoffice.Proofs.KeyMap

/-!
# Nested columns

A record has a member for each column without a point in its alias, and an object, or null, for
each part before a first point (`Record.IsShaped`).  This is shown where no column without a
point has the alias of an object (`Record.NamesApart`): there it would be lost.

*Layout.*  One more column keeps what the layout holds of the columns so far (`Layout.Holds`),
with one field more in an object or one plain member more.

*Order.*  What `Record.IsShaped` says of the members leaves no choice.  So the columns give the
same members in every order.
-/

namespace Backoffice

namespace Record

variable {columns : List (String × Json)} {column : String × Json} {a f key : String}

/-! ## Aliases -/

/-- The parts of an alias before and after its first point. -/
def cut? (key : String) : Option (String × String) :=
  (Text.splitFirst '.' key.toList).map fun parts => (String.ofList parts.1, String.ofList parts.2)

/-- The part of an alias before its first point. -/
def owner? (key : String) : Option String := (cut? key).map Prod.fst

theorem cut?_eq_none_iff : cut? key = none ↔ '.' ∉ key.toList := by
  rw [cut?, Option.map_eq_none_iff, Text.splitFirst_eq_none_iff]

theorem cut?_eq_some_iff :
    cut? key = some (a, f) ↔ key = FieldPath.through a f ∧ '.' ∉ a.toList := by
  rw [cut?, Option.map_eq_some_iff, ← String.toList_inj, FieldPath.toList_through,
    ← Text.splitFirst_eq_some_iff]
  constructor
  · rintro ⟨⟨before, after⟩, split, same⟩
    cases same
    simpa using split
  · exact fun split => ⟨_, split, by simp⟩

theorem cut?_through (undotted : '.' ∉ a.toList) : cut? (FieldPath.through a f) = some (a, f) :=
  cut?_eq_some_iff.2 ⟨rfl, undotted⟩

theorem owner?_eq_some_iff :
    owner? key = some a ↔ '.' ∉ a.toList ∧ ∃ f, key = FieldPath.through a f := by
  rw [owner?, Option.map_eq_some_iff]
  constructor
  · rintro ⟨⟨name, field⟩, isCut, rfl⟩
    obtain ⟨rfl, undotted⟩ := cut?_eq_some_iff.1 isCut
    exact ⟨undotted, field, rfl⟩
  · rintro ⟨undotted, f, rfl⟩
    exact ⟨_, cut?_through undotted, rfl⟩

/-- No column has the part before the first point of another for its alias. -/
def NamesApart (columns : List (String × Json)) : Prop :=
  ∀ column ∈ columns, ∀ other ∈ columns, owner? other.1 ≠ some column.1

instance decidableNamesApart (columns : List (String × Json)) : Decidable (NamesApart columns) :=
  inferInstanceAs
    (Decidable (∀ column ∈ columns, ∀ other ∈ columns, owner? other.1 ≠ some column.1))

/-! ## What a layout holds -/

/-- The columns without a point. -/
def plainOf (columns : List (String × Json)) : KeyMap Json :=
  .ofList (columns.filter fun column => (cut? column.1).isNone)

/-- The field that a column has in the object of a name. -/
def fieldUnder? (a : String) (column : String × Json) : Option (String × Json) :=
  (cut? column.1).bind fun parts => if parts.1 = a then some (parts.2, column.2) else none

/-- The object of a name. -/
def fieldsOf (a : String) (columns : List (String × Json)) : KeyMap Json :=
  .ofList (columns.filterMap (fieldUnder? a))

theorem fieldUnder?_eq_some_iff {entry : String × Json} :
    fieldUnder? a column = some entry ↔ cut? column.1 = some (a, entry.1) ∧ column.2 = entry.2 := by
  obtain ⟨field, value⟩ := entry
  rw [fieldUnder?, Option.bind_eq_some_iff]
  constructor
  · rintro ⟨⟨name, f⟩, isCut, isEntry⟩
    split at isEntry
    next same =>
      cases isEntry
      cases same
      exact ⟨isCut, rfl⟩
    next => cases isEntry
  · rintro ⟨isCut, rfl⟩
    exact ⟨_, isCut, if_pos rfl⟩

theorem fieldUnder?_eq_none (other : owner? column.1 ≠ some a) : fieldUnder? a column = none := by
  refine Option.eq_none_iff_forall_ne_some.2 fun entry isField => other ?_
  rw [owner?, (fieldUnder?_eq_some_iff.1 isField).1]
  rfl

theorem plainOf_concat_of_plain (plain : cut? column.1 = none) :
    plainOf (columns ++ [column]) = (plainOf columns).insert column.1 column.2 := by
  rw [plainOf, List.filter_append, List.filter_singleton, plain]
  exact KeyMap.ofList_concat _ _

theorem plainOf_concat_of_cut (isCut : cut? column.1 = some (a, f)) :
    plainOf (columns ++ [column]) = plainOf columns := by
  rw [plainOf, List.filter_append, List.filter_singleton, isCut]
  simp [plainOf]

theorem fieldsOf_concat_of_cut (isCut : cut? column.1 = some (a, f)) :
    fieldsOf a (columns ++ [column]) = (fieldsOf a columns).insert f column.2 := by
  have isField : fieldUnder? a column = some (f, column.2) :=
    fieldUnder?_eq_some_iff.2 ⟨isCut, rfl⟩
  rw [fieldsOf, List.filterMap_append, List.filterMap_cons_some isField, List.filterMap_nil,
    KeyMap.ofList_concat]
  rfl

theorem fieldsOf_concat_of_ne (other : owner? column.1 ≠ some a) :
    fieldsOf a (columns ++ [column]) = fieldsOf a columns := by
  rw [fieldsOf, List.filterMap_append, List.filterMap_cons_none (fieldUnder?_eq_none other),
    List.filterMap_nil, List.append_nil]
  rfl

theorem fieldsOf_eq_empty (others : ∀ column ∈ columns, owner? column.1 ≠ some a) :
    fieldsOf a columns = .empty := by
  rw [fieldsOf, List.filterMap_eq_nil_iff.2 fun column member =>
    fieldUnder?_eq_none (others column member)]
  rfl

/-- What a layout has of some columns. -/
structure Layout.Holds (l : Layout) (columns : List (String × Json)) : Prop where
  /-- Under any other name than that of an object is a plain column. -/
  plain : ∀ key, (∀ column ∈ columns, owner? column.1 ≠ some key) →
    l.members.find? key = (plainOf columns).find? key
  nested : ∀ column ∈ columns, ∀ a, owner? column.1 = some a →
    l.members.find? a = some (.ofMap (fieldsOf a columns))
  names : ∀ a, a ∈ l.nested ↔ ∃ column ∈ columns, owner? column.1 = some a

/-- No plain column has the name of an object. -/
theorem find?_plainOf_eq_none (others : ∀ column ∈ columns, column.1 ≠ a) :
    (plainOf columns).find? a = none := by
  refine Option.eq_none_iff_forall_ne_some.2 fun value found => ?_
  exact others _ (List.mem_of_mem_filter (KeyMap.mem_of_find?_ofList found)) rfl

namespace Layout

variable {l : Layout}

theorem add_of_plain (plain : cut? column.1 = none) :
    l.add column = { l with members := l.members.insert column.1 column.2 } := by
  rw [add, Text.splitFirst_eq_none_iff.2 (cut?_eq_none_iff.1 plain)]

theorem add_of_cut (isCut : cut? column.1 = some (a, f)) :
    l.add column =
      { members := addNested l.members a f column.2, nested := l.nested ++ [a] } := by
  obtain ⟨⟨before, after⟩, split, same⟩ := Option.map_eq_some_iff.1 isCut
  cases same
  rw [add, split]

/-- A column adds a field to the object of its name, which is empty before the first one. -/
theorem Holds.addNested_eq (holds : l.Holds columns) (others : ∀ column ∈ columns, column.1 ≠ a)
    (f : String) (value : Json) :
    addNested l.members a f value =
      l.members.insert a (.ofMap ((fieldsOf a columns).insert f value)) := by
  by_cases started : ∃ column ∈ columns, owner? column.1 = some a
  · obtain ⟨column, member, owned⟩ := started
    rw [addNested, holds.nested column member a owned]
    rfl
  · have absent : ∀ column ∈ columns, owner? column.1 ≠ some a :=
      fun column member owned => started ⟨column, member, owned⟩
    rw [addNested, holds.plain a absent, find?_plainOf_eq_none others, fieldsOf_eq_empty absent]
    rfl

/-- A column without a point adds a plain member. -/
theorem Holds.add_plain (holds : l.Holds columns) (apart : NamesApart (columns ++ [column]))
    (plain : cut? column.1 = none) :
    Layout.Holds { l with members := l.members.insert column.1 column.2 }
      (columns ++ [column]) := by
  have unowned : owner? column.1 = none := by rw [owner?, plain]; rfl
  have isLast : column ∈ columns ++ [column] := List.mem_append_right _ (List.mem_singleton_self _)
  refine ⟨fun key absent => ?_, fun other member a owned => ?_, fun a => ?_⟩
  · rw [plainOf_concat_of_plain plain]
    by_cases same : key = column.1
    · rw [same, KeyMap.find?_insert_self, KeyMap.find?_insert_self]
    · rw [KeyMap.find?_insert_of_ne _ same, KeyMap.find?_insert_of_ne _ same]
      exact holds.plain key fun other member => absent other (List.mem_append_left _ member)
  · have different : a ≠ column.1 := by
      rintro rfl
      exact apart column isLast other member owned
    have notLast : owner? column.1 ≠ some a := by
      rw [unowned]
      exact (Option.some_ne_none a).symm
    rw [fieldsOf_concat_of_ne notLast, KeyMap.find?_insert_of_ne _ different]
    rcases List.mem_append.1 member with earlier | last
    · exact holds.nested other earlier a owned
    · rw [List.mem_singleton.1 last] at owned
      exact absurd owned notLast
  · simp [holds.names, or_and_right, exists_or, unowned]

/-- A column with a point adds a field to the object of its name. -/
theorem Holds.add_nested (holds : l.Holds columns) (apart : NamesApart (columns ++ [column]))
    (isCut : cut? column.1 = some (a, f)) :
    Layout.Holds { members := addNested l.members a f column.2, nested := l.nested ++ [a] }
      (columns ++ [column]) := by
  have owned : owner? column.1 = some a := by rw [owner?, isCut]; rfl
  have isLast : column ∈ columns ++ [column] := List.mem_append_right _ (List.mem_singleton_self _)
  have others : ∀ other ∈ columns, other.1 ≠ a := by
    rintro other member rfl
    exact apart other (List.mem_append_left _ member) column isLast owned
  rw [holds.addNested_eq others]
  refine ⟨fun key absent => ?_, fun other member name isOwner => ?_, fun name => ?_⟩
  · have different : key ≠ a := by
      rintro rfl
      exact absent column isLast owned
    rw [plainOf_concat_of_cut isCut, KeyMap.find?_insert_of_ne _ different]
    exact holds.plain key fun other member => absent other (List.mem_append_left _ member)
  · by_cases same : name = a
    · rw [same, fieldsOf_concat_of_cut isCut, KeyMap.find?_insert_self]
    · have notLast : owner? column.1 ≠ some name := by
        rw [owned]
        exact fun equal => same (Option.some.inj equal).symm
      rw [fieldsOf_concat_of_ne notLast, KeyMap.find?_insert_of_ne _ same]
      rcases List.mem_append.1 member with earlier | last
      · exact holds.nested other earlier name isOwner
      · rw [List.mem_singleton.1 last] at isOwner
        exact absurd isOwner notLast
  · simp [holds.names, or_and_right, exists_or, owned, eq_comm]

/-- A layout holds one column more. -/
theorem Holds.add (holds : l.Holds columns) (apart : NamesApart (columns ++ [column])) :
    (l.add column).Holds (columns ++ [column]) := by
  cases isCut : cut? column.1 with
  | none =>
      rw [add_of_plain isCut]
      exact holds.add_plain apart isCut
  | some parts =>
      rw [add_of_cut isCut]
      exact holds.add_nested apart isCut

theorem holds_foldl (apart : NamesApart columns) : (columns.foldl Layout.add {}).Holds columns := by
  induction columns using List.reverseRecOn with
  | nil => exact ⟨fun _ _ => rfl, fun _ none => (List.not_mem_nil none).elim, fun a => by simp⟩
  | append_singleton columns column ih =>
      have earlier : NamesApart columns := fun column member other otherMember =>
        apart column (List.mem_append_left _ member) other (List.mem_append_left _ otherMember)
      rw [List.foldl_append]
      exact (ih earlier).add apart

end Layout

/-! ## Objects of nulls -/

/-- The object of some fields, or null when they are all null. -/
def nest (fields : KeyMap Json) : Json :=
  if fields.values.all Json.isNull then .null else .ofMap fields

theorem isUnmatched_ofMap (fields : KeyMap Json) :
    isUnmatched (.ofMap fields) = fields.values.all Json.isNull := by
  rw [KeyMap.values, List.all_map]
  rfl

theorem find?_collapse_eq (members : KeyMap Json) (name key : String) :
    (collapse members name).find? key = (members.find? key).map fun value =>
      if key = name ∧ isUnmatched value = true then .null else value := by
  rw [collapse]
  by_cases same : key = name
  · subst same
    cases found : members.find? key with
    | none => simp [found]
    | some value =>
        cases unmatched : isUnmatched value with
        | true => simp [unmatched, KeyMap.find?_insert_self]
        | false => simp [unmatched, found]
  · split
    · rw [KeyMap.find?_insert_of_ne _ same]
      simp [same]
    · simp [same]

/-- Null stands in place of the objects of nulls under some names. -/
theorem find?_foldl_collapse (names : List String) (members : KeyMap Json) (key : String) :
    (names.foldl collapse members).find? key = (members.find? key).map fun value =>
      if key ∈ names ∧ isUnmatched value = true then .null else value := by
  induction names generalizing members with
  | nil => simp
  | cons name rest ih =>
      rw [List.foldl_cons, ih, find?_collapse_eq, Option.map_map]
      refine congrArg (Option.map · _) (funext fun value => ?_)
      by_cases same : key = name
      · by_cases unmatched : isUnmatched value = true
        · simp [same, unmatched]
        · simp [same, unmatched]
      · simp [same]

/-! ## Shaped columns -/

/-- The members of a record whose columns come in some order. -/
def shapeOf (order : List (String × Json)) : KeyMap Json :=
  (order.foldl Layout.add {}).nested.foldl collapse (order.foldl Layout.add {}).members

theorem find?_shapeOf_plain (apart : NamesApart columns)
    (others : ∀ column ∈ columns, owner? column.1 ≠ some key) :
    (shapeOf columns).find? key = (plainOf columns).find? key := by
  have holds := Layout.holds_foldl apart
  have notNested : key ∉ (columns.foldl Layout.add {}).nested := by
    rw [holds.names]
    exact fun ⟨column, member, owned⟩ => others column member owned
  rw [shapeOf, find?_foldl_collapse, holds.plain key others]
  simp [notNested]

theorem find?_shapeOf_nested (apart : NamesApart columns)
    (owned : ∃ column ∈ columns, owner? column.1 = some a) :
    (shapeOf columns).find? a = some (nest (fieldsOf a columns)) := by
  have holds := Layout.holds_foldl apart
  have isNested : a ∈ (columns.foldl Layout.add {}).nested := (holds.names a).2 owned
  obtain ⟨column, member, isOwner⟩ := owned
  rw [shapeOf, find?_foldl_collapse, holds.nested column member a isOwner, Option.map_some,
    isUnmatched_ofMap, nest]
  simp [isNested]

/-- The members of a record are its columns, with those under a name in one object. -/
structure IsShaped (columns members : KeyMap Json) : Prop where
  /-- A column without a point keeps its value. -/
  plain : ∀ {key value}, '.' ∉ key.toList → columns.find? key = some value →
    members.find? key = some value
  /-- The columns under a name are its fields.  When all are null, so is the member. -/
  nested : ∀ {a f value}, '.' ∉ a.toList → columns.find? (FieldPath.through a f) = some value →
    ∃ fields : KeyMap Json, (∀ g, fields.find? g = columns.find? (FieldPath.through a g)) ∧
      members.find? a = some (nest fields)
  /-- There is no other member. -/
  only : ∀ {key member}, members.find? key = some member → '.' ∉ key.toList ∧
    ((∃ value, columns.find? key = some value) ∨
      ∃ f value, columns.find? (FieldPath.through key f) = some value)

section
variable {order : List (String × Json)} {columns : KeyMap Json} {value : Json}
variable (perm : order.Perm columns.entries)

include perm

theorem mem_order_iff : (key, value) ∈ order ↔ columns.find? key = some value := by
  rw [perm.mem_iff, KeyMap.find?_eq_some_iff]

theorem find?_plainOf :
    (plainOf order).find? key = some value ↔
      '.' ∉ key.toList ∧ columns.find? key = some value := by
  have isMember : ∀ v, (key, v) ∈ order.filter (fun column => (cut? column.1).isNone) ↔
      '.' ∉ key.toList ∧ columns.find? key = some v := by
    intro v
    rw [List.mem_filter, mem_order_iff perm, Option.isNone_iff_eq_none, cut?_eq_none_iff, and_comm]
  refine (KeyMap.find?_ofList_eq_some_iff fun v w isV isW => ?_).trans (isMember value)
  exact Option.some.inj (((isMember v).1 isV).2.symm.trans ((isMember w).1 isW).2)

theorem find?_fieldsOf (undotted : '.' ∉ a.toList) :
    (fieldsOf a order).find? f = columns.find? (FieldPath.through a f) := by
  have isMember : ∀ v, (f, v) ∈ order.filterMap (fieldUnder? a) ↔
      columns.find? (FieldPath.through a f) = some v := by
    intro v
    rw [List.mem_filterMap, ← mem_order_iff perm]
    constructor
    · rintro ⟨⟨key, value⟩, member, isField⟩
      obtain ⟨isCut, rfl⟩ : cut? key = some (a, f) ∧ value = v := fieldUnder?_eq_some_iff.1 isField
      rwa [← (cut?_eq_some_iff.1 isCut).1]
    · exact fun member => ⟨_, member, fieldUnder?_eq_some_iff.2 ⟨cut?_through undotted, rfl⟩⟩
  refine Option.ext fun v => (KeyMap.find?_ofList_eq_some_iff fun v w isV isW => ?_).trans
    (isMember v)
  exact Option.some.inj (((isMember v).1 isV).symm.trans ((isMember w).1 isW))

/-- The columns of a record are shaped, in whatever order they come. -/
theorem isShaped_shapeOf (apart : NamesApart columns.entries) :
    IsShaped columns (shapeOf order) := by
  have apartOrder : NamesApart order := fun column member other otherMember =>
    apart column (perm.mem_iff.1 member) other (perm.mem_iff.1 otherMember)
  refine ⟨fun {key value} undotted found => ?_, fun {a f value} undotted found => ?_,
    fun {key member} found => ?_⟩
  · have others : ∀ column ∈ order, owner? column.1 ≠ some key := fun column member =>
      apartOrder _ ((mem_order_iff perm).2 found) column member
    rw [find?_shapeOf_plain apartOrder others]
    exact (find?_plainOf perm).2 ⟨undotted, found⟩
  · refine ⟨fieldsOf a order, fun g => find?_fieldsOf perm undotted, ?_⟩
    refine find?_shapeOf_nested apartOrder ⟨_, (mem_order_iff perm).2 found, ?_⟩
    exact owner?_eq_some_iff.2 ⟨undotted, f, rfl⟩
  · by_cases owned : ∃ column ∈ order, owner? column.1 = some key
    · obtain ⟨⟨_, value⟩, member, isOwner⟩ := owned
      obtain ⟨undotted, f, rfl⟩ := owner?_eq_some_iff.1 isOwner
      exact ⟨undotted, .inr ⟨f, value, (mem_order_iff perm).1 member⟩⟩
    · have others : ∀ column ∈ order, owner? column.1 ≠ some key :=
        fun column isColumn isOwner => owned ⟨column, isColumn, isOwner⟩
      rw [find?_shapeOf_plain apartOrder others] at found
      obtain ⟨undotted, isColumn⟩ := (find?_plainOf perm).1 found
      exact ⟨undotted, .inl ⟨member, isColumn⟩⟩

end

/-- Shaping leaves no choice. -/
theorem IsShaped.unique {columns members others : KeyMap Json} (shaped : IsShaped columns members)
    (shapedToo : IsShaped columns others) : members = others := by
  have agree : ∀ {members others : KeyMap Json}, IsShaped columns members →
      IsShaped columns others → ∀ key value, members.find? key = some value →
      others.find? key = some value := by
    intro members others shaped shapedToo key value found
    obtain ⟨undotted, ⟨_, isColumn⟩ | ⟨f, _, isColumn⟩⟩ := shaped.only found
    · rw [shapedToo.plain undotted isColumn, ← shaped.plain undotted isColumn, found]
    · obtain ⟨fields, areFields, isNested⟩ := shaped.nested undotted isColumn
      obtain ⟨fieldsToo, areFieldsToo, isNestedToo⟩ := shapedToo.nested undotted isColumn
      have same : fields = fieldsToo :=
        KeyMap.ext_find? fun g => (areFields g).trans (areFieldsToo g).symm
      rw [isNestedToo, ← same, ← isNested, found]
  exact KeyMap.ext_find? fun key => Option.ext fun value =>
    ⟨agree shaped shapedToo key value, agree shapedToo shaped key value⟩

/-- The order of the columns makes no difference. -/
theorem shapeOf_perm {order : List (String × Json)} {columns : KeyMap Json}
    (perm : order.Perm columns.entries) (apart : NamesApart columns.entries) :
    shapeOf order = shape columns :=
  (isShaped_shapeOf perm apart).unique (isShaped_shapeOf (.refl _) apart)

end Record

end Backoffice
