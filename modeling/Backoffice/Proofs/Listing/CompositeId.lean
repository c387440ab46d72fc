import Backoffice.Proofs.Listing.KeyCondition
import Backoffice.Proofs.Sample

/-!
# Composite ids

The composite id of a row joins the parts of its key by hyphens, and the request for
a record cuts the id at hyphens.  The two fit together exactly when the key is
`Separable` (`composite_ids_identify`).  A key whose first part has a hyphen is not: its
id can be that of another key (`Sample.ids_collide`).
-/

namespace Backoffice

/-! ## Keys of rows -/

/-- That a row of a collection has a key. -/
def Collection.HasKey (c : Collection) (row : Row) (keys : List KeyValue) : Prop :=
  List.Forall₂ (fun name k => c.field? name = some k.field ∧ row.find? name = some k.cell)
    c.primaryKeys keys

/-- That the composite id of a key leads back to it. -/
structure Separable (keys : List KeyValue) : Prop where
  /-- No key field has a point in its name. -/
  undotted : ∀ k ∈ keys, '.' ∉ k.field.name.toList
  /-- Only the last part may have hyphens. -/
  hyphenless : ∀ k ∈ keys.dropLast, '-' ∉ k.part
  /-- Every part gives its value back. -/
  legible : ∀ k ∈ keys, k.cell.isLegible k.field = true

theorem Collection.name_of_field? {c : Collection} {name : String} {f : Field}
    (found : c.field? name = some f) : f.name = name := by
  simpa using List.find?_some found

/-- The key fields of a collection are those of the key of any of its rows. -/
theorem Collection.HasKey.keyFields_eq {c : Collection} {row : Row} {keys : List KeyValue}
    (hasKey : c.HasKey row keys) : c.keyFields = keys.map KeyValue.field := by
  rw [HasKey] at hasKey
  rw [Collection.keyFields]
  generalize c.primaryKeys = names at hasKey
  induction hasKey with
  | nil => rfl
  | cons here _ ih => rw [List.filterMap_cons, here.1, ih, List.map_cons]

/-- The fields of a key are those of their names. -/
theorem Collection.HasKey.found {c : Collection} {row : Row} {keys : List KeyValue}
    (hasKey : c.HasKey row keys) : ∀ k ∈ keys, c.field? k.field.name = some k.field := by
  rw [HasKey] at hasKey
  generalize c.primaryKeys = names at hasKey
  induction hasKey with
  | nil => simp
  | cons here _ ih =>
      intro k member
      rcases List.mem_cons.1 member with rfl | later
      · rw [Collection.name_of_field? here.1]
        exact here.1
      · exact ih k later

/-- A composite key has values. -/
theorem Collection.HasKey.ne_nil {c : Collection} {row : Row} {keys : List KeyValue}
    (hasKey : c.HasKey row keys) (composite : c.isComposite = true) : keys ≠ [] := by
  rintro rfl
  have none : c.primaryKeys = [] := List.forall₂_nil_right_iff.1 hasKey
  rw [Collection.isComposite, none] at composite
  cases composite

/-! ## Cutting a joined text -/

/-- The parts of a key, joined by hyphens. -/
def joinedParts (keys : List KeyValue) : List Char :=
  List.intercalate [compositeIdSeparator] (keys.map KeyValue.part)

/-- The pieces of the joined parts give all values back exactly when no part but the
last has hyphens and all are legible. -/
theorem reads_pieces_iff (keys : List KeyValue) (some_key : keys ≠ []) :
    List.Forall₂ KeyValue.Reads keys
        (Text.piecesAtMost compositeIdSeparator keys.length (joinedParts keys)) ↔
      (∀ k ∈ keys.dropLast, '-' ∉ k.part) ∧ ∀ k ∈ keys, k.cell.isLegible k.field = true := by
  induction keys with
  | nil => exact absurd rfl some_key
  | cons k rest ih =>
      cases rest with
      | nil =>
          have joined : joinedParts [k] = k.part := by simp [joinedParts]
          rw [joined]
          show List.Forall₂ KeyValue.Reads [k] [k.part] ↔ _
          have reads : k.Reads k.part ↔ k.cell.isLegible k.field = true := k.holds.reads_part_iff
          simp [reads]
      | cons next others =>
          have joined : joinedParts (k :: next :: others) =
              k.part ++ compositeIdSeparator :: joinedParts (next :: others) := by
            simp [joinedParts, List.intercalate_cons_of_ne_nil]
          have step := ih (List.cons_ne_nil next others)
          rw [joined]
          by_cases hyphen : '-' ∈ k.part
          · -- the first piece ends too early
            obtain ⟨before, after, split, absent⟩ := Text.exists_before_first hyphen
            have cut : Text.splitFirst compositeIdSeparator
                (k.part ++ compositeIdSeparator :: joinedParts (next :: others)) =
                some (before, after ++ compositeIdSeparator :: joinedParts (next :: others)) := by
              rw [Text.splitFirst_eq_some_iff, split]
              exact ⟨by simp [compositeIdSeparator], absent⟩
            have early : ¬ k.Reads before := k.holds.not_reads_before split absent
            refine iff_of_false ?_ ?_
            · simp only [List.length_cons, Text.piecesAtMost, cut]
              intro reads
              exact early (List.forall₂_cons.1 reads).1
            · rintro ⟨hyphenless, _⟩
              exact hyphenless k (by simp) hyphen
          · have cut : Text.splitFirst compositeIdSeparator
                (k.part ++ compositeIdSeparator :: joinedParts (next :: others)) =
                some (k.part, joinedParts (next :: others)) :=
              Text.splitFirst_eq_some_iff.2 ⟨rfl, hyphen⟩
            have reads : k.Reads k.part ↔ k.cell.isLegible k.field = true :=
              k.holds.reads_part_iff
            simp only [List.length_cons, Text.piecesAtMost, cut, List.forall₂_cons, reads]
            rw [List.length_cons] at step
            rw [step, List.dropLast_cons_cons]
            simp only [List.forall_mem_cons]
            tauto

/-! ## The id of a record -/

/-- A row with a key without points in its names has the joined parts as its id. -/
theorem Collection.record_compositeId {c : Collection} {row : Row} {keys : List KeyValue}
    (composite : c.isComposite = true) (hasKey : c.HasKey row keys)
    (undotted : ∀ k ∈ keys, '.' ∉ k.field.name.toList) :
    (c.record row.toJson).find? compositeIdField =
      some (.text (String.ofList (joinedParts keys))) := by
  have parts : c.primaryKeys.map (fun name =>
      (Record.idPart ((Record.shape row.toJson).find? name)).toList) = keys.map KeyValue.part := by
    have each : List.Forall₂ (fun name k =>
        (Record.idPart ((Record.shape row.toJson).find? name)).toList = k.part)
        c.primaryKeys keys := by
      refine List.forall₂_iff_zip.2 ⟨hasKey.length_eq, fun {name k} member => ?_⟩
      obtain ⟨field, cell⟩ := List.forall₂_zip hasKey member
      have undottedName : '.' ∉ name.toList := by
        rw [← name_of_field? field]
        exact undotted k (List.of_mem_zip member).2
      have held : row.toJson.find? name = some k.cell.toJson := by
        rw [Row.toJson, KeyMap.find?_mapValues, cell]
        rfl
      rw [Record.find?_shape held k.holds.plain undottedName]
      rfl
    rw [← List.forall₂_eq_eq_eq, List.forall₂_map_left_iff, List.forall₂_map_right_iff]
    exact each
  unfold record
  simp only
  rw [if_pos composite, KeyMap.find?_insert_self]
  congr 2
  rw [← String.toList_inj, String.toList_ofList, Record.compositeId, String.toList_intercalate,
    List.map_map, joinedParts, ← parts]
  rfl

/-- The pieces of the id of a separable key give all values back. -/
theorem Separable.reads_pieces {keys : List KeyValue} (separable : Separable keys)
    (someKey : keys ≠ []) :
    List.Forall₂ KeyValue.Reads keys
      (Text.piecesAtMost compositeIdSeparator keys.length (joinedParts keys)) :=
  (reads_pieces_iff keys someKey).2 ⟨separable.hyphenless, separable.legible⟩

/-- Pieces give the same fields the same values. -/
theorem KeyValue.values_eq {keys keys' : List KeyValue} {pieces : List (List Char)}
    (sameFields : keys.map KeyValue.field = keys'.map KeyValue.field)
    (reads : List.Forall₂ KeyValue.Reads keys pieces)
    (reads' : List.Forall₂ KeyValue.Reads keys' pieces) :
    keys.map KeyValue.value = keys'.map KeyValue.value := by
  induction reads generalizing keys' with
  | nil =>
      cases reads'
      rfl
  | cons here _ ih =>
      cases reads' with
      | cons here' rest' =>
          obtain ⟨sameField, sameRest⟩ := List.cons.inj sameFields
          have sameValue := Field.Reads.unique here (by
            rw [sameField]
            exact here')
          rw [List.map_cons, List.map_cons, sameValue, ih sameRest rest']

/-! ## Asking for a record by its id -/

/-- The request for the composite id of a row asks for the key of the row exactly when
the key is separable.  Rows with separable keys and one id have the same key. -/
theorem composite_ids_identify [ZoneDatabase] {q : RecordQuery} {row : Row} {keys : List KeyValue}
    (d : Sql.Dialect) (now : Instant) (composite : q.collection.isComposite = true)
    (hasKey : q.collection.HasKey row keys)
    (isId : (q.collection.record row.toJson).find? compositeIdField = some (.text q.recordId)) :
    ((∃ s, q.statement d now = .ok s ∧ s.joins = [] ∧
        s.condition = some (.all (keys.map fun k => k.equation q.collection d))) ↔
      Separable keys) ∧
    ∀ (row' : Row) (keys' : List KeyValue), q.collection.HasKey row' keys' →
      (q.collection.record row'.toJson).find? compositeIdField = some (.text q.recordId) →
      Separable keys → Separable keys' → keys.map KeyValue.value = keys'.map KeyValue.value := by
  have someKey := hasKey.ne_nil composite
  have isJoined : ∀ {row : Row} {keys : List KeyValue}, q.collection.HasKey row keys →
      (q.collection.record row.toJson).find? compositeIdField = some (.text q.recordId) →
      (∀ k ∈ keys, '.' ∉ k.field.name.toList) → q.recordId.toList = joinedParts keys := by
    intro row keys hasKey isId undotted
    rw [Collection.record_compositeId composite hasKey undotted, Option.some.injEq,
      Json.text.injEq] at isId
    rw [← isId, String.toList_ofList]
  constructor
  · rw [RecordQuery.asks_iff hasKey.keyFields_eq hasKey.found someKey]
    constructor
    · rintro ⟨undotted, reads⟩
      rw [isJoined hasKey isId undotted, reads_pieces_iff keys someKey] at reads
      exact ⟨undotted, reads.1, reads.2⟩
    · intro separable
      rw [isJoined hasKey isId separable.undotted]
      exact ⟨separable.undotted, separable.reads_pieces someKey⟩
  · intro row' keys' hasKey' isId' separable separable'
    have sameFields : keys.map KeyValue.field = keys'.map KeyValue.field :=
      hasKey.keyFields_eq.symm.trans hasKey'.keyFields_eq
    have sameLength : keys.length = keys'.length := by
      rw [← hasKey.length_eq, ← hasKey'.length_eq]
    have reads := separable.reads_pieces someKey
    have reads' := separable'.reads_pieces (hasKey'.ne_nil composite)
    rw [← isJoined hasKey isId separable.undotted] at reads
    rw [← isJoined hasKey' isId' separable'.undotted, ← sameLength] at reads'
    exact KeyValue.values_eq sameFields reads reads'

/-! ## Ids of log entries -/

namespace Sample

/-- A column of the key of the log, as a field. -/
def keyField (name : String) : Field where
  name := name
  column := name
  type := .string
  isRequired := true
  isPrimaryKey := true
  enumValues := none
  default := .none
  rules := (Column.named name .string).asPrimaryKey.rules

/-- A log entry. -/
def entry (code trace : String) (stack : Option String) : Row :=
  .ofList [("code", .text (some code)), ("trace", .text (some trace)), ("stack", .text stack)]

/-- The key of a log entry. -/
def entryKey (code trace : String) : List KeyValue :=
  [⟨keyField "code", .text (some code), .text code, .text⟩,
   ⟨keyField "trace", .text (some trace), .text trace, .text⟩]

section
variable (code trace : String) (stack : Option String)

theorem hasKey_entry : log.toCollection.HasKey (entry code trace stack) (entryKey code trace) := by
  refine .cons ⟨rfl, ?_⟩ (.cons ⟨rfl, ?_⟩ .nil)
  · show (entry code trace stack).find? "code" = some (.text (some code))
    simp [entry, KeyMap.ofList, KeyMap.find?_insert_self, KeyMap.find?_insert_of_ne]
  · show (entry code trace stack).find? "trace" = some (.text (some trace))
    simp [entry, KeyMap.ofList, KeyMap.find?_insert_self, KeyMap.find?_insert_of_ne]

theorem undotted_entryKey : ∀ k ∈ entryKey code trace, '.' ∉ k.field.name.toList := by
  have names : (entryKey code trace).map (fun k => k.field.name) = ["code", "trace"] := rfl
  intro k member
  have named : k.field.name ∈ ["code", "trace"] := names ▸ List.mem_map_of_mem member
  rcases List.mem_pair.1 named with name | name
  · rw [name]
    decide
  · rw [name]
    decide

theorem joinedParts_entryKey :
    joinedParts (entryKey code trace) = code.toList ++ '-' :: trace.toList := by
  simp [joinedParts, entryKey, KeyValue.part, compositeIdSeparator]

theorem entry_compositeId :
    (log.toCollection.record (entry code trace stack).toJson).find? compositeIdField =
      some (.text (code ++ "-" ++ trace)) := by
  rw [Collection.record_compositeId rfl (hasKey_entry code trace stack)
    (undotted_entryKey code trace), joinedParts_entryKey, Option.some.injEq, Json.text.injEq,
    ← String.toList_inj]
  simp

theorem separable_entryKey :
    Separable (entryKey code trace) ↔ '-' ∉ code.toList := by
  constructor
  · intro separable
    exact separable.hyphenless _ List.mem_cons_self
  · intro absent
    refine ⟨undotted_entryKey code trace, fun k member => ?_, fun k member => ?_⟩
    · cases List.mem_singleton.1 member
      exact absent
    · rcases List.mem_pair.1 member with rfl | rfl <;> rfl

/-- Where a hyphen stands in an id is not kept: two log entries share one. -/
theorem ids_collide (a b c : String) (stack stack' : Option String) :
    (log.toCollection.record (entry (a ++ "-" ++ b) c stack).toJson).find? compositeIdField =
      (log.toCollection.record (entry a (b ++ "-" ++ c) stack').toJson).find? compositeIdField := by
  rw [entry_compositeId, entry_compositeId]
  simp only [String.append_assoc]

end

/-- A request for a log entry. -/
def entryRequest (id : String) : RecordQuery := ⟨registry, log.toCollection, id, {}⟩

/-- That the request for an id asks for a log entry. -/
def AsksForEntry (id code trace : String) : Prop :=
  ∃ s, (entryRequest id).statement .sqlite ⟨0, 0⟩ = .ok s ∧ s.joins = [] ∧
    s.condition =
      some (.all ((entryKey code trace).map fun k => k.equation log.toCollection .sqlite))

theorem composite_ids_identify_entries :
    ¬ AsksForEntry "a-b-c" "a-b" "c" ∧ AsksForEntry "a-b-c" "a" "b-c" := by
  have separable : Separable (entryKey "a" "b-c") := (separable_entryKey "a" "b-c").2 (by decide)
  have notSeparable : ¬ Separable (entryKey "a-b" "c") := by
    rw [separable_entryKey]
    decide
  have ofHyphen := composite_ids_identify (q := entryRequest "a-b-c") .sqlite ⟨0, 0⟩ rfl
    (hasKey_entry "a-b" "c" none) (entry_compositeId "a-b" "c" none)
  have ofPlain := composite_ids_identify (q := entryRequest "a-b-c") .sqlite ⟨0, 0⟩ rfl
    (hasKey_entry "a" "b-c" none) (entry_compositeId "a" "b-c" none)
  exact ⟨fun asks => notSeparable (ofHyphen.1.1 asks), ofPlain.1.2 separable⟩

end Sample

end Backoffice
