import Backoffice.Proofs.Filter.Search
import Backoffice.Proofs.Sample
import Backoffice.Proofs.Schema.Names

/-!
# Fields under their names

A field is found under its own name exactly when the name has no point in it and the
field is the first of its name.  A field that an association reaches is found when both
names are like that.  A search looks up every field it looks at by its name, so one field
that is not found makes every search of the collection fail.

Registries with such names are accepted.  In one whose declarations were made in plain
steps every field is found, and a search fails for its length only.
-/

namespace Backoffice

namespace Context

variable {ctx : Context}

theorem resolve_own_iff {f : Field} :
    ctx.resolve f.name = .ok (ctx.own f) ↔
      '.' ∉ f.name.toList ∧ ctx.collection.field? f.name = some f := by
  refine ⟨fun resolved => ?_, fun ⟨undotted, found⟩ => resolve_own found undotted⟩
  have means := resolve_eq_ok.1 resolved
  generalize isPath : f.name = path at means
  generalize isField : ctx.own f = g at means
  cases means with
  | @own other undotted found =>
      obtain rfl : f = other := congrArg ResolvedField.field isField
      exact ⟨undotted, found⟩
  | through => cases congrArg ResolvedField.association isField

theorem resolve_reached_iff {a : Association} {target : Collection}
    (toOne : a.isToOne = true) (reaches : ctx.registry.collection a.target = .ok target)
    {g : Field} :
    ctx.resolve (FieldPath.through a.name g.name) = .ok (a.reached g) ↔
      ('.' ∉ a.name.toList ∧ ctx.collection.association a.name = .ok a) ∧
        '.' ∉ g.name.toList ∧ target.field? g.name = some g := by
  constructor
  · intro resolved
    have means := resolve_eq_ok.1 resolved
    generalize isPath : FieldPath.through a.name g.name = path at means
    generalize isField : a.reached g = f at means
    cases means with
    | own => cases congrArg ResolvedField.association isField
    | @through b _ h undotted link fieldUndotted found =>
        obtain rfl : a = b := Option.some.inj (congrArg ResolvedField.association isField)
        obtain rfl : g = h := congrArg ResolvedField.field isField
        cases reaches.symm.trans link.reaches
        exact ⟨⟨undotted, link.found⟩, fieldUndotted, found⟩
  · rintro ⟨⟨undotted, isFirst⟩, fieldUndotted, found⟩
    exact resolve_eq_ok.2 (.through undotted ⟨isFirst, toOne, reaches⟩ fieldUndotted found)

/-! ## Plain names -/

/-- Every field that a path could mean is found under its path. -/
structure FindsAllFields (ctx : Context) : Prop where
  own : ∀ f ∈ ctx.collection.fields, ctx.resolve f.name = .ok (ctx.own f)
  /-- So are the fields that the to-one associations reach. -/
  reached : ∀ a ∈ ctx.collection.toOneAssociations, ∃ target,
    ctx.registry.collection a.target = .ok target ∧
      ∀ g ∈ target.fields, ctx.resolve (FieldPath.through a.name g.name) = .ok (a.reached g)

/-- With plain names in the whole registry, every field is found. -/
theorem findsAllFields (plain : ∀ c ∈ ctx.registry.toList, c.HasPlainNames)
    (held : ctx.collection ∈ ctx.registry.toList)
    (reach : ∀ a ∈ ctx.collection.toOneAssociations,
      ∃ target, ctx.registry.collection a.target = .ok target) : ctx.FindsAllFields where
  own f member :=
    resolve_own_iff.2 ⟨(plain _ held).fieldsUndotted f member, (plain _ held).field? member⟩
  reached a member := by
    obtain ⟨isAssociation, toOne⟩ := List.mem_filter.1 member
    obtain ⟨target, reaches⟩ := reach a member
    have targetPlain := plain target (Registry.mem_toList.2 ⟨a.target, reaches⟩)
    have associationPlain := (plain _ held).associationsUndotted a isAssociation
    refine ⟨target, reaches, fun g isField => (resolve_reached_iff toOne reaches).2 ?_⟩
    exact ⟨⟨associationPlain, (plain _ held).association isAssociation⟩,
      targetPlain.fieldsUndotted g isField, targetPlain.field? isField⟩

/-- Where all fields are found, every path that a search looks up means a field. -/
theorem FindsAllFields.exists_resolve (all : ctx.FindsAllFields) {extended : Bool} {path : String}
    (searched : ctx.Searches extended path) : ∃ g, ctx.resolve path = .ok g := by
  cases searched with
  | own candidate => exact ⟨_, all.own _ (Collection.mem_of_searchCandidates candidate)⟩
  | through _ member reaches candidate =>
      obtain ⟨target, isTarget, found⟩ := all.reached _ member
      cases reaches.symm.trans isTarget
      exact ⟨_, found _ (Collection.mem_of_searchCandidates candidate)⟩

end Context

/-! ## Accepted registries -/

namespace Registry

variable {ds : List Declaration} {r : Registry}

/-- Every association of a collection of an accepted registry reaches one. -/
theorem exists_target (built : build ds = .ok r) {c : Collection} (held : c ∈ r.toList) :
    ∀ a ∈ c.toOneAssociations, ∃ target, r.collection a.target = .ok target := by
  intro a member
  obtain ⟨target, reaches, _⟩ := exists_link built held (List.mem_of_mem_filter member)
  exact ⟨target, reaches⟩

/-- An accepted registry of declarations with plain names has plain names. -/
theorem hasPlainNames (built : build ds = .ok r) (plain : ∀ d ∈ ds, d.HasPlainNames) :
    ∀ c ∈ r.toList, c.HasPlainNames := by
  intro c held
  obtain ⟨name, found⟩ := mem_toList.1 held
  obtain ⟨d, member, _, rfl, _⟩ := exists_declaration built found
  exact (plain d member).toCollection

end Registry

/-- In an accepted registry, a field is found under its name when the name has no point and
no earlier field has it.  A search within the limit succeeds when all that it looks up is
found, which is so after plain steps. -/
theorem fields_found_iff {ds : List Declaration} {r : Registry} (built : Registry.build ds = .ok r)
    {ctx : Context} (inRegistry : ctx.registry = r) (held : ctx.collection ∈ r.toList) :
    (∀ f ∈ ctx.collection.fields,
      ctx.resolve f.name = .ok (ctx.own f) ↔
        '.' ∉ f.name.toList ∧ ctx.collection.field? f.name = some f) ∧
    (∀ a ∈ ctx.collection.toOneAssociations, ∃ target, r.collection a.target = .ok target ∧
      ∀ g ∈ target.fields,
        ctx.resolve (FieldPath.through a.name g.name) = .ok (a.reached g) ↔
          ('.' ∉ a.name.toList ∧ ctx.collection.association a.name = .ok a) ∧
            '.' ∉ g.name.toList ∧ target.field? g.name = some g) ∧
    (∀ text extended, (∃ tree, ctx.search text extended = .ok tree) ↔
      text.utf8ByteSize ≤ searchTextLimit ∧
        ∀ path, ctx.Searches extended path → ∃ g, ctx.resolve path = .ok g) ∧
    ((∀ d ∈ ds, d.IsPlainlyMade) →
      ctx.FindsAllFields ∧ ∀ text extended, text.utf8ByteSize ≤ searchTextLimit →
        ∃ tree, ctx.search text extended = .ok tree) := by
  subst inRegistry
  have reach := Registry.exists_target built held
  have searches := Context.exists_search reach
  refine ⟨fun f _ => Context.resolve_own_iff, fun a member => ?_, searches, fun made => ?_⟩
  · obtain ⟨target, reaches⟩ := reach a member
    have toOne : a.isToOne = true := (List.mem_filter.1 member).2
    exact ⟨target, reaches, fun g _ => Context.resolve_reached_iff toOne reaches⟩
  · have plain : ∀ d ∈ ds, d.HasPlainNames := fun d member => (made d member).hasPlainNames
    have all := Context.findsAllFields (Registry.hasPlainNames built plain) held reach
    refine ⟨all, fun text extended short => ?_⟩
    exact (searches text extended).2 ⟨short, fun path => all.exists_resolve⟩

namespace Sample

/-- Notes, with a point in the name of a field. -/
def note : Declaration where
  name := "note"
  table := "notes"
  columns :=
    [(Column.named "id" .integer).asPrimaryKey, (Column.named "a.b" .text).storedAs "a_b"]

/-- A request about notes. -/
def notes : Context :=
  { articles with
    registry := (Registry.build [note]).toOption.getD ⟨.empty⟩
    collection := note.toCollection }

/-- A step for every column and every association makes the declarations. -/
theorem isPlainlyMade : ∀ d ∈ [article, author, log], d.IsPlainlyMade := by
  intro d member
  rcases List.mem_cons.1 member with rfl | member
  · exact ⟨_, [.column (Column.named "id" .string), .column (Column.named "title" .string),
      .configure "id" fun c => { c with type := .integer }, .configure "id" Column.asPrimaryKey,
      .column (Column.named "created_at" .timestamp), .column (Column.named "author_id" .integer),
      .association ⟨"author", "author", .belongsTo, "author_id"⟩],
      .new "article" "articles", by decide, rfl⟩
  · rcases List.mem_cons.1 member with rfl | member
    · exact ⟨_, [.column (Column.named "id" .integer), .configure "id" Column.asPrimaryKey,
        .column (Column.named "name" .string),
        .association ⟨"articles", "article", .hasMany, "author_id"⟩],
        .new "author" "authors", by decide, rfl⟩
    · rw [List.mem_singleton.1 member]
      exact ⟨_, [.column (Column.named "code" .string), .configure "code" Column.asPrimaryKey,
        .column (Column.named "trace" .string), .configure "trace" Column.asPrimaryKey,
        .column (Column.named "stack" .text)], .new "log" "logs", by decide, rfl⟩

/-- A search of the notes looks at their text. -/
theorem text_of_notes : ∃ f ∈ notes.collection.fields, f.name = "a.b" ∧
    f ∈ notes.collection.searchCandidates :=
  ⟨⟨"a.b", "a_b", .string, false, false, none, .none, []⟩, .tail _ (.head _), rfl,
    .tail _ (.head _)⟩

/-- The text of the notes is not found under its name, so no search of them succeeds.  The
articles are found by all of their names. -/
theorem fields_found_iff_of_notes :
    (∃ f ∈ notes.collection.fields, notes.resolve f.name ≠ .ok (notes.own f)) ∧
      (∀ text extended tree, notes.search text extended ≠ .ok tree) ∧
      articles.FindsAllFields ∧ ∃ tree, articles.search "x" true = .ok tree := by
  have built : Registry.build [note] = .ok notes.registry := rfl
  obtain ⟨own, _, searches, _⟩ :=
    fields_found_iff built (show notes.registry = _ from rfl) (List.mem_singleton_self _)
  obtain ⟨_, _, _, plainly⟩ :=
    fields_found_iff build_declarations (show articles.registry = _ from rfl) List.mem_cons_self
  obtain ⟨all, found⟩ := plainly isPlainlyMade
  obtain ⟨f, member, named, candidate⟩ := text_of_notes
  refine ⟨⟨f, member, fun resolved => ?_⟩, ?_, all, found "x" true (by decide)⟩
  · have undotted := ((own f member).1 resolved).1
    rw [named] at undotted
    exact undotted (by decide)
  · intro text extended tree searched
    obtain ⟨g, resolved⟩ := ((searches text extended).1 ⟨tree, searched⟩).2 _ (.own candidate)
    have unknown : notes.resolve "a.b" = .error (.unknownAssociation "note" "a") := rfl
    rw [named, unknown] at resolved
    cases resolved

end Sample

end Backoffice
