import Backoffice.Filter.Context
import Backoffice.Proofs.Outcome
import Backoffice.Proofs.Text.Pieces

/-!
# What a path means

`Context.Means` says which field a path means: a field of the collection under its own
name, or the field of a record that a to-one association reaches, under the two names
with a point between them.  A path is resolved to a field exactly when it means that
field (`Context.resolve_eq_ok`).

A text is cut at its points, so a name with a point in it is never looked up.
-/

namespace Backoffice

/-! ## Texts of paths -/

namespace FieldPath

/-- The text of a path. -/
def text (p : FieldPath) : String :=
  match p.association with
  | none => p.field
  | some association => through association p.field

/-- No name on the path has a point. -/
structure IsPlain (p : FieldPath) : Prop where
  /-- The field has none. -/
  field : '.' ∉ p.field.toList
  /-- The association has none. -/
  association : ∀ association ∈ p.association, '.' ∉ association.toList

theorem toList_through (association field : String) :
    (through association field).toList = association.toList ++ '.' :: field.toList := by
  simp [through, toString]

theorem parse_text {p : FieldPath} (plain : p.IsPlain) : parse p.text = .ok p := by
  obtain ⟨association, field⟩ := p
  cases association with
  | none =>
      rw [parse, text, Text.pieces_of_not_mem plain.field]
      simp
  | some association =>
      rw [parse, text, toList_through, Text.pieces_of_split (plain.association association rfl),
        Text.pieces_of_not_mem plain.field]
      simp

theorem text_of_parse {path : String} {p : FieldPath} (read : parse path = .ok p) :
    p.IsPlain ∧ p.text = path := by
  by_cases dotted : '.' ∈ path.toList
  · obtain ⟨before, after, split, absent⟩ := Text.exists_before_first dotted
    by_cases again : '.' ∈ after
    · obtain ⟨between, rest, splitAgain, absentAgain⟩ := Text.exists_before_first again
      rw [parse, split, Text.pieces_of_split absent, splitAgain,
        Text.pieces_of_split absentAgain] at read
      cases read
    · rw [parse, split, Text.pieces_of_split absent, Text.pieces_of_not_mem again] at read
      cases read
      refine ⟨⟨by simpa using again, by simpa using absent⟩, String.toList_inj.1 ?_⟩
      rw [text, toList_through, split]
      simp
  · rw [parse, Text.pieces_of_not_mem dotted] at read
    cases read
    refine ⟨⟨by simpa using dotted, by simp⟩, ?_⟩
    rw [text, String.ofList_toList]

/-- A path is read from its own text, when its names have no points, and from no other. -/
theorem parse_eq_ok {path : String} {p : FieldPath} :
    parse path = .ok p ↔ p.IsPlain ∧ p.text = path := by
  refine ⟨text_of_parse, ?_⟩
  rintro ⟨plain, rfl⟩
  exact parse_text plain

end FieldPath

/-! ## Names of a collection -/

theorem List.find?_of_nodup {α : Type} {key : α → String} {items : List α}
    (unique : (items.map key).Nodup) {item : α} (member : item ∈ items) :
    items.find? (key · = key item) = some item := by
  induction items with
  | nil => cases member
  | cons first rest ih =>
      rw [List.map_cons, List.nodup_cons] at unique
      rcases List.mem_cons.1 member with rfl | later
      · rw [List.find?_cons_of_pos (by simp)]
      · have different : key first ≠ key item := by
          intro same
          exact unique.1 (same ▸ List.mem_map_of_mem later)
        rw [List.find?_cons_of_neg (by simpa using different)]
        exact ih unique.2 later

namespace Collection

variable {c : Collection} {name : String} {f : Field} {a : Association}

theorem field_of_field? (found : c.field? name = some f) : f ∈ c.fields ∧ f.name = name := by
  refine ⟨List.mem_of_find?_eq_some found, ?_⟩
  simpa using List.find?_some found

theorem field_eq_ok : c.field name = .ok f ↔ c.field? name = some f := by
  rw [field]
  cases c.field? name with
  | some found => simp
  | none => cases c.unsupported.find? (·.1 = name) <;> simp

theorem association_eq_ok :
    c.association name = .ok a ↔ c.associations.find? (·.name = name) = some a := by
  rw [association]
  cases c.associations.find? (·.name = name) with
  | none => simp
  | some found => simp

theorem of_association (found : c.association name = .ok a) :
    a ∈ c.associations ∧ a.name = name := by
  rw [association_eq_ok] at found
  refine ⟨List.mem_of_find?_eq_some found, ?_⟩
  simpa using List.find?_some found

end Collection

/-! ## Meanings -/

/-- The field of the collection, as a statement names it. -/
def Context.own (ctx : Context) (f : Field) : ResolvedField :=
  ⟨f.name, none, ctx.collection.table, f⟩

/-- The field of a record that an association reaches, as a statement names it. -/
def Association.reached (a : Association) (g : Field) : ResolvedField :=
  ⟨FieldPath.through a.name g.name, some a, a.name, g⟩

namespace Context

/-- A to-one association of the collection at hand and the collection it reaches. -/
structure Links (ctx : Context) (a : Association) (target : Collection) : Prop where
  /-- It is the one of its name. -/
  found : ctx.collection.association a.name = .ok a
  toOne : a.isToOne = true
  /-- It reaches the target. -/
  reaches : ctx.registry.collection a.target = .ok target

/-- The field that a path means. -/
inductive Means (ctx : Context) : String → ResolvedField → Prop where
  | own {f : Field} (undotted : '.' ∉ f.name.toList)
      (found : ctx.collection.field? f.name = some f) : Means ctx f.name (ctx.own f)
  | through {a : Association} {target : Collection} {g : Field} (undotted : '.' ∉ a.name.toList)
      (link : ctx.Links a target) (fieldUndotted : '.' ∉ g.name.toList)
      (found : target.field? g.name = some g) :
      Means ctx (FieldPath.through a.name g.name) (a.reached g)

variable {ctx : Context} {path : String} {g : ResolvedField}

theorem resolveOwn_eq_ok {field : String} :
    ctx.resolveOwn path field = .ok g ↔
      ∃ f, ctx.collection.field? field = some f ∧ g = ⟨path, none, ctx.collection.table, f⟩ := by
  rw [resolveOwn]
  cases found : ctx.collection.field field with
  | error e =>
      simp only [reduceCtorEq, false_iff, not_exists, not_and]
      intro f isField
      rw [Collection.field_eq_ok.2 isField] at found
      cases found
  | ok f =>
      rw [Collection.field_eq_ok.1 found]
      simp [eq_comm]

theorem resolveThrough_eq_ok {name field : String} :
    ctx.resolveThrough path name field = .ok g ↔
      ∃ a target f, ctx.Links a target ∧ a.name = name ∧ target.field? field = some f ∧
        g = ⟨path, some a, a.name, f⟩ := by
  rw [resolveThrough]
  simp only [Except.bind_eq_ok]
  constructor
  · rintro ⟨a, found, rest⟩
    have named := (Collection.of_association found).2
    subst named
    split at rest
    next => cases rest
    next toOne =>
      obtain ⟨target, reaches, rest⟩ := Except.bind_eq_ok.1 rest
      obtain ⟨f, isField, rest⟩ := Except.bind_eq_ok.1 rest
      cases rest
      exact ⟨a, target, f, ⟨found, by simpa using toOne, reaches⟩, rfl,
        Collection.field_eq_ok.1 isField, rfl⟩
  · rintro ⟨a, target, f, link, rfl, isField, rfl⟩
    refine ⟨a, link.found, ?_⟩
    rw [if_neg (by simp [link.toOne])]
    exact Except.bind_eq_ok.2 ⟨target, link.reaches,
      Except.bind_eq_ok.2 ⟨f, Collection.field_eq_ok.2 isField, rfl⟩⟩

/-- A path is resolved to the field that it means. -/
theorem resolve_eq_ok : ctx.resolve path = .ok g ↔ ctx.Means path g := by
  constructor
  · intro resolved
    rw [resolve] at resolved
    split at resolved
    next => cases resolved
    next field read =>
      obtain ⟨plain, rfl⟩ := FieldPath.parse_eq_ok.1 read
      obtain ⟨f, found, rfl⟩ := resolveOwn_eq_ok.1 resolved
      obtain ⟨_, rfl⟩ := Collection.field_of_field? found
      exact .own plain.field found
    next name field read =>
      obtain ⟨plain, rfl⟩ := FieldPath.parse_eq_ok.1 read
      obtain ⟨a, target, f, link, rfl, found, rfl⟩ := resolveThrough_eq_ok.1 resolved
      obtain ⟨_, rfl⟩ := Collection.field_of_field? found
      exact .through (plain.association a.name rfl) link plain.field found
  · intro means
    cases means with
    | @own f undotted found =>
        have read : FieldPath.parse f.name = .ok ⟨none, f.name⟩ :=
          FieldPath.parse_eq_ok.2 ⟨⟨undotted, by simp⟩, rfl⟩
        rw [resolve, read]
        exact resolveOwn_eq_ok.2 ⟨f, found, rfl⟩
    | @through a target f undotted link fieldUndotted found =>
        have read : FieldPath.parse (FieldPath.through a.name f.name) =
            .ok ⟨some a.name, f.name⟩ :=
          FieldPath.parse_eq_ok.2 ⟨⟨fieldUndotted, by simpa using undotted⟩, rfl⟩
        rw [resolve, read]
        exact resolveThrough_eq_ok.2 ⟨a, target, f, link, rfl, found, rfl⟩

/-- What is made of a field that is resolved and then checked is made of the one that the
path means. -/
theorem means_of_checked {α : Type} {passes : ResolvedField → Prop} [DecidablePred passes]
    {make : ResolvedField → α} {fault : ResolvedField → Error} {result : α}
    (checked : (do
      let g ← ctx.resolve path
      if passes g then return make g else .error (fault g)) = Except.ok result) :
    ∃ g, ctx.Means path g ∧ make g = result := by
  obtain ⟨g, resolved, checked⟩ := Except.bind_eq_ok.1 checked
  split at checked
  next =>
    cases checked
    exact ⟨g, resolve_eq_ok.1 resolved, rfl⟩
  next => cases checked

/-- A path without a point means the field of its name. -/
theorem resolve_own {f : Field} (found : ctx.collection.field? f.name = some f)
    (undotted : '.' ∉ f.name.toList) : ctx.resolve f.name = .ok (ctx.own f) :=
  resolve_eq_ok.2 (.own undotted found)

/-- A path with a point means a field that an association reaches. -/
theorem resolve_dotted (dotted : '.' ∈ path.toList) (resolved : ctx.resolve path = .ok g) :
    ∃ name, g.associationName = some name := by
  cases resolve_eq_ok.1 resolved with
  | own undotted => exact absurd dotted undotted
  | @through a target f => exact ⟨a.name, rfl⟩

end Context

end Backoffice
