import Backoffice.Listing.Single
import Backoffice.Proofs.Listing.Children
import Backoffice.Proofs.Listing.Joins
import Backoffice.Proofs.Schema.Documents
import Backoffice.Proofs.Text.Pieces

/-!
# Requests and described keys

An accepted registry counts the names of a key, and a request counts its fields.  The two
numbers are equal exactly when the key is described, and this is what a request needs besides
(`described_keys_serve_requests`): an association is joined exactly when the key it refers to
is described, its document has the type of the first key field and that of a number when
there is no field, and an id is cut into as many parts as it was made of exactly when the
key is described.

Has-one and has-many lists need no key.  They need that the first association of the name is
not one by which the collection belongs to another.
-/

namespace Backoffice

open Sql (Select)

/-! ## Joins -/

/-- The association of a name refers to a described key. -/
def Context.RefersToKey (ctx : Context) (name : String) : Prop :=
  ∃ a target, ctx.collection.association name = .ok a ∧
    ctx.registry.collection a.target = .ok target ∧
    (a.referenced ctx.collection target).KeyIsDescribed

namespace Context

variable {ctx : Context} {name : String} {tree : FilterTree Predicate} {others : List String}
variable {ds : List Declaration} (built : Registry.build ds = .ok ctx.registry)
variable (held : ctx.collection ∈ ctx.registry.toList)

include built held

/-- An association of an accepted registry is joined when it refers to a described key. -/
theorem exists_join_iff : (∃ j, ctx.join name = .ok j) ↔ ctx.RefersToKey name := by
  have hasKey : ∀ {a target}, ctx.collection.association name = .ok a →
      ctx.registry.collection a.target = .ok target →
      ((∃ key, (a.referenced ctx.collection target).keyColumn = .ok key) ↔
        (a.referenced ctx.collection target).KeyIsDescribed) := by
    intro a target found reaches
    obtain ⟨member, _⟩ := Collection.of_association found
    obtain ⟨_, reaches', link⟩ := Registry.exists_link built held member
    cases reaches.symm.trans reaches'
    -- what is referred to is the target, or else the collection that is asked about
    have referencedHeld : a.referenced ctx.collection target ∈ ctx.registry.toList := by
      rw [Association.referenced]
      cases a.kind with
      | belongsTo => exact Registry.mem_toList.2 ⟨a.target, reaches⟩
      | hasOne | hasMany => exact held
    obtain ⟨key, single⟩ := Collection.exists_singleKey
      (Registry.primaryKeys_ne_nil built referencedHeld) link.simple
    exact Collection.exists_keyColumn_iff single
  constructor
  · rintro ⟨j, joined⟩
    obtain ⟨a, target, key, found, reaches, isKey, _⟩ := join_eq_ok.1 joined
    exact ⟨a, target, found, reaches, (hasKey found reaches).1 ⟨key, isKey⟩⟩
  · rintro ⟨a, target, found, reaches, described⟩
    obtain ⟨key, isKey⟩ := (hasKey found reaches).2 described
    exact ⟨_, join_eq_ok.2 ⟨a, target, key, found, reaches, isKey, rfl⟩⟩

/-- The base of a request compiles when every association it needs refers to a described
key. -/
theorem exists_baseSelect_iff :
    (∃ s, ctx.baseSelect tree others = .ok s) ↔
      ∀ joined, tree.Names joined ∨ joined ∈ others → ctx.RefersToKey joined := by
  have listed : ∀ joined, joined ∈ sortedNames (tree.associations ++ others) ↔
      tree.Names joined ∨ joined ∈ others := by
    intro joined
    rw [mem_sortedNames, List.mem_append, FilterTree.mem_associations]
  have allJoin : (∃ joins, (sortedNames (tree.associations ++ others)).mapM ctx.join =
      .ok joins) ↔ ∀ joined, tree.Names joined ∨ joined ∈ others → ctx.RefersToKey joined := by
    rw [exists_mapM_eq_ok]
    simp only [listed, exists_join_iff built held]
  rw [← allJoin]
  simp only [baseSelect_eq_ok]
  exact ⟨fun ⟨_, joins, joined, _⟩ => ⟨joins, joined⟩,
    fun ⟨joins, joined⟩ => ⟨_, joins, joined, rfl⟩⟩

end Context

/-! ## Lists of children -/

/-- The list of the records that belong to one compiles when the first association of the
name is not one by which the collection belongs to another. -/
theorem ListQuery.exists_ofParent_iff {ds : List Declaration} {r : Registry}
    (built : Registry.build ds = .ok r) {name association : String} {c : Collection}
    (declared : r.collection name = .ok c) (id : String) (params : ListParams)
    (settings : Settings) :
    (∃ q, ofParent r name id association params settings = .ok q) ↔
      ∃ a, c.association association = .ok a ∧ a.kind ≠ .belongsTo := by
  constructor
  · rintro ⟨q, isChildren⟩
    obtain ⟨c', declared', rest⟩ := Except.bind_eq_ok.1 isChildren
    cases declared.symm.trans declared'
    obtain ⟨a, found, rest⟩ := Except.bind_eq_ok.1 rest
    refine ⟨a, found, fun belongs => ?_⟩
    rw [if_pos belongs] at rest
    cases rest
  · rintro ⟨a, found, isHas⟩
    obtain ⟨member, _⟩ := Collection.of_association found
    obtain ⟨target, reaches, link⟩ :=
      Registry.exists_link built (Registry.mem_toList.2 ⟨name, declared⟩) member
    obtain ⟨f, isKey⟩ := link.foreignKey
    rw [Association.owner_eq_target isHas] at isKey
    exact ⟨_, ofParent_eq_ok declared found isHas reaches isKey id params settings⟩

/-! ## Documents of associations -/

/-- How the document of an association tells the type of a key. -/
def Association.keyTypeDocument (a : Association) (key : SemanticType) : Json :=
  if a.isToOne then .text key.name else .list [.text key.name]

namespace Registry

variable {r : Registry} {a : Association} {target : Collection}

theorem type_associationDocument :
    (r.associationDocument a).member? "type" = some (a.keyTypeDocument (r.keyType a.target)) := by
  rw [Association.keyTypeDocument]
  exact Json.member?_objectOfSome (by simp) (.tail _ (.head _))

theorem keyType_eq (reaches : r.collection a.target = .ok target) :
    r.keyType a.target = (target.keyFields.head?.map (·.type)).getD .number := by
  rw [keyType, collection_eq_ok.1 reaches, Option.bind_some]
  cases target.keyFields.head? with
  | none => rfl
  | some key => rfl

end Registry

/-! ## Parts of ids -/

/-- The number of key values in the id of a record. -/
def Collection.idPartCount (c : Collection) : Nat :=
  if c.isComposite then c.primaryKeys.length else 1

namespace Collection

variable {c : Collection}

/-- The id of a record has as many key values as the key has names. -/
theorem idPartCount_eq (keyed : c.primaryKeys ≠ []) : c.idPartCount = c.primaryKeys.length := by
  rw [idPartCount]
  split
  next => rfl
  next simple =>
    obtain ⟨name, single⟩ := exists_singleKey keyed (Bool.eq_false_iff.2 simple)
    rw [single, List.length_singleton]

end Collection

namespace RecordQuery

variable {c : Collection} {columns : KeyMap Json} {id : String}

/-- The id of a record is cut into as many parts as the key has fields, when it is
described. -/
theorem length_idParts (composite : c.isComposite = true) (described : c.KeyIsDescribed)
    (isId : (c.record columns).find? compositeIdField = some (.text id)) :
    (idParts c.keyFields.length id).length = c.keyFields.length := by
  -- a key value may have separators in it, so there are at least those between the parts
  have separators : c.primaryKeys.length ≤ id.toList.count compositeIdSeparator + 1 := by
    unfold Collection.record at isId
    simp only at isId
    rw [if_pos composite, KeyMap.find?_insert_self, Option.some.injEq, Json.text.injEq,
      Record.compositeId] at isId
    rw [← isId, String.toList_intercalate]
    have joined := Text.length_le_count_intercalate compositeIdSeparator
      ((c.primaryKeys.map fun key =>
        Record.idPart ((Record.shape columns).find? key)).map String.toList)
    simpa using joined
  have several : 1 < c.primaryKeys.length := by simpa [Collection.isComposite] using composite
  rw [Collection.length_keyFields_iff.2 described, idParts, List.length_map,
    Text.length_piecesAtMost (by omega)]
  omega

/-- Without key fields there is no record of any id. -/
theorem keyTree_of_keyFields_eq_nil {ctx : Context} (fieldless : ctx.collection.keyFields = [])
    (id : String) :
    keyTree ctx id = .error (.request (.recordIdParts id 0 ctx.collection.name)) := by
  rw [keyTree, fieldless]
  rfl

end RecordQuery

/-! ## Requests -/

/-- What requests about a collection of a registry do with keys. -/
structure Collection.KeyUse (c : Collection) (r : Registry) (name : String) : Prop where
  /-- The base of a request joins what refers to a described key. -/
  joins : ∀ (ctx : Context) (tree : FilterTree Predicate) (others : List String),
    ctx.registry = r → ctx.collection = c →
      ((∃ s, ctx.baseSelect tree others = .ok s) ↔
        ∀ joined, tree.Names joined ∨ joined ∈ others → ctx.RefersToKey joined)
  /-- A list of children needs no key. -/
  children : ∀ association id params settings,
    (∃ q, ListQuery.ofParent r name id association params settings = .ok q) ↔
      ∃ a, c.association association = .ok a ∧ a.kind ≠ .belongsTo
  /-- The document of an association has the type of the first key field of the target, and
  that of a number when there is none.  The field is that of the first name if this has one. -/
  documents : ∀ a ∈ c.associations, ∃ target key others,
    r.collection a.target = .ok target ∧ target.primaryKeys = key :: others ∧
      (r.associationDocument a).member? "type" = some
        (a.keyTypeDocument ((target.keyFields.head?.map (·.type)).getD .number)) ∧
      ∀ f, target.field? key = some f → target.keyFields.head? = some f
  /-- The request for a record expects as many parts as its id is made of. -/
  parts : c.keyFields.length = c.idPartCount ↔ c.KeyIsDescribed
  /-- It cuts the id of a record into as many parts. -/
  cut : c.KeyIsDescribed → c.isComposite = true → ∀ columns id,
    (c.record columns).find? compositeIdField = some (.text id) →
      (RecordQuery.idParts c.keyFields.length id).length = c.keyFields.length
  /-- Without key fields it has no id to expect. -/
  fieldless : c.keyFields = [] → ∀ (ctx : Context) (id : String), ctx.collection = c →
    RecordQuery.keyTree ctx id = .error (.request (.recordIdParts id 0 c.name))

/-- An accepted registry leaves open whether keys are described, and requests need it.  Where
the field names of a declaration differ, its key is described when no key column is of a type
without semantic type. -/
theorem described_keys_serve_requests {ds : List Declaration} {r : Registry}
    (built : Registry.build ds = .ok r) {name : String} {c : Collection}
    (declared : r.collection name = .ok c) :
    c.KeyUse r name ∧ ∃ d ∈ ds, d.toCollection = c ∧ ((d.columns.map (·.field)).Nodup →
      (c.KeyIsDescribed ↔ ∀ column ∈ d.columns, column.primaryKey = true →
        column.type.semantic ≠ .unsupported)) := by
  have held : c ∈ r.toList := Registry.mem_toList.2 ⟨name, declared⟩
  have keyed : c.primaryKeys ≠ [] := Registry.primaryKeys_ne_nil built held
  refine ⟨{ joins := ?joins, children := ?children, documents := ?documents, parts := ?parts,
            cut := ?cut, fieldless := ?fieldless }, ?declaration⟩
  case joins =>
    rintro ctx tree others rfl rfl
    exact Context.exists_baseSelect_iff built held
  case children =>
    intro association id params settings
    exact ListQuery.exists_ofParent_iff built declared id params settings
  case documents =>
    intro a member
    obtain ⟨target, reaches, _⟩ := Registry.exists_link built held member
    have targetKeyed := Registry.primaryKeys_ne_nil built (Registry.mem_toList.2 ⟨_, reaches⟩)
    obtain ⟨key, others, keys⟩ := List.exists_cons_of_ne_nil targetKeyed
    refine ⟨target, key, others, reaches, keys, ?_, fun f => Collection.head?_keyFields keys⟩
    rw [Registry.type_associationDocument, Registry.keyType_eq reaches]
  case parts =>
    rw [Collection.idPartCount_eq keyed]
    exact Collection.length_keyFields_iff
  case cut =>
    intro described composite columns id isId
    exact RecordQuery.length_idParts composite described isId
  case fieldless =>
    rintro noField ctx id rfl
    exact RecordQuery.keyTree_of_keyFields_eq_nil noField id
  case declaration =>
    obtain ⟨d, member, _, rfl, _⟩ := Registry.exists_declaration built declared
    exact ⟨d, member, rfl, Declaration.keyIsDescribed_iff⟩

namespace Sample

/-- Accounts under handles, of a type of their database. -/
def account : Declaration where
  name := "account"
  table := "accounts"
  columns := [(Column.named "handle" (.custom "citext")).asPrimaryKey, Column.named "name" .string]

/-- Posts, each of an account and in answer to a post. -/
def post : Declaration where
  name := "post"
  table := "posts"
  columns :=
    [(Column.named "id" .integer).asPrimaryKey, Column.named "owner_handle" .text,
     Column.named "parent_id" .integer]
  associations :=
    [⟨"owner", "account", .belongsTo, "owner_handle"⟩, ⟨"parent", "post", .belongsTo, "parent_id"⟩]

/-- The registry of the two. -/
def community : Registry := (Registry.build [account, post]).toOption.getD ⟨.empty⟩

/-- A request about posts. -/
def posts : Context := { articles with registry := community, collection := post.toCollection }

/-- The owner of a post is accepted and not joined, and the post that it answers is. -/
theorem described_keys_serve_requests_of_posts :
    Registry.build [account, post] = .ok community ∧
      community.collection "post" = .ok post.toCollection ∧
      post.toCollection.KeyUse community "post" ∧
      (¬ ∃ s, posts.baseSelect (.all []) ["owner"] = .ok s) ∧
      ∃ s, posts.baseSelect (.all []) ["parent"] = .ok s := by
  have built : Registry.build [account, post] = .ok community := rfl
  have declared : community.collection "post" = .ok post.toCollection := rfl
  have use := (described_keys_serve_requests built declared).1
  refine ⟨built, declared, use, fun joined => ?_, ?_⟩
  · have refers := (use.joins posts (.all []) ["owner"] rfl rfl).1 joined "owner"
      (.inr List.mem_cons_self)
    obtain ⟨_, _, found, reaches, described⟩ := refers
    cases found
    cases reaches
    exact absurd described (by decide)
  · refine (use.joins posts (.all []) ["parent"] rfl rfl).2 fun joined listed => ?_
    rcases listed with ⟨p, isLeaf, _⟩ | other
    · cases isLeaf
    · cases List.mem_singleton.1 other
      exact ⟨_, _, rfl, rfl, by decide⟩

end Sample

end Backoffice
