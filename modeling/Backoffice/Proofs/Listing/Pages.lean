import Backoffice.Proofs.Listing.Totals
import Backoffice.Proofs.Schema.Keys
import Backoffice.Proofs.Sql.Order

/-!
# Pages of lists

A page is ordered by the sort field and then by the key.  Records differ in the key, so no
two of them are in one place, whatever the sort field has: there is a single order of all
rows.  Pages of one size are windows of it that follow each other, so the first pages
together are its first rows.
-/

namespace Backoffice

open Sql (Collation Database Engine JoinedRow Select)

variable {V : Type}

/-! ## Windows -/

/-- The window of a page number behind the pages before it. -/
theorem PageParams.eq_of_window {s : Settings} {i : Nat} {size : Option Nat} {w : Window}
    (accepted : PageParams.window ⟨some (i + 1), size⟩ s = .ok w) :
    w = ⟨i * s.pageSize (size.getD s.defaultPageSize),
      s.pageSize (size.getD s.defaultPageSize)⟩ := by
  rw [window] at accepted
  split_ifs at accepted
  cases accepted
  simp

/-- Windows that follow each other make up the front of a list. -/
theorem flatMap_windows {α : Type} (rows : List α) (limit count : Nat) :
    ((List.range count).flatMap fun i => (rows.drop (i * limit)).take limit) =
      rows.take (count * limit) := by
  induction count with
  | zero => simp
  | succ count ih =>
      rw [List.range_succ, List.flatMap_append, ih, List.flatMap_singleton, Nat.succ_mul,
        List.take_add]

/-! ## Records told apart -/

/-- The keys of the records of a declaration tell them apart, and so does their order. -/
structure Sql.Engine.TellsApart (e : Engine V) (k : Collation V) (db : Database V)
    (d : Declaration) : Prop where
  /-- No two records are alike in all columns of the key. -/
  records : (db d.table).Pairwise fun row other =>
    ∃ c ∈ d.columns, c.primaryKey = true ∧ e.alike (row c.column) (other c.column) = false
  /-- Only values that are alike are in one place in a key column. -/
  places : ∀ c ∈ d.columns, c.primaryKey = true → ∀ v w,
    k.order (.column ⟨d.table, c.column⟩) v w = .eq → e.alike v w = true

/-- A page is ordered by every column of a described key. -/
theorem ListQuery.mem_pageOrder {d : Declaration} (differ : (d.columns.map (·.field)).Nodup)
    (described : d.toCollection.KeyIsDescribed) {c : Column} (member : c ∈ d.columns)
    (primary : c.primaryKey = true) (sort : Option (ResolvedField × Sql.Direction)) :
    (.output (.column ⟨d.table, c.column⟩), .ascending) ∈ pageOrder d.toCollection sort := by
  have supported := (Declaration.keyIsDescribed_iff differ).1 described c member primary
  obtain ⟨f, isField⟩ := Option.ne_none_iff_exists'.1 fun isNone =>
    supported (Column.field?_eq_none_iff.1 isNone)
  have isKey : f ∈ d.toCollection.keyFields := by
    rw [Declaration.keyFields_toCollection differ]
    exact List.mem_filterMap.2 ⟨c, List.mem_filter.2 ⟨member, primary⟩, isField⟩
  rw [pageOrder, ← (Column.of_field? isField).2]
  exact List.mem_append_right _ (List.mem_map_of_mem isKey)

namespace ListQuery.HasParts

variable {q : ListQuery} {d : Sql.Dialect} {now : Instant} {p : ListParts}

/-- The parts of another page differ in the window. -/
theorem withPage [ZoneDatabase] (parts : q.HasParts d now p) {page : PageParams} {w : Window}
    (accepted : page.window q.settings = .ok w) :
    { q with params := { q.params with page } : ListQuery }.HasParts d now
      { p with window := w } :=
  { parts with window_eq := accepted }

section
variable {e : Engine V} {k : Collation V} {db : Database V} {ds : List Declaration}
variable (built : Registry.build ds = .ok p.context.registry)
variable (held : p.context.collection ∈ p.context.registry.toList)
variable (names : p.context.collection.NamesTables)
variable (differ : ∀ d ∈ ds, (d.columns.map (·.field)).Nodup)
variable (isEquality : e.IsEquality) (keeps : e.KeepsKeys db ds)

include built held names differ isEquality keeps

/-- No two rows of a page are in one place. -/
theorem pairwise_compareRows [ZoneDatabase] (parts : q.HasParts d now p)
    (described : p.context.collection.KeyIsDescribed) (apart : ∀ d ∈ ds, e.TellsApart k db d) :
    ((p.statements p.context.collection).page.joinedRows e db).Pairwise fun row other =>
      (p.statements p.context.collection).page.compareRows k e row other ≠ .eq := by
  obtain ⟨besides, isMap, own, _⟩ := Context.exists_joinedRows_eq_map built held names differ
    isEquality keeps parts.isCompiled (joins_others built held names parts) parts.base_eq
    (s := (p.statements p.context.collection).page) rfl rfl
  obtain ⟨name, found⟩ := Registry.mem_toList.1 held
  obtain ⟨declaration, member, _, isCollection, _⟩ := Registry.exists_declaration built found
  rw [isMap, List.pairwise_map, ← isCollection]
  rw [← isCollection] at described own
  refine (apart declaration member).records.imp ?_
  rintro row other ⟨c, isColumn, primary, unlike⟩
  refine Select.compareRows_ne_eq
    (ListQuery.mem_pageOrder (differ declaration member) described isColumn primary p.sort) ?_
  intro same
  have ownValue : ∀ row, (besides row).value ⟨declaration.table, c.column⟩ = row c.column :=
    fun row => congrFun (own row) c.column
  rw [ownValue, ownValue] at same
  rw [(apart declaration member).places c isColumn primary _ _ same] at unlike
  cases unlike

end

end ListQuery.HasParts

/-! ## Pages of one size -/

/-- The number of records of a page of a size. -/
def Settings.limitOf (s : Settings) (size : Option Nat) : Nat :=
  s.pageSize (size.getD s.defaultPageSize)

/-- The same list on another page. -/
def ListQuery.onPage (q : ListQuery) (page : PageParams) : ListQuery :=
  { q with params := { q.params with page } }

/-- The first pages of a size are windows of the rows of a list. -/
structure ListQuery.HasPages [ZoneDatabase] (q : ListQuery) (d : Sql.Dialect) (now : Instant)
    (e : Engine V)
    (k : Collation V) (db : Database V) (rows : List (JoinedRow V)) (size : Option Nat)
    (pages : List ListStatements) : Prop where
  compiled : (List.range pages.length).mapM
    (fun i => (q.onPage ⟨some (i + 1), size⟩).statements d now) = .ok pages
  /-- The rows are in the order of every page, and in no other. -/
  ordered : ∀ st ∈ pages, ∀ rows', st.page.IsOrdered k e db rows' ↔ rows' = rows
  /-- Each page is the window behind those before it. -/
  windows : (pages.map fun st => st.page.window rows) =
    (List.range pages.length).map fun i =>
      (rows.drop (i * q.settings.limitOf size)).take (q.settings.limitOf size)
  /-- Together they are the first rows. -/
  front : (pages.flatMap fun st => st.page.window rows) =
    rows.take (pages.length * q.settings.limitOf size)

/-- Where the pages of a size are accepted, they are windows of the rows in their order. -/
theorem ListQuery.HasParts.hasPages [ZoneDatabase] {q : ListQuery} {d : Sql.Dialect} {now : Instant}
    {p : ListParts} (parts : q.HasParts d now p) {e : Engine V} {k : Collation V}
    {db : Database V} {rows : List (JoinedRow V)}
    (ordered : ∀ rows', (p.statements q.collection).page.IsOrdered k e db rows' ↔ rows' = rows)
    {size : Option Nat} {count : Nat}
    (accepted : ∀ i < count, ∃ w, PageParams.window ⟨some (i + 1), size⟩ q.settings = .ok w) :
    ∃ pages, pages.length = count ∧ q.HasPages d now e k db rows size pages := by
  let limit := q.settings.limitOf size
  let page : Nat → ListStatements := fun i =>
    ListParts.statements { p with window := ⟨i * limit, limit⟩ } q.collection
  have length : ((List.range count).map page).length = count := by simp
  have windows : ((List.range count).map page).map (fun st => st.page.window rows) =
      (List.range count).map fun i => (rows.drop (i * limit)).take limit := by
    rw [List.map_map]
    rfl
  refine ⟨(List.range count).map page, length, ?_, ?_, ?_, ?_⟩
  · rw [length, mapM_eq_ok, List.forall₂_map_right_iff, List.forall₂_same]
    intro i member
    obtain ⟨w, isWindow⟩ := accepted i (List.mem_range.1 member)
    rw [PageParams.eq_of_window isWindow] at isWindow
    exact statements_eq_ok.2 ⟨_, parts.withPage isWindow, rfl⟩
  · intro st member rows'
    obtain ⟨i, _, rfl⟩ := List.mem_map.1 member
    rw [← ordered rows']
    exact ⟨fun isOrdered => ⟨isOrdered.perm, isOrdered.ordered⟩,
      fun isOrdered => ⟨isOrdered.perm, isOrdered.ordered⟩⟩
  · rw [length]
    exact windows
  · rw [length, List.flatMap_def, windows, ← List.flatMap_def]
    exact flatMap_windows rows limit count

/-- Pages divide a list.  Where the key of the collection is described and the database keeps
its keys, no two rows of a page are in one place, whatever the sort order, so there is a
single order of the records that the conditions are true of.  As many of them are counted, and
the first pages of any size that is accepted are windows of that order which follow each
other. -/
theorem pages_divide_lists [ZoneDatabase] {ds : List Declaration} {r : Registry}
    (built : Registry.build ds = .ok r) (names : ∀ c ∈ r.toList, c.NamesTables)
    (differ : ∀ declaration ∈ ds, (declaration.columns.map (·.field)).Nodup)
    (e : Engine V) (isEquality : e.IsEquality) (k : Collation V) (db : Database V)
    (keeps : e.KeepsKeys db ds) (apart : ∀ declaration ∈ ds, e.TellsApart k db declaration)
    {q : ListQuery} (inRegistry : q.registry = r) (held : q.collection ∈ r.toList)
    (described : q.collection.KeyIsDescribed) {d : Sql.Dialect} {now : Instant}
    {st : ListStatements} (compiles : q.statements d now = .ok st) :
    ((st.page.joinedRows e db).Pairwise fun row other =>
      st.page.compareRows k e row other ≠ .eq) ∧
    ∃ p rows, q.HasParts d now p ∧
      (rows.Pairwise fun row other => st.page.compareRows k e row other = .lt) ∧
      (rows.map fun row => row q.collection.table).Perm
        ((db q.collection.table).filter fun row =>
          p.tree.truth (fun c => c.formula.truth (e.reading (p.context.linkedRow e db row))) =
            .yes) ∧
      st.count.given e db = [[(.number rows.length, countAlias)]] ∧
      ∀ size count,
        (∀ i < count, ∃ w, PageParams.window ⟨some (i + 1), size⟩ q.settings = .ok w) →
          ∃ pages, pages.length = count ∧ q.HasPages d now e k db rows size pages := by
  obtain ⟨p, parts, rfl⟩ := ListQuery.statements_eq_ok.1 compiles
  obtain ⟨sameRegistry, about, _⟩ := Context.of_make parts.context_eq
  subst inRegistry
  have named := names _ held
  rw [← sameRegistry] at built held
  rw [← about] at held named described
  have joinedApart := parts.pairwise_compareRows built held named differ isEquality keeps
    described apart
  obtain ⟨besides, isMap, isKept, own⟩ := Context.exists_kept_eq_map built held named differ
    isEquality keeps parts.isCompiled (ListQuery.HasParts.joins_others built held named parts)
    parts.base_eq (s := (p.statements q.collection).page) rfl rfl rfl
  rw [about] at joinedApart
  obtain ⟨rows, strict, ordered⟩ := Select.exists_ordered (joinedApart.sublist List.filter_sublist)
  have perm := ((ordered rows).2 rfl).perm
  have isCount := (parts.given_statements built held named differ isEquality keeps).1
  refine ⟨joinedApart, p, rows, parts, strict, ?_, ?_, fun size count accepted =>
    parts.hasPages ordered accepted⟩
  · have records : (rows.map fun row => row p.context.collection.table).Perm _ := perm.map _
    rw [isKept, List.map_map, Function.comp_def, funext own, List.map_id_fun', id_eq,
      about] at records
    exact records
  · rw [isCount, perm.length_eq, isKept, List.length_map, ← List.countP_eq_length_filter]
    rfl

namespace Sample

/-- All members in the order of the numbers of their cards, at most two on a page. -/
def members : ListQuery where
  registry := club
  collection := member.toCollection
  settings := { maxPageSize := some 2 }
  params := { sort := some "card.number" }

/-- Numbers in their order, behind null. -/
def rising : Collation Nat where
  order _ := compare
  trans _ := inferInstance

theorem tellsApart_club : ∀ declaration ∈ [member, card],
    numbers.TellsApart rising clubTables declaration := by
  have places : ∀ (o : Sql.Output) (v w : Option Nat), rising.order o v w = .eq →
      numbers.alike v w = true := by
    intro o v w same
    cases Std.LawfulEqOrd.eq_of_compare same
    cases v with
    | none => rfl
    | some v => exact beq_self_eq_true v
  intro declaration listed
  rcases List.mem_pair.1 listed with rfl | rfl
  · exact ⟨by decide, fun _ _ _ => places _⟩
  · exact ⟨by decide, fun _ _ _ => places _⟩

/-- Pages of five members hold two each. -/
theorem pages_divide_lists_of_members :
    ∃ rows pages, rows.length = 3 ∧ pages.length = 2 ∧
      members.HasPages .sqlite ⟨0, 0⟩ numbers rising clubTables rows (some 5) pages := by
  have built : Registry.build [member, card] = .ok club := rfl
  have names := Registry.namesTables built (by decide)
  have compiles : members.statements .sqlite ⟨0, 0⟩ = .ok _ := rfl
  obtain ⟨_, p, rows, _, _, _, isCount, divide⟩ := pages_divide_lists built names (by decide)
    numbers isEquality_numbers rising clubTables keepsKeys_club tellsApart_club (q := members) rfl
    (.tail _ (.head _)) (by decide) compiles
  have counted : [[(Sql.Datum.number (V := Nat) 3, "total")]] =
      [[(.number rows.length, countAlias)]] := isCount
  obtain ⟨pages, two, hasPages⟩ := divide (some 5) 2 fun i less => by
    rcases i with _ | _ | i
    · exact ⟨_, rfl⟩
    · exact ⟨_, rfl⟩
    · omega
  exact ⟨rows, pages, by simpa [countAlias, eq_comm] using counted, two, hasPages⟩

end Sample

end Backoffice
