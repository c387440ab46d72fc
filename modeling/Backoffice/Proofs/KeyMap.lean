import Backoffice.Filter.Tree
import Backoffice.Proofs.Listing.Record
import Mathlib.Data.List.Basic
import Mathlib.Data.List.Induction
import Mathlib.Data.List.Nodup

/-!
# Entries of maps

Looking a key up in a map and going through its entries tell the same, since no key
occurs twice.  The names of `sortedNames` are those of the list, each once.
-/

namespace Backoffice

namespace KeyMap

variable {α : Type} {m : KeyMap α} {key : String} {value : α}

/-- Where keys rise, an entry is found under its key. -/
theorem findIn_of_mem {entries : List (String × α)}
    (rising : entries.Pairwise fun a b => a.1 < b.1) (member : (key, value) ∈ entries) :
    findIn key entries = some value := by
  induction entries with
  | nil => cases member
  | cons entry rest ih =>
      cases rising with
      | cons above restRising =>
          rw [findIn]
          rcases List.mem_cons.1 member with rfl | later
          · rw [if_pos rfl]
          · have less : entry.1 < key := above _ later
            rw [if_neg (Std.ne_of_lt less)]
            exact ih restRising later

theorem find?_eq_some_iff : m.find? key = some value ↔ (key, value) ∈ m.entries :=
  ⟨mem_of_findIn, findIn_of_mem m.rising⟩

theorem mem_keys_iff : key ∈ m.keys ↔ ∃ value, m.find? key = some value := by
  simp [keys, find?_eq_some_iff]

theorem mem_values_iff : value ∈ m.values ↔ ∃ key, m.find? key = some value := by
  simp [values, find?_eq_some_iff]

theorem nodup_keys (m : KeyMap α) : m.keys.Nodup := by
  rw [keys, List.Nodup, List.pairwise_map]
  exact m.rising.imp fun less => Std.ne_of_lt less

theorem mem_keys_insert {other : String} :
    key ∈ (m.insert other value).keys ↔ key = other ∨ key ∈ m.keys := by
  rw [mem_keys_iff, mem_keys_iff]
  by_cases same : key = other
  · subst same
    simp [find?_insert_self]
  · simp [find?_insert_of_ne _ same, same]

theorem mem_keys_ofList {entries : List (String × α)} :
    key ∈ (ofList entries).keys ↔ key ∈ entries.map Prod.fst := by
  have added : ∀ m : KeyMap α,
      key ∈ (entries.foldl (fun m entry => m.insert entry.1 entry.2) m).keys ↔
      key ∈ m.keys ∨ key ∈ entries.map Prod.fst := by
    induction entries with
    | nil => simp
    | cons entry rest ih =>
        intro m
        rw [List.foldl_cons, ih, mem_keys_insert, List.map_cons, List.mem_cons]
        tauto
  rw [ofList, added empty]
  simp [keys, empty]

/-- Maps that look every key up alike are the same. -/
theorem ext_find? {a b : KeyMap α} (same : ∀ key, a.find? key = b.find? key) : a = b := by
  have nodup : ∀ m : KeyMap α, m.entries.Nodup := by
    intro m
    refine m.rising.imp fun {entry other} less => ?_
    rintro rfl
    exact String.lt_irrefl _ less
  have mem_iff : ∀ entry, entry ∈ a.entries ↔ entry ∈ b.entries := by
    rintro ⟨key, value⟩
    rw [← find?_eq_some_iff, same, find?_eq_some_iff]
  have perm : a.entries.Perm b.entries :=
    (List.perm_ext_iff_of_nodup (nodup a) (nodup b)).2 mem_iff
  exact ext_entries (perm.eq_of_pairwise
    (fun entry other _ _ less more => absurd less (String.lt_asymm more)) a.rising b.rising)

theorem ofList_concat (entries : List (String × α)) (entry : String × α) :
    ofList (entries ++ [entry]) = (ofList entries).insert entry.1 entry.2 := by
  rw [ofList, List.foldl_append]
  rfl

/-- In the map of a list of entries the last value of a key is found. -/
theorem find?_ofList (entries : List (String × α)) (key : String) :
    (ofList entries).find? key =
      (entries.reverse.find? fun entry => entry.1 = key).map Prod.snd := by
  induction entries using List.reverseRecOn with
  | nil => rfl
  | append_singleton entries entry ih =>
      rw [ofList_concat, List.reverse_append, List.reverse_singleton, List.singleton_append,
        List.find?_cons]
      by_cases same : entry.1 = key
      · subst same
        simp [find?_insert_self]
      · simp [find?_insert_of_ne _ (Ne.symm same), same, ih]

/-- What is found in the map of some entries is one of them. -/
theorem mem_of_find?_ofList {entries : List (String × α)}
    (found : (ofList entries).find? key = some value) : (key, value) ∈ entries := by
  rw [find?_ofList, Option.map_eq_some_iff] at found
  obtain ⟨⟨k, _⟩, isEntry, rfl⟩ := found
  have same : k = key := by simpa using List.find?_some isEntry
  subst same
  exact List.mem_reverse.1 (List.mem_of_find?_eq_some isEntry)

theorem exists_find?_ofList {entries : List (String × α)} (member : (key, value) ∈ entries) :
    ∃ v, (ofList entries).find? key = some v :=
  mem_keys_iff.1 (mem_keys_ofList.2 (List.mem_map_of_mem member))

/-- Where the entries of a key agree, the map of the entries has their value. -/
theorem find?_ofList_eq_some_iff {entries : List (String × α)}
    (agree : ∀ v w, (key, v) ∈ entries → (key, w) ∈ entries → v = w) :
    (ofList entries).find? key = some value ↔ (key, value) ∈ entries := by
  refine ⟨mem_of_find?_ofList, fun member => ?_⟩
  obtain ⟨v, found⟩ := exists_find?_ofList member
  rw [found, agree v value (mem_of_find?_ofList found) member]

/-! ## Entries under different keys -/

section
variable {entries others : List (String × α)}

/-- Under different keys every entry is found. -/
theorem find?_ofList_iff_mem (differ : (entries.map Prod.fst).Nodup) :
    (ofList entries).find? key = some value ↔ (key, value) ∈ entries := by
  refine find?_ofList_eq_some_iff fun v w isV isW => ?_
  have same : (key, v) = (key, w) := List.inj_on_of_nodup_map differ isV isW rfl
  exact congrArg Prod.snd same

/-- Under different keys the map has the entries of the list. -/
theorem entries_ofList_perm (differ : (entries.map Prod.fst).Nodup) :
    (ofList entries).entries.Perm entries := by
  have nodup : (ofList entries).entries.Nodup := List.Nodup.of_map _ (nodup_keys (ofList entries))
  refine (List.perm_ext_iff_of_nodup nodup (List.Nodup.of_map _ differ)).2 fun ⟨key, value⟩ => ?_
  rw [← find?_eq_some_iff, find?_ofList_iff_mem differ]

/-- Under different keys the order of the entries does not matter. -/
theorem ofList_perm (differ : (entries.map Prod.fst).Nodup) (perm : entries.Perm others) :
    ofList entries = ofList others := by
  have othersDiffer : (others.map Prod.fst).Nodup := (perm.map Prod.fst).nodup_iff.1 differ
  refine ext_find? fun key => Option.ext fun value => ?_
  rw [find?_ofList_iff_mem differ, find?_ofList_iff_mem othersDiffer, perm.mem_iff]

end

/-! ## Related entries -/

section
variable {β : Type} {R : String → α → β → Prop}

/-- Entries are under one key, with related values. -/
def Related (R : String → α → β → Prop) (entry : String × α) (other : String × β) : Prop :=
  entry.1 = other.1 ∧ R entry.1 entry.2 other.2

theorem forall₂_insertIn {value : α} {other : β} (related : R key value other)
    {entries : List (String × α)} {others : List (String × β)}
    (rest : List.Forall₂ (Related R) entries others) :
    List.Forall₂ (Related R) (insertIn key value entries) (insertIn key other others) := by
  induction rest with
  | nil => exact .cons ⟨rfl, related⟩ .nil
  | @cons entry _ _ _ first later ih =>
      obtain ⟨k, v⟩ := entry
      obtain ⟨rfl, isRelated⟩ := first
      rw [insertIn, insertIn]
      split_ifs
      · exact .cons ⟨rfl, related⟩ (.cons ⟨rfl, isRelated⟩ later)
      · exact .cons ⟨rfl, related⟩ later
      · exact .cons ⟨rfl, isRelated⟩ ih

/-- The maps of related entries are related. -/
theorem forall₂_ofList {entries : List (String × α)} {others : List (String × β)}
    (related : List.Forall₂ (Related R) entries others) :
    List.Forall₂ (Related R) (ofList entries).entries (ofList others).entries := by
  have folded : ∀ (m : KeyMap α) (n : KeyMap β),
      List.Forall₂ (Related R) m.entries n.entries → List.Forall₂ (Related R)
        (entries.foldl (fun m entry => m.insert entry.1 entry.2) m).entries
        (others.foldl (fun n entry => n.insert entry.1 entry.2) n).entries := by
    induction related with
    | nil => exact fun _ _ soFar => soFar
    | @cons entry _ _ _ first _ ih =>
        intro m n soFar
        obtain ⟨k, v⟩ := entry
        obtain ⟨rfl, isRelated⟩ := first
        exact ih _ _ (forall₂_insertIn isRelated soFar)
  exact folded empty empty .nil

end

end KeyMap

section
variable {name : String} {names : List String}

theorem mem_sortedNames : name ∈ sortedNames names ↔ name ∈ names := by
  rw [sortedNames, KeyMap.mem_keys_ofList, List.map_map]
  simp

theorem nodup_sortedNames : (sortedNames names).Nodup :=
  KeyMap.nodup_keys _

end

end Backoffice
