/-!
# Maps with text keys in key order

A `KeyMap` is a list of entries whose keys rise strictly.  So two maps with the
same entries are equal, and reading the entries in order is reading them in the
order of the bytes of their keys.

`insert` replaces the value of a key it finds.  `ofList` inserts the entries of
a list from left to right, so the last value of a repeated key stays.
-/

namespace Backoffice

universe u

/-- Entries with strictly rising keys. -/
structure KeyMap (α : Type u) where
  /-- The entries, in key order. -/
  entries : List (String × α)
  /-- The keys rise strictly. -/
  rising : entries.Pairwise fun a b => a.1 < b.1

namespace KeyMap

variable {α : Type u}

/-- Two maps with the same entries are the same. -/
theorem ext_entries : ∀ {a b : KeyMap α}, a.entries = b.entries → a = b
  | ⟨_, _⟩, ⟨_, _⟩, rfl => rfl

instance [DecidableEq α] : DecidableEq (KeyMap α) := fun a b =>
  decidable_of_iff (a.entries = b.entries) ⟨ext_entries, fun h => h ▸ rfl⟩

/-- The map without entries. -/
def empty : KeyMap α := ⟨[], .nil⟩

instance : Inhabited (KeyMap α) := ⟨empty⟩

/-- The keys, rising. -/
def keys (m : KeyMap α) : List String := m.entries.map Prod.fst

/-- The values, in the order of their keys. -/
def values (m : KeyMap α) : List α := m.entries.map Prod.snd

/-! ## Look-up -/

/-- The value of a key in a list of entries. -/
def findIn (key : String) : List (String × α) → Option α
  | [] => none
  | (k, value) :: rest => if k = key then some value else findIn key rest

/-- The value of a key. -/
def find? (m : KeyMap α) (key : String) : Option α := findIn key m.entries

/-- Whether a key has a value. -/
def contains (m : KeyMap α) (key : String) : Bool := (m.find? key).isSome

/-! ## Insertion -/

/-- Insertion into a list of entries with rising keys. -/
def insertIn (key : String) (value : α) : List (String × α) → List (String × α)
  | [] => [(key, value)]
  | (k, v) :: rest =>
      if key < k then (key, value) :: (k, v) :: rest
      else if key = k then (key, value) :: rest
      else (k, v) :: insertIn key value rest

/-- An entry after an insertion is the inserted one or was there before. -/
theorem mem_insertIn {key : String} {value : α} {entries : List (String × α)} {entry : String × α}
    (h : entry ∈ insertIn key value entries) : entry = (key, value) ∨ entry ∈ entries := by
  induction entries with
  | nil => simpa [insertIn] using h
  | cons head rest ih =>
      simp only [insertIn] at h
      split at h
      · simpa using h
      · split at h
        · rcases List.mem_cons.1 h with h | h
          · exact .inl h
          · exact .inr (.tail _ h)
        · rcases List.mem_cons.1 h with h | h
          · exact .inr (h ▸ .head _)
          · exact (ih h).imp id (.tail _)

/-- Insertion keeps the keys rising. -/
theorem insertIn_rising {key : String} {value : α} {entries : List (String × α)}
    (rising : entries.Pairwise fun a b => a.1 < b.1) :
    (insertIn key value entries).Pairwise fun a b => a.1 < b.1 := by
  induction entries with
  | nil => simp [insertIn]
  | cons head rest ih =>
      obtain ⟨above, restRising⟩ := List.pairwise_cons.1 rising
      simp only [insertIn]
      split
      · rename_i less
        refine .cons (fun entry found => ?_) rising
        rcases List.mem_cons.1 found with same | later
        · exact same ▸ less
        · exact String.lt_trans less (above entry later)
      · rename_i notLess
        split
        · rename_i same
          exact .cons (fun entry found => same ▸ above entry found) restRising
        · rename_i different
          have headLess : head.1 < key :=
            Std.lt_of_le_of_ne (String.not_lt.1 notLess) (Ne.symm different)
          refine .cons (fun entry found => ?_) (ih restRising)
          rcases mem_insertIn found with inserted | old
          · exact inserted ▸ headLess
          · exact above entry old

/-- The map with a value for a key, in place of any value the key had. -/
def insert (m : KeyMap α) (key : String) (value : α) : KeyMap α :=
  ⟨insertIn key value m.entries, insertIn_rising m.rising⟩

/-- The map of a list of entries.  The last value of a repeated key stays. -/
def ofList (entries : List (String × α)) : KeyMap α :=
  entries.foldl (fun m entry => m.insert entry.1 entry.2) empty

/-- The map with every value changed by a function. -/
def mapValues {β : Type u} (f : α → β) (m : KeyMap α) : KeyMap β where
  entries := m.entries.map fun entry => (entry.1, f entry.2)
  rising := by
    rw [List.pairwise_map]
    exact m.rising

/-! ## Look-up after insertion -/

/-- The inserted key has the inserted value. -/
theorem findIn_insertIn_self {key : String} {value : α} {entries : List (String × α)} :
    findIn key (insertIn key value entries) = some value := by
  induction entries with
  | nil => simp [insertIn, findIn]
  | cons head rest ih =>
      simp only [insertIn]
      split
      · simp [findIn]
      · split
        · simp [findIn]
        · rename_i different
          simp [findIn, Ne.symm different, ih]

/-- Every other key keeps its value. -/
theorem findIn_insertIn_of_ne {key other : String} {value : α} {entries : List (String × α)}
    (different : other ≠ key) :
    findIn other (insertIn key value entries) = findIn other entries := by
  induction entries with
  | nil => simp [insertIn, findIn, Ne.symm different]
  | cons head rest ih =>
      simp only [insertIn]
      split
      · simp [findIn, Ne.symm different]
      · split
        · rename_i same
          simp [findIn, ← same, Ne.symm different]
        · simp [findIn, ih]

end KeyMap

end Backoffice
