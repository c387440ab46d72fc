import Mathlib.Algebra.BigOperators.Group.List.Lemmas
import Mathlib.Algebra.Order.Ring.Int
import Backoffice.Proofs.Calendar.Days
import Backoffice.Statistics.Period

/-!
# Counting days

`histogram` tells how often each day occurs in a list.  It is the only table that
`Tabulates` the list (`Tabulates.eq_histogram`).

Tallies tabulate the days that were added to them, as long as no count needs more than
64 bits (`Tallies.tabulates_add`).
-/

namespace Backoffice

/-! ## Days in the order of time -/

/-- Days in the order of time, each once. -/
def IsRising (days : List Day) : Prop := days.Pairwise fun a b => a.number < b.number

theorem IsRising.nodup {days : List Day} (rising : IsRising days) : days.Nodup := by
  refine rising.imp fun {a b} less => ?_
  rintro rfl
  exact lt_irrefl _ less

/-- Days in the order of time are determined by which they are. -/
theorem IsRising.eq_of_mem_iff {days days' : List Day} (rising : IsRising days)
    (rising' : IsRising days') (same : ∀ d, d ∈ days ↔ d ∈ days') : days = days' := by
  have perm : days.Perm days' := (List.perm_ext_iff_of_nodup rising.nodup rising'.nodup).2 same
  exact perm.eq_of_pairwise (fun a b _ _ less more => absurd less (lt_asymm more)) rising rising'

/-! ## Tables -/

/-- That a table tells how often each day occurs in a list. -/
structure Tabulates (table : List (Day × Nat)) (days : List Day) : Prop where
  /-- The table is in the order of time. -/
  rising : IsRising (table.map Prod.fst)
  /-- The days of the table are those that occur. -/
  mem_iff : ∀ d, d ∈ table.map Prod.fst ↔ d ∈ days
  /-- Each day occurs as often as the table tells. -/
  count_eq : ∀ entry ∈ table, entry.2 = days.count entry.1

/-- How often each day occurs, in the order of time. -/
def histogram (days : List Day) : List (Day × Nat) :=
  (days.dedup.mergeSort fun a b => a.number ≤ b.number).map fun d => (d, days.count d)

theorem tabulates_histogram (days : List Day) : Tabulates (histogram days) days := by
  have days_eq : (histogram days).map Prod.fst =
      days.dedup.mergeSort fun a b => a.number ≤ b.number := by
    simp [histogram, Function.comp_def]
  refine ⟨?_, ?_, ?_⟩
  · rw [days_eq]
    have sorted : (days.dedup.mergeSort fun a b => a.number ≤ b.number).Pairwise
        fun a b => a.number ≤ b.number := by
      have : (days.dedup.mergeSort fun a b => decide (a.number ≤ b.number)).Pairwise
          fun a b => decide (a.number ≤ b.number) = true := List.pairwise_mergeSort
        (by simp only [decide_eq_true_eq]; omega)
        (by simp only [Bool.or_eq_true, decide_eq_true_eq]; omega) days.dedup
      simpa using this
    have distinct : (days.dedup.mergeSort fun a b => a.number ≤ b.number).Nodup :=
      (List.mergeSort_perm _ _).nodup_iff.2 days.nodup_dedup
    refine (sorted.and distinct).imp fun {a b} both => ?_
    exact lt_of_le_of_ne both.1 fun same => both.2 (Day.eq_of_number_eq same)
  · intro d
    rw [days_eq, List.mem_mergeSort, List.mem_dedup]
  · intro entry member
    obtain ⟨d, _, rfl⟩ := List.mem_map.1 member
    rfl

theorem histogram_singleton (d : Day) : histogram [d] = [(d, 1)] := by simp [histogram]

section
variable {table : List (Day × Nat)} {days days' : List Day}

/-- A list of days has one table. -/
theorem Tabulates.eq_histogram (tabulates : Tabulates table days) : table = histogram days := by
  have sameDays : table.map Prod.fst = (histogram days).map Prod.fst :=
    tabulates.rising.eq_of_mem_iff (tabulates_histogram days).rising fun d =>
      (tabulates.mem_iff d).trans ((tabulates_histogram days).mem_iff d).symm
  have byDays : ∀ table : List (Day × Nat), (∀ entry ∈ table, entry.2 = days.count entry.1) →
      (table.map Prod.fst).map (fun d => (d, days.count d)) = table := by
    intro table counts
    rw [List.map_map]
    refine (List.map_congr_left fun entry member => ?_).trans table.map_id
    exact Prod.ext rfl (counts entry member).symm
  rw [← byDays table tabulates.count_eq, sameDays,
    byDays _ (tabulates_histogram days).count_eq]

/-- A day that is not in the table does not occur. -/
theorem Tabulates.count_eq_zero (tabulates : Tabulates table days) {d : Day}
    (absent : d ∉ table.map Prod.fst) : days.count d = 0 := by
  rw [tabulates.mem_iff] at absent
  exact List.count_eq_zero.2 absent

/-- A table tells nothing of the order of the days. -/
theorem Tabulates.perm (tabulates : Tabulates table days) (perm : days.Perm days') :
    Tabulates table days' where
  rising := tabulates.rising
  mem_iff d := (tabulates.mem_iff d).trans perm.mem_iff
  count_eq entry member := by rw [tabulates.count_eq entry member, perm.count_eq]

/-- Lists of days have the same table when they are the same but for the order. -/
theorem histogram_eq_iff : histogram days = histogram days' ↔ days.Perm days' := by
  constructor
  · intro same
    have tabulates := tabulates_histogram days
    have tabulates' : Tabulates (histogram days) days' := same ▸ tabulates_histogram days'
    refine List.perm_iff_count.2 fun d => ?_
    by_cases occurs : d ∈ (histogram days).map Prod.fst
    · obtain ⟨entry, member, rfl⟩ := List.mem_map.1 occurs
      rw [← tabulates.count_eq entry member, ← tabulates'.count_eq entry member]
    · rw [tabulates.count_eq_zero occurs, tabulates'.count_eq_zero occurs]
  · intro perm
    exact ((tabulates_histogram days).perm perm).eq_histogram

/-- The counts of a table add up to the number of days. -/
theorem sum_histogram (days : List Day) : ((histogram days).map Prod.snd).sum = days.length := by
  have counts : (histogram days).map Prod.snd =
      (days.dedup.mergeSort fun a b => a.number ≤ b.number).map fun d => days.count d := by
    simp [histogram, Function.comp_def]
  rw [counts, ((List.mergeSort_perm _ _).map _).sum_eq, List.sum_map_count_dedup_eq_length]

end

/-! ## Tallies -/

namespace Tallies

/-- The table of some tallies. -/
def table (tallies : Tallies) : List (Day × Nat) := tallies.map fun t => (t.start, t.count)

theorem tabulates_nil : Tabulates (table []) [] where
  rising := List.Pairwise.nil
  mem_iff _ := Iff.rfl
  count_eq _ member := nomatch member

section
variable {start : Day} {count : Nat} {figure : Double} {tallies : Tallies}

/-- An addition brings no day but its own. -/
theorem mem_add_starts {d : Day} :
    d ∈ (add start count figure tallies).map Tally.start ↔
      d = start ∨ d ∈ tallies.map Tally.start := by
  induction tallies with
  | nil => simp [add, Tally.add]
  | cons tally rest ih =>
      rw [add]
      split
      · simp [Tally.add]
      · split
        next same => simp [Tally.add, ← same]
        next =>
          rw [List.map_cons, List.mem_cons, ih, List.map_cons, List.mem_cons]
          exact or_left_comm

/-- An addition keeps the order of time. -/
theorem isRising_add (rising : IsRising (tallies.map Tally.start)) :
    IsRising ((add start count figure tallies).map Tally.start) := by
  induction tallies with
  | nil => exact List.pairwise_singleton _ _
  | cons tally rest ih =>
      obtain ⟨first, others⟩ := List.pairwise_cons.1 rising
      rw [add]
      split
      next earlier =>
        refine List.pairwise_cons.2 ⟨fun d member => ?_, rising⟩
        rcases List.mem_cons.1 member with rfl | later
        · exact earlier
        · exact lt_trans earlier (first d later)
      next notEarlier =>
        split
        next => exact rising
        next different =>
          refine List.pairwise_cons.2 ⟨fun d member => ?_, ih others⟩
          rcases mem_add_starts.1 member with rfl | later
          · exact lt_of_le_of_ne (not_lt.1 notEarlier) fun same =>
              different (Day.eq_of_number_eq same.symm)
          · exact first d later

/-- A tally after an addition was there before, or it is that of the day with the count
added, from nothing if there was none. -/
theorem mem_add {t : Tally} (rising : IsRising (tallies.map Tally.start))
    (member : t ∈ add start count figure tallies) :
    (t ∈ tallies ∧ t.start ≠ start) ∨
    ∃ old : Tally, t = old.add count figure ∧ old.start = start ∧
      (old ∈ tallies ∨ old.count = 0 ∧ start ∉ tallies.map Tally.start) := by
  induction tallies with
  | nil => exact .inr ⟨{ start }, List.mem_singleton.1 member, rfl, .inr ⟨rfl, by simp⟩⟩
  | cons tally rest ih =>
      obtain ⟨first, others⟩ := List.pairwise_cons.1 rising
      rw [add] at member
      split at member
      next earlier =>
        have absent : start ∉ (tally :: rest).map Tally.start := by
          intro present
          rcases List.mem_cons.1 present with same | later
          · exact lt_irrefl _ (same ▸ earlier)
          · exact lt_asymm earlier (first start later)
        rcases List.mem_cons.1 member with rfl | before
        · exact .inr ⟨{ start }, rfl, rfl, .inr ⟨rfl, absent⟩⟩
        · refine .inl ⟨before, fun same => absent ?_⟩
          exact same ▸ List.mem_map_of_mem before
      next notEarlier =>
        split at member
        next same =>
          rcases List.mem_cons.1 member with rfl | after
          · exact .inr ⟨tally, rfl, same.symm, .inl List.mem_cons_self⟩
          · refine .inl ⟨.tail _ after, fun sameStart => ?_⟩
            have less := first t.start (List.mem_map_of_mem after)
            rw [sameStart, same] at less
            exact lt_irrefl _ less
        next different =>
          rcases List.mem_cons.1 member with rfl | after
          · exact .inl ⟨List.mem_cons_self, Ne.symm different⟩
          · rcases ih others after with ⟨before, other⟩ | ⟨old, isAdd, isStart, before⟩
            · exact .inl ⟨.tail _ before, other⟩
            · refine .inr ⟨old, isAdd, isStart, ?_⟩
              rcases before with before | ⟨fresh, absent⟩
              · exact .inl (.tail _ before)
              · refine .inr ⟨fresh, fun present => ?_⟩
                rcases List.mem_cons.1 present with same | later
                · exact different same
                · exact absent later

/-- After an addition the tallies tabulate the day as many more times. -/
theorem tabulates_add (start : Day) (figure : Double) {days : List Day} (tabulates : Tabulates tallies.table days)
    (positive : 0 < count) (small : days.length + count < Text.word64) :
    Tabulates (add start count figure tallies).table (List.replicate count start ++ days) := by
  have starts : ∀ tallies : Tallies, tallies.table.map Prod.fst = tallies.map Tally.start := by
    intro tallies
    simp [table, Function.comp_def]
  have rising := tabulates.rising
  rw [starts] at rising
  refine ⟨?_, ?_, ?_⟩
  · rw [starts]
    exact isRising_add rising
  · intro d
    rw [starts, mem_add_starts, ← starts, tabulates.mem_iff, List.mem_append,
      List.mem_replicate, and_iff_right positive.ne']
  · intro entry member
    obtain ⟨t, inAdd, rfl⟩ := List.mem_map.1 member
    rw [List.count_append, List.count_replicate]
    rcases mem_add rising inAdd with ⟨before, other⟩ | ⟨old, rfl, rfl, before⟩
    · have counted : t.count = days.count t.start :=
        tabulates.count_eq (t.start, t.count) (List.mem_map_of_mem before)
      simp [Ne.symm other, counted]
    · have counted : old.count = days.count old.start := by
        rcases before with before | ⟨fresh, absent⟩
        · exact tabulates.count_eq (old.start, old.count) (List.mem_map_of_mem before)
        · rw [← starts] at absent
          rw [fresh, tabulates.count_eq_zero absent]
      have bound : days.count old.start ≤ days.length := List.count_le_length
      show (old.count + count) % Text.word64 = _
      rw [counted, Nat.mod_eq_of_lt (by omega)]
      simp [Tally.add, Nat.add_comm]

end

end Tallies

end Backoffice
