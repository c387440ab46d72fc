import Backoffice.Error
import Mathlib.Data.List.Forall2

/-!
# Computations that may fail

What it takes for a computation to succeed or to fail, step by step.  Proofs about
requests peel them apart with these lemmas.
-/

namespace Backoffice

variable {ε α β : Type}

/-- A computation in two steps succeeds when both of them do. -/
theorem Except.bind_eq_ok {first : Except ε α} {next : α → Except ε β} {result : β} :
    first >>= next = .ok result ↔ ∃ value, first = .ok value ∧ next value = .ok result := by
  cases first with
  | error e => simp [bind, Except.bind]
  | ok value => simp [bind, Except.bind]

/-- The image of a computation succeeds when the computation does. -/
theorem Except.map_eq_ok {f : α → β} {first : Except ε α} {result : β} :
    first.map f = .ok result ↔ ∃ value, first = .ok value ∧ f value = result := by
  cases first with
  | error e => simp [Except.map]
  | ok value => simp [Except.map]

/-- A computation in two steps fails in the first of them or in the second. -/
theorem Except.bind_eq_error {first : Except ε α} {next : α → Except ε β} {e : ε} :
    first >>= next = .error e ↔
      first = .error e ∨ ∃ value, first = .ok value ∧ next value = .error e := by
  cases first with
  | error e => simp [bind, Except.bind]
  | ok value => simp [bind, Except.bind]

/-- The image of a computation fails when the computation does. -/
theorem Except.map_eq_error {f : α → β} {first : Except ε α} {e : ε} :
    first.map f = .error e ↔ first = .error e := by
  cases first with
  | error e => simp [Except.map]
  | ok value => simp [Except.map]

theorem Error.orStop_eq_ok {needed : Option α} {value : α} :
    Error.orStop needed = .ok value ↔ needed = some value := by
  cases needed with
  | none => simp [Error.orStop]
  | some found => simp [Error.orStop]

/-- A request stops where a value that it needs is missing. -/
theorem Error.orStop_eq_error {needed : Option α} {e : Error} :
    Error.orStop needed = .error e ↔ needed = none ∧ .stopped = e := by
  cases needed with
  | none => simp [Error.orStop]
  | some found => simp [Error.orStop]

/-- A computation on every item of a list succeeds when it does on each. -/
theorem mapM_eq_ok {f : α → Except ε β} {items : List α} {results : List β} :
    items.mapM f = .ok results ↔
      List.Forall₂ (fun item result => f item = .ok result) items results := by
  induction items generalizing results with
  | nil =>
      rw [List.mapM_nil, List.forall₂_nil_left_iff]
      simp [pure, Except.pure, eq_comm]
  | cons item rest ih =>
      rw [List.mapM_cons, List.forall₂_cons_left_iff]
      simp only [Except.bind_eq_ok, ih, pure, Except.pure, Except.ok.injEq]
      constructor
      · rintro ⟨first, firstOk, others, othersOk, rfl⟩
        exact ⟨first, others, firstOk, othersOk, rfl⟩
      · rintro ⟨first, others, firstOk, othersOk, rfl⟩
        exact ⟨first, firstOk, others, othersOk, rfl⟩

/-- Computations on related items have related results. -/
theorem forall₂_of_mapM {γ δ : Type} {R : α → γ → Prop} {S : β → δ → Prop} {f : α → Except ε β}
    {g : γ → Except ε δ} {items : List α} {others : List γ} {results : List β}
    {otherResults : List δ} (related : List.Forall₂ R items others)
    (step : ∀ item other result otherResult, R item other → f item = .ok result →
      g other = .ok otherResult → S result otherResult)
    (done : items.mapM f = .ok results) (otherDone : others.mapM g = .ok otherResults) :
    List.Forall₂ S results otherResults := by
  rw [mapM_eq_ok] at done otherDone
  induction related generalizing results otherResults with
  | nil =>
      cases done
      cases otherDone
      exact .nil
  | cons first _ ih =>
      cases done with
      | cons isResult done =>
          cases otherDone with
          | cons isOther otherDone =>
              exact .cons (step _ _ _ _ first isResult isOther) (ih done otherDone)

/-- Every item has its result among the results. -/
theorem exists_result_of_mem {f : α → Except ε β} {items : List α} {results : List β}
    (done : items.mapM f = .ok results) {item : α} (member : item ∈ items) :
    ∃ result ∈ results, f item = .ok result := by
  rw [mapM_eq_ok] at done
  induction done with
  | nil => cases member
  | cons firstOk _ ih =>
      rcases List.mem_cons.1 member with rfl | later
      · exact ⟨_, List.mem_cons_self, firstOk⟩
      · obtain ⟨result, among, isResult⟩ := ih later
        exact ⟨result, .tail _ among, isResult⟩

/-- Every result is that of an item. -/
theorem exists_item_of_mem {f : α → Except ε β} {items : List α} {results : List β}
    (done : items.mapM f = .ok results) {result : β} (member : result ∈ results) :
    ∃ item ∈ items, f item = .ok result := by
  rw [mapM_eq_ok] at done
  induction done with
  | nil => cases member
  | cons firstOk _ ih =>
      rcases List.mem_cons.1 member with rfl | later
      · exact ⟨_, List.mem_cons_self, firstOk⟩
      · obtain ⟨item, among, isResult⟩ := ih later
        exact ⟨item, .tail _ among, isResult⟩

/-- A computation on every item of a list succeeds when it does on each, whatever the
results are. -/
theorem exists_mapM_eq_ok {f : α → Except ε β} {items : List α} :
    (∃ results, items.mapM f = .ok results) ↔ ∀ item ∈ items, ∃ result, f item = .ok result := by
  constructor
  · rintro ⟨results, done⟩ item member
    obtain ⟨result, _, isResult⟩ := exists_result_of_mem done member
    exact ⟨result, isResult⟩
  · intro each
    induction items with
    | nil => exact ⟨[], rfl⟩
    | cons item rest ih =>
        obtain ⟨first, firstOk⟩ := each item List.mem_cons_self
        obtain ⟨others, othersOk⟩ := ih fun later member => each later (.tail item member)
        exact ⟨first :: others, mapM_eq_ok.2 (.cons firstOk (mapM_eq_ok.1 othersOk))⟩

/-! ## First faults -/

/-- The first fault of a computation on the items of a list.  Every item before it has a
result. -/
def FirstFault (f : α → Except ε β) (items : List α) (e : ε) : Prop :=
  ∃ before item after, items = before ++ item :: after ∧
    (∀ earlier ∈ before, ∃ result, f earlier = .ok result) ∧ f item = .error e

/-- A computation on the items of a list fails with its first fault. -/
theorem mapM_eq_error {f : α → Except ε β} {items : List α} {e : ε} :
    items.mapM f = .error e ↔ FirstFault f items e := by
  induction items with
  | nil =>
      constructor
      · intro fault
        cases fault
      · rintro ⟨before, item, after, split, _⟩
        simp at split
  | cons item rest ih =>
      rw [List.mapM_cons]
      simp only [Except.bind_eq_error, ih, pure, Except.pure, reduceCtorEq, and_false,
        exists_false, or_false]
      constructor
      · rintro (here | ⟨first, isFirst, before, fault, after, rfl, each, isFault⟩)
        · exact ⟨[], item, rest, rfl, by simp, here⟩
        · exact ⟨item :: before, fault, after, rfl,
            List.forall_mem_cons.2 ⟨⟨first, isFirst⟩, each⟩, isFault⟩
      · rintro ⟨before, fault, after, split, each, isFault⟩
        cases before with
        | nil =>
            cases split
            exact .inl isFault
        | cons first before =>
            cases split
            obtain ⟨⟨result, isResult⟩, each⟩ := List.forall_mem_cons.1 each
            exact .inr ⟨result, isResult, before, fault, after, rfl, each, isFault⟩

/-- A computation on the items of a list that fails does so on one of them. -/
theorem exists_item_of_mapM_eq_error {f : α → Except ε β} {items : List α} {e : ε}
    (fault : items.mapM f = .error e) : ∃ item ∈ items, f item = .error e := by
  obtain ⟨before, item, after, rfl, _, isFault⟩ := mapM_eq_error.1 fault
  exact ⟨item, List.mem_append_right _ List.mem_cons_self, isFault⟩

/-! ## Items of items -/

/-- A function of the results may be applied to each of them. -/
theorem map_mapM {γ : Type} (f : α → Except ε β) (g : β → γ) (items : List α) :
    (items.mapM f).map (List.map g) = items.mapM fun item => (f item).map g := by
  induction items with
  | nil => rfl
  | cons item rest ih =>
      rw [List.mapM_cons, List.mapM_cons, ← ih]
      cases f item with
      | error e => rfl
      | ok first =>
          cases rest.mapM f with
          | error e => rfl
          | ok others => rfl

/-- A computation on the parts of all items is one on the parts of each. -/
theorem mapM_flatMap {γ : Type} (f : α → Except ε β) (parts : γ → List α) (items : List γ) :
    (items.flatMap parts).mapM f =
      (items.mapM fun item => (parts item).mapM f).map List.flatten := by
  induction items with
  | nil => rfl
  | cons item rest ih =>
      rw [List.flatMap_cons, List.mapM_append, ih, List.mapM_cons]
      cases (parts item).mapM f with
      | error e => rfl
      | ok first =>
          cases rest.mapM fun item => (parts item).mapM f with
          | error e => rfl
          | ok others => rfl

end Backoffice
