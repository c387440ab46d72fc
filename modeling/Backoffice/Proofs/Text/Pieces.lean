import Backoffice.Text.Pieces

/-!
# Pieces of texts

The first cut of a text is before its first separator, and a text without separators
is not cut at all.  A text of joined parts has a separator between any two of them, so it is
cut into at least as many pieces.
-/

namespace Backoffice.Text

variable {separator : Char} {cs before after : List Char}

theorem splitFirst_eq_some_iff :
    splitFirst separator cs = some (before, after) ↔
      cs = before ++ separator :: after ∧ separator ∉ before := by
  induction cs generalizing before with
  | nil => simp [splitFirst]
  | cons c rest ih =>
      rw [splitFirst]
      split
      next same =>
        subst same
        cases before with
        | nil => simp [eq_comm]
        | cons first others =>
            simp only [Option.some.injEq, Prod.mk.injEq, List.nil_eq, reduceCtorEq, false_and,
              false_iff, not_and, List.cons_append, List.cons.injEq]
            rintro ⟨rfl, _⟩ absent
            exact absent List.mem_cons_self
      next different =>
        rw [Option.map_eq_some_iff]
        cases before with
        | nil =>
            simp only [Prod.mk.injEq, reduceCtorEq, false_and, and_false, exists_false,
              List.nil_append, List.cons.injEq, false_iff, not_and]
            intro same
            exact absurd same.1 different
        | cons first others =>
            simp only [Prod.exists, Prod.mk.injEq, List.cons.injEq, List.cons_append,
              List.mem_cons, not_or]
            constructor
            · rintro ⟨front, back, found, ⟨rfl, rfl⟩, rfl⟩
              obtain ⟨split, absent⟩ := ih.1 found
              exact ⟨⟨rfl, split⟩, Ne.symm different, absent⟩
            · rintro ⟨⟨rfl, split⟩, _, absent⟩
              exact ⟨others, after, ih.2 ⟨split, absent⟩, ⟨rfl, rfl⟩, rfl⟩

theorem splitFirst_eq_none_iff : splitFirst separator cs = none ↔ separator ∉ cs := by
  induction cs with
  | nil => simp [splitFirst]
  | cons c rest ih =>
      rw [splitFirst]
      split
      next same => simp [same]
      next different => simp [ih, Ne.symm different]

/-- A text with a separator has a part before the first one. -/
theorem exists_before_first (member : separator ∈ cs) :
    ∃ before after, cs = before ++ separator :: after ∧ separator ∉ before := by
  cases found : splitFirst separator cs with
  | none => exact absurd member (splitFirst_eq_none_iff.1 found)
  | some cut => exact ⟨cut.1, cut.2, splitFirst_eq_some_iff.1 found⟩

theorem pieces_of_not_mem (absent : separator ∉ cs) : pieces separator cs = (cs, []) := by
  induction cs with
  | nil => rfl
  | cons c rest ih =>
      rw [List.mem_cons, not_or] at absent
      simp only [pieces, ih absent.2]
      rw [if_neg (Ne.symm absent.1)]

theorem pieces_of_split (absent : separator ∉ before) :
    pieces separator (before ++ separator :: after) =
      (before, (pieces separator after).1 :: (pieces separator after).2) := by
  induction before with
  | nil => simp [pieces]
  | cons c rest ih =>
      rw [List.mem_cons, not_or] at absent
      simp only [List.cons_append, pieces, ih absent.2]
      rw [if_neg (Ne.symm absent.1)]

/-- A text is cut at its first separators, as long as it has some. -/
theorem length_piecesAtMost {count : Nat} (positive : 0 < count) :
    (piecesAtMost separator count cs).length = min count (cs.count separator + 1) := by
  fun_induction piecesAtMost separator count cs with
  | case1 => omega
  | case2 cs =>
      rw [List.length_singleton]
      omega
  | case3 cs count uncut =>
      rw [List.count_eq_zero.2 (splitFirst_eq_none_iff.1 uncut), List.length_singleton]
      omega
  | case4 cs count before after cut ih =>
      obtain ⟨rfl, absent⟩ := splitFirst_eq_some_iff.1 cut
      rw [List.length_cons, ih (Nat.succ_pos _), List.count_append, List.count_eq_zero.2 absent,
        List.count_cons_self]
      omega

/-- Between joined texts there are separators. -/
theorem length_le_count_intercalate (separator : Char) (parts : List (List Char)) :
    parts.length ≤ (List.intercalate [separator] parts).count separator + 1 := by
  induction parts with
  | nil => exact Nat.zero_le _
  | cons part rest ih =>
      cases rest with
      | nil => exact Nat.le_add_left 1 _
      | cons next others =>
          rw [List.intercalate_cons_of_ne_nil (List.cons_ne_nil next others), List.length_cons,
            List.count_append, List.count_append, List.count_singleton_self]
          omega

end Backoffice.Text
