import Mathlib.Algebra.Group.Nat.Defs
import Mathlib.Order.MinMax
import Mathlib.Tactic.SplitIfs
import Backoffice.Listing.Page
import Backoffice.Proofs.Text.Numeral

/-!
# Windows and their records

The window of an accepted page stands behind as many windows of its size as there are pages
before it (`PageParams.window_eq_ok`).

The header of a window is printable whatever the name of the collection
(`Window.isVisible_contentRange`).  Where records are left for a window, its header tells the
first and the last of them exactly when the window holds at least one record and its end can
be counted in 64 bits (`Window.tellsRecords_iff`).  The size asked for is at least one, but it
is cut down after that was checked, to nothing where the greatest size is zero.  The end is
never checked.  It can be counted wherever there are records for the window and no more than
2^63 in all (`PageParams.end_lt_of_total_le`).
-/

namespace Backoffice

open Text (word64 showNat)

namespace PageParams

variable {p : PageParams} {s : Settings} {w : Window}

/-- A page is accepted when its number and size are at least one and the records before it
can be counted. -/
theorem window_eq_ok : p.window s = .ok w ↔
    1 ≤ p.number.getD 1 ∧ 1 ≤ p.size.getD s.defaultPageSize ∧ w.offset < word64 ∧
      w.limit = s.pageSize (p.size.getD s.defaultPageSize) ∧
      w.offset = (p.number.getD 1 - 1) * w.limit := by
  obtain ⟨offset, limit⟩ := w
  simp only [window]
  constructor
  · intro accepted
    split_ifs at accepted with zero far
    cases accepted
    omega
  · rintro ⟨number, size, near, rfl, rfl⟩
    rw [if_neg (by omega), if_neg (by omega)]

/-- A page is cut down to the greatest size, which may be zero. -/
theorem one_le_limit_iff (accepted : p.window s = .ok w) : 1 ≤ w.limit ↔ s.maxPageSize ≠ some 0 := by
  obtain ⟨_, size, _, limit, _⟩ := window_eq_ok.1 accepted
  rw [limit, Settings.pageSize]
  cases s.maxPageSize with
  | none => simpa using size
  | some most =>
      simp
      omega

/-- Where there are records for a page and no more than 2^63 in all, its end can be counted. -/
theorem end_lt_of_total_le (accepted : p.window s = .ok w) (word : w.limit < word64) {total : ℕ}
    (records : w.offset < total) (few : total ≤ 2 ^ 63) : w.offset + w.limit < word64 := by
  have size : word64 = 2 ^ 64 := rfl
  obtain ⟨_, _, _, _, offset⟩ := window_eq_ok.1 accepted
  cases before : p.number.getD 1 - 1 with
  | zero =>
      rw [before, Nat.zero_mul] at offset
      omega
  | succ pages =>
      have oneWindow : w.limit ≤ (pages + 1) * w.limit := Nat.le_mul_of_pos_left _ pages.succ_pos
      rw [before] at offset
      omega

end PageParams

theorem Settings.pageSize_le (s : Settings) (size : ℕ) :
    s.pageSize size ≤ size ∧ ∀ most ∈ s.maxPageSize, s.pageSize size ≤ most := by
  rw [pageSize]
  cases s.maxPageSize with
  | none => simp
  | some most => simp

/-! ## Headers -/

/-- That a text has printable ASCII characters only. -/
def IsVisible (text : String) : Prop := ∀ c ∈ text.toList, 0x20 ≤ c.toNat ∧ c.toNat < 0x7F

theorem IsVisible.append {text text' : String} (visible : IsVisible text)
    (visible' : IsVisible text') : IsVisible (text ++ text') := by
  intro c member
  rw [String.toList_append, List.mem_append] at member
  exact member.elim (visible c) (visible' c)

theorem isVisible_showNat (n : ℕ) : IsVisible (showNat n) := by
  intro c member
  rw [showNat, String.toList_ofList] at member
  have digit := Text.isDigit_of_mem_digits member
  rw [Text.isDigit, Bool.and_eq_true, decide_eq_true_eq, decide_eq_true_eq] at digit
  have low : 48 ≤ c.toNat := digit.1
  have high : c.toNat ≤ 57 := digit.2
  omega

namespace Window

theorem isHeaderText_of_isVisible {text : String} (visible : IsVisible text) :
    isHeaderText text = true := by
  rw [isHeaderText, List.all_eq_true]
  intro c member
  simp [visible c member]

variable (w : Window) (total : ℕ) (collection : String)

theorem isVisible_headerName : IsVisible (headerName collection) := by
  intro c member
  rw [headerName, String.toList_ofList, List.mem_filter] at member
  simpa using member.2

/-- No character of a name leaves a header unprintable. -/
theorem isVisible_contentRange : IsVisible (w.contentRange total collection) := by
  have space : IsVisible " " := by simp [IsVisible]
  have hyphen : IsVisible "-" := by simp [IsVisible]
  have slash : IsVisible "/" := by simp [IsVisible]
  rw [contentRange]
  exact (((((isVisible_headerName collection).append space).append
    (isVisible_showNat _)).append hyphen).append (isVisible_showNat _)).append slash |>.append
    (isVisible_showNat _)

/-- That the header of a window tells the first and the last of its records, where there are
some. -/
structure TellsRecords : Prop where
  ordered : w.offset ≤ w.last total
  inTotal : w.last total < total
  /-- As many records as the window holds of those that are left. -/
  count : w.last total - w.offset + 1 = min w.limit (total - w.offset)

variable {w total}

/-- A header tells the records of its window when there is room for one and the end can be
counted. -/
theorem tellsRecords_iff (first : w.offset < word64) (limit : w.limit < word64)
    (records : w.offset < total) :
    w.TellsRecords total ↔ 1 ≤ w.limit ∧ w.offset + w.limit < word64 := by
  have size : word64 = 2 ^ 64 := rfl
  constructor
  · rintro ⟨ordered, inTotal, count⟩
    simp only [last, size] at ordered inTotal count
    omega
  · rintro ⟨room, near⟩
    have isEnd : (w.offset + w.limit) % word64 = w.offset + w.limit := Nat.mod_eq_of_lt near
    constructor
    all_goals
      rw [last, isEnd]
      omega

end Window

/-- The window of an accepted page stands behind the pages before it, is cut down to the
greatest size, and holds a record exactly when that is not zero.  Its header is always there,
printable, and tells the records of the window, where there are some, exactly when the window
holds one and its end can be counted, as it can where no more than 2^63 records are listed. -/
theorem accepted_windows_tell_records {p : PageParams} {s : Settings} {w : Window}
    (accepted : p.window s = .ok w) (word : p.size.getD s.defaultPageSize < word64)
    {accepts : String → Bool} (visible : ∀ text, IsVisible text → accepts text = true)
    (total : ℕ) (collection : String) :
    w.offset = (p.number.getD 1 - 1) * w.limit ∧
    w.limit = s.pageSize (p.size.getD s.defaultPageSize) ∧
    (∀ most ∈ s.maxPageSize, w.limit ≤ most) ∧
    (1 ≤ w.limit ↔ s.maxPageSize ≠ some 0) ∧
    (∃ header, w.headers accepts total collection = [("Content-Range", header)] ∧
      IsVisible header ∧
      header = Window.headerName collection ++ " " ++ showNat w.offset ++ "-" ++
        showNat (w.last total) ++ "/" ++ showNat total) ∧
    (w.offset < total →
      (w.TellsRecords total ↔ 1 ≤ w.limit ∧ w.offset + w.limit < word64) ∧
      (total ≤ 2 ^ 63 → w.offset + w.limit < word64)) := by
  obtain ⟨_, _, near, limit, offset⟩ := PageParams.window_eq_ok.1 accepted
  obtain ⟨notMore, capped⟩ := s.pageSize_le (p.size.getD s.defaultPageSize)
  rw [← limit] at notMore capped
  have short : w.limit < word64 := Nat.lt_of_le_of_lt notMore word
  have printable := w.isVisible_contentRange total collection
  refine ⟨offset, limit, capped, PageParams.one_le_limit_iff accepted,
    ⟨w.contentRange total collection, ?_, printable, rfl⟩, fun records => ⟨?_, ?_⟩⟩
  · rw [Window.headers, if_pos (visible _ printable)]
  · exact Window.tellsRecords_iff near short records
  · exact PageParams.end_lt_of_total_le accepted short records

/-- A greatest size of zero leaves a page without records. -/
example : PageParams.window {} { maxPageSize := some 0 } = .ok ⟨0, 0⟩ := rfl

/-- An end of 2^64 is counted as zero. -/
example : PageParams.window ⟨some 4611686018427387904, some 4⟩ {} =
      .ok ⟨18446744073709551612, 4⟩ ∧
    (Window.mk 18446744073709551612 4).last 18446744073709551615 = 0 :=
  ⟨rfl, by decide⟩

namespace Sample

/-- The second page of articles, of at most fifty. -/
theorem accepted_windows_tell_records_of_articles :
    PageParams.window ⟨some 2, some 500⟩ { maxPageSize := some 50 } = .ok ⟨50, 50⟩ ∧
    (Window.mk 50 50).headers Window.isHeaderText 73 "articles\r\n" =
      [("Content-Range", "articles 50-72/73")] ∧
    (Window.mk 50 50).TellsRecords 73 := by
  have accepted : PageParams.window ⟨some 2, some 500⟩ { maxPageSize := some 50 } =
      .ok ⟨50, 50⟩ := rfl
  obtain ⟨_, _, _, _, ⟨header, isHeader, _, isText⟩, tells⟩ := accepted_windows_tell_records
    accepted (by decide) (fun _ => Window.isHeaderText_of_isVisible) 73 "articles\r\n"
  have written : header = "articles 50-72/73" := isText.trans (by decide +kernel)
  refine ⟨accepted, written ▸ isHeader, (tells (by decide)).1.2 ?_⟩
  decide

end Sample

end Backoffice
