import Mathlib.Data.List.Basic

/-!
# The order of bytes

Texts are ordered by their characters, from the first on.  This is the order of the bytes that
write them in UTF-8 (`Text.lt_iff_bytes_lt`): of two characters the greater one is written by
greater bytes, whatever comes after it (`Text.encode_append_lt`).  So the keys of a map rise in
both orders.
-/

namespace Backoffice.Text

/-- The bytes of a text in UTF-8. -/
def bytes (s : String) : List UInt8 := s.toUTF8.data.toList

/-- The bytes of a text are those of its characters, one after the other. -/
theorem bytes_eq_flatMap (s : String) : bytes s = s.toList.flatMap String.utf8EncodeChar := by
  have written : s.toUTF8 = (s.toList.flatMap String.utf8EncodeChar).toByteArray := by
    rw [String.toUTF8_eq_toByteArray]
    conv_lhs => rw [← String.ofList_toList (s := s)]
    rw [String.toByteArray_ofList]
    rfl
  rw [bytes, written]
  simp

/-! ## Characters -/

/-- Lists of bytes are compared by their first bytes, and then by the rest. -/
theorem ofNat_cons_lt {m n : Nat} (small : m < 256) (small' : n < 256) {rest rest' : List UInt8} :
    UInt8.ofNat m :: rest < UInt8.ofNat n :: rest' ↔ m < n ∨ m = n ∧ rest < rest' := by
  have same : UInt8.ofNat m = UInt8.ofNat n ↔ m = n := by
    rw [← UInt8.toNat_inj, UInt8.toNat_ofNat', UInt8.toNat_ofNat']
    omega
  have less : UInt8.ofNat m < UInt8.ofNat n ↔ m < n := by
    rw [UInt8.lt_iff_toNat_lt, UInt8.toNat_ofNat', UInt8.toNat_ofNat']
    omega
  rw [List.cons_lt_cons_iff, same, less]

/-- A code is made up of its last six bits, the six bits before them, and so on. -/
theorem eq_sixBits (code : Nat) :
    code = 262144 * (code / 262144) + 4096 * (code / 4096 % 64) + 64 * (code / 64 % 64) +
      code % 64 := by
  omega

/-- Of two characters the greater one is written by greater bytes, whatever comes after. -/
theorem encode_append_lt {c d : Char} (less : c < d) (after after' : List UInt8) :
    String.utf8EncodeChar c ++ after < String.utf8EncodeChar d ++ after' := by
  have lessCode : c.val.toNat < d.val.toNat := less
  have bound : d.val.toNat < 1114112 := by
    rcases d.valid with low | ⟨_, high⟩
    · exact Nat.lt_trans low (by decide)
    · exact high
  simp only [String.utf8EncodeChar]
  generalize c.val.toNat = m at lessCode
  generalize d.val.toNat = n at lessCode bound
  have topM : m / 262144 % 8 = m / 262144 := Nat.mod_eq_of_lt (by omega)
  have topN : n / 262144 % 8 = n / 262144 := Nat.mod_eq_of_lt (by omega)
  have bitsM := eq_sixBits m
  have bitsN := eq_sixBits n
  -- more bytes start with a greater one, and of equally many the first that differ decide
  split_ifs <;>
    simp (disch := omega) only
      [List.cons_append, List.nil_append, ofNat_cons_lt, topM, topN] <;> omega

/-! ## Texts -/

/-- The characters of a lesser text are written by lesser bytes. -/
theorem flatMap_encode_lt {cs ds : List Char} (less : cs < ds) :
    cs.flatMap String.utf8EncodeChar < ds.flatMap String.utf8EncodeChar := by
  induction ds generalizing cs with
  | nil => exact absurd less (List.not_lt_nil cs)
  | cons d ds ih =>
      rw [List.flatMap_cons]
      cases cs with
      | nil =>
          obtain ⟨first, others, bytes_eq⟩ :=
            List.exists_cons_of_ne_nil (String.utf8EncodeChar_ne_nil (c := d))
          rw [bytes_eq, List.flatMap_nil, List.cons_append]
          exact List.nil_lt_cons ..
      | cons c cs =>
          rw [List.flatMap_cons]
          rcases List.cons_lt_cons_iff.1 less with first | ⟨rfl, rest⟩
          · exact encode_append_lt first _ _
          · exact List.append_left_lt (ih rest)

/-- Texts are in the order of their bytes. -/
theorem lt_iff_bytes_lt {s t : String} : s < t ↔ bytes s < bytes t := by
  have rises : ∀ {s t : String}, s < t → bytes s < bytes t := by
    intro s t less
    rw [bytes_eq_flatMap, bytes_eq_flatMap]
    exact flatMap_encode_lt less
  refine ⟨rises, fun less => ?_⟩
  by_contra notLess
  by_cases same : t = s
  · exact List.lt_irrefl (bytes s) (same ▸ less)
  · have greater : t < s := Std.lt_of_le_of_ne (String.not_lt.1 notLess) same
    exact List.lt_asymm less (rises greater)

end Backoffice.Text
