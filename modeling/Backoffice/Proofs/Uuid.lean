import Backoffice.Uuid

/-!
# Texts of identifiers

A text that is an identifier is its bare digits, or it has a hyphen near its start.  It has
hexadecimal digits only, but for hyphens, braces and the letters of the scheme
(`Uuid.each_of_read?`).  Each spelling of the grouped form, in whatever letter case, gives
the identifier back (`Uuid.read?_of_isSpelling`).
-/

namespace Backoffice.Uuid

variable {cs : List Char} {u : Uuid}

/-! ## Hyphens -/

/-- The grouped form has a hyphen in its ninth place. -/
theorem hyphen_of_ungroup? {digits : List Char} (grouped : ungroup? cs = some digits) :
    cs[8]? = some '-' := by
  rw [ungroup?] at grouped
  split at grouped
  next hyphens => exact hyphens.2.1
  next => cases grouped

/-- An identifier that is not written by its bare digits has an early hyphen. -/
theorem hyphen_of_read? (read : read? cs = some u) :
    cs.length = 32 ∨ ∃ place < 32, cs[place]? = some '-' := by
  rw [read?] at read
  split at read
  next bare => exact .inl bare
  next =>
    right
    simp only at read
    obtain ⟨digits, ungrouped, _⟩ := Option.bind_eq_some_iff.1 read
    obtain ⟨grouped, found, ungrouped⟩ := Option.bind_eq_some_iff.1 ungrouped
    have hyphen := hyphen_of_ungroup? ungrouped
    split at found
    · cases found
      exact ⟨8, by decide, hyphen⟩
    · split at found
      · -- inside braces
        obtain ⟨unopened, opened, closed⟩ := Option.bind_eq_some_iff.1 found
        have outer := Text.dropStart?_eq_some_iff.1 opened
        have inner := Text.dropEnd?_eq_some_iff.1 closed
        refine ⟨9, by decide, ?_⟩
        have within : 8 < grouped.length := (List.getElem?_eq_some_iff.1 hyphen).1
        rw [outer, inner, List.singleton_append, List.getElem?_cons_succ,
          List.getElem?_append_left within, hyphen]
      · -- after the scheme
        rw [dropScheme?] at found
        split at found
        · cases found
          refine ⟨17, by decide, ?_⟩
          rw [List.getElem?_drop] at hyphen
          exact hyphen
        · cases found

/-- A text before the first hyphen of an identifier is no identifier. -/
theorem read?_before_hyphen {before after : List Char} {v : Uuid}
    (read : read? (before ++ '-' :: after) = some u) (noHyphen : '-' ∉ before) :
    read? before ≠ some v := by
  intro readBefore
  have noPlace : ∀ place, before[place]? ≠ some '-' := fun place found =>
    noHyphen (List.mem_of_getElem? found)
  rcases hyphen_of_read? readBefore with bare | ⟨place, _, found⟩
  · rcases hyphen_of_read? read with whole | ⟨place, early, found⟩
    · rw [List.length_append, List.length_cons] at whole
      omega
    · rw [List.getElem?_append_left (by omega)] at found
      exact noPlace place found
  · exact noPlace place found

/-! ## Characters -/

/-- A character may stand in an identifier: it is a digit, it joins or encloses the groups,
or it belongs to the scheme. -/
def IsUuidCharacter (c : Char) : Prop :=
  (Nibble.ofChar? c).isSome = true ∨ c ∈ ['-', '\x7b', '\x7d'] ∨ c.toLower ∈ scheme

instance decidableIsUuidCharacter (c : Char) : Decidable (IsUuidCharacter c) :=
  inferInstanceAs (Decidable
    ((Nibble.ofChar? c).isSome = true ∨ c ∈ ['-', '\x7b', '\x7d'] ∨ c.toLower ∈ scheme))

theorem each_of_mapM {nibbles : List Nibble} (read : cs.mapM Nibble.ofChar? = some nibbles) :
    ∀ c ∈ cs, IsUuidCharacter c := by
  induction cs generalizing nibbles with
  | nil => simp
  | cons first rest ih =>
      rw [List.mapM_cons] at read
      obtain ⟨nibble, isNibble, read⟩ := Option.bind_eq_some_iff.1 read
      obtain ⟨others, areOthers, _⟩ := Option.bind_eq_some_iff.1 read
      refine List.forall_mem_cons.2 ⟨.inl ?_, ih areOthers⟩
      rw [isNibble, Option.isSome_some]

theorem each_of_ofDigits? (read : ofDigits? cs = some u) : ∀ c ∈ cs, IsUuidCharacter c := by
  obtain ⟨nibbles, areNibbles, _⟩ := Option.bind_eq_some_iff.1 read
  exact each_of_mapM areNibbles

theorem drop_of_hyphen {place : Nat} (hyphen : cs[place]? = some '-') :
    cs.drop place = '-' :: cs.drop (place + 1) := by
  obtain ⟨within, isHyphen⟩ := List.getElem?_eq_some_iff.1 hyphen
  rw [List.drop_eq_getElem_cons within, isHyphen]

/-- The grouped form is five groups with hyphens between them. -/
theorem ungroup?_eq_some_iff {digits : List Char} :
    ungroup? cs = some digits ↔ ∃ a b c d e : List Char,
      cs = a ++ '-' :: (b ++ '-' :: (c ++ '-' :: (d ++ '-' :: e))) ∧
        a.length = 8 ∧ b.length = 4 ∧ c.length = 4 ∧ d.length = 4 ∧ e.length = 12 ∧
        a ++ b ++ c ++ d ++ e = digits := by
  rw [ungroup?]
  constructor
  · intro grouped
    split at grouped
    next hyphens =>
      cases grouped
      obtain ⟨length, first, second, third, fourth⟩ := hyphens
      have group : ∀ {start : Nat},
          cs.drop start = (cs.drop start).take 4 ++ cs.drop (start + 4) := by
        intro start
        rw [← List.drop_drop, List.take_append_drop]
      refine ⟨_, _, _, _, _, ?_, ?_, ?_, ?_, ?_, ?_, rfl⟩
      · rw [← drop_of_hyphen fourth, ← group, ← drop_of_hyphen third, ← group,
          ← drop_of_hyphen second, ← group, ← drop_of_hyphen first, List.take_append_drop]
      all_goals simp [length]
    next => cases grouped
  · rintro ⟨a, b, c, d, e, rfl, inA, inB, inC, inD, inE, rfl⟩
    rw [if_pos (by simp [inA, inB, inC, inD, inE])]
    simp [inA, inB, inC, inD, List.drop_append, List.drop_of_length_le]

/-- The grouped form has the digits and hyphens. -/
theorem each_of_ungroup? {P : Char → Prop} (hyphen : P '-') {digits : List Char}
    (grouped : ungroup? cs = some digits) (each : ∀ c ∈ digits, P c) : ∀ c ∈ cs, P c := by
  obtain ⟨a, b, c, d, e, rfl, _, _, _, _, _, rfl⟩ := ungroup?_eq_some_iff.1 grouped
  simp only [List.forall_mem_append, List.forall_mem_cons] at each ⊢
  obtain ⟨⟨⟨⟨inA, inB⟩, inC⟩, inD⟩, inE⟩ := each
  exact ⟨inA, hyphen, inB, hyphen, inC, hyphen, inD, hyphen, inE⟩

/-- A text that is an identifier has such characters only. -/
theorem each_of_read? (read : read? cs = some u) : ∀ c ∈ cs, IsUuidCharacter c := by
  rw [read?] at read
  split at read
  next => exact each_of_ofDigits? read
  next =>
    simp only at read
    obtain ⟨digits, ungrouped, read⟩ := Option.bind_eq_some_iff.1 read
    obtain ⟨grouped, found, ungrouped⟩ := Option.bind_eq_some_iff.1 ungrouped
    have each := each_of_ungroup? (by decide) ungrouped (each_of_ofDigits? read)
    split at found
    · cases found
      exact each
    · split at found
      · -- inside braces
        obtain ⟨unopened, opened, closed⟩ := Option.bind_eq_some_iff.1 found
        rw [Text.dropStart?_eq_some_iff.1 opened, Text.dropEnd?_eq_some_iff.1 closed]
        simp only [List.forall_mem_append, List.forall_mem_cons]
        exact ⟨⟨by decide, by simp⟩, each, by decide, by simp⟩
      · -- after the scheme
        rw [dropScheme?] at found
        split at found
        next isScheme =>
          cases found
          rw [← List.take_append_drop scheme.length cs, List.forall_mem_append]
          refine ⟨fun c member => .inr (.inr ?_), each⟩
          exact isScheme ▸ List.mem_map_of_mem member
        next => cases found

/-! ## Letter case -/

/-- Lower case leaves every character alone but the capitals of ASCII. -/
theorem forall_upper {P : Char → Prop} (plain : ∀ c : Char, c.toLower = c → P c)
    (letters : ∀ n < 26, P (Char.ofNat (65 + n))) (c : Char) : P c := by
  by_cases isUpper : 'A'.val ≤ c.val ∧ c.val ≤ 'Z'.val
  · have above : 65 ≤ c.toNat := isUpper.1
    have below : c.toNat ≤ 90 := isUpper.2
    have letter := letters (c.toNat - 65) (by omega)
    rwa [Nat.add_sub_cancel' above, Char.ofNat_toNat] at letter
  · exact plain c (dif_neg isUpper)

/-- The case of a digit does not matter. -/
theorem ofChar?_toLower (c : Char) : Nibble.ofChar? c.toLower = Nibble.ofChar? c :=
  forall_upper (P := fun c => Nibble.ofChar? c.toLower = Nibble.ofChar? c)
    (fun _ same => congrArg Nibble.ofChar? same) (by decide) c

theorem ofChar?_toChar : ∀ n : Nibble, Nibble.ofChar? n.toChar = some n := by decide

/-- Only a hyphen is a hyphen in lower case. -/
theorem eq_hyphen_of_toLower {c : Char} : c.toLower = '-' → c = '-' :=
  forall_upper (P := fun c => c.toLower = '-' → c = '-') (fun _ same isHyphen => same ▸ isHyphen)
    (by decide) c

/-! ## Reading back -/

theorem mapM_some {α : Type} (items : List α) : items.mapM some = some items := by
  induction items with
  | nil => rfl
  | cons first rest ih => rw [List.mapM_cons, ih]; rfl

/-- Digits in either case are the digits of an identifier. -/
theorem ofDigits?_of_toLower {digits : List Char}
    (same : digits.map Char.toLower = u.nibbles.map Nibble.toChar) : ofDigits? digits = some u := by
  have inLower : Nibble.ofChar? ∘ Char.toLower = Nibble.ofChar? := funext ofChar?_toLower
  have back : Nibble.ofChar? ∘ Nibble.toChar = some := funext ofChar?_toChar
  have read : digits.mapM Nibble.ofChar? = some u.nibbles := by
    rw [← inLower, ← List.mapM_map, same, List.mapM_map, back, mapM_some]
  rw [ofDigits?, read, Option.bind_some, dif_pos u.length_eq]

theorem ungroup?_text (u : Uuid) : ungroup? u.text = some (u.nibbles.map Nibble.toChar) := by
  have length : (u.nibbles.map Nibble.toChar).length = 32 := by rw [List.length_map, u.length_eq]
  rw [text]
  generalize u.nibbles.map Nibble.toChar = digits at length
  refine ungroup?_eq_some_iff.2 ⟨digits.take 8, (digits.drop 8).take 4, (digits.drop 12).take 4,
    (digits.drop 16).take 4, digits.drop 20, ?_, ?_, ?_, ?_, ?_, ?_, ?_⟩
  · simp
  rotate_right
  · have group : ∀ start, (digits.drop start).take 4 ++ digits.drop (start + 4) =
        digits.drop start := fun start => by rw [← List.drop_drop, List.take_append_drop]
    rw [List.append_assoc, group 16, List.append_assoc, group 12, List.append_assoc, group 8,
      List.take_append_drop]
  all_goals simp [length]

/-- A text is the grouped form of an identifier, in any letter case. -/
def IsSpelling (u : Uuid) (text : String) : Prop := text.toList.map Char.toLower = u.text

theorem each_of_text {P : Char → Prop} (hyphen : P '-') (digits : ∀ n : Nibble, P n.toChar) :
    ∀ c ∈ u.text, P c :=
  each_of_ungroup? hyphen u.ungroup?_text (List.forall_mem_map.2 fun n _ => digits n)

theorem isSpelling_toString (u : Uuid) : u.IsSpelling u.toString := by
  have each : ∀ c ∈ u.text, c.toLower = id c := each_of_text rfl (by decide)
  rw [IsSpelling, toString, String.toList_ofList, List.map_congr_left each, List.map_id]

theorem isSpelling_toUpper (u : Uuid) : u.IsSpelling u.toString.toUpper := by
  have each : ∀ c ∈ u.text, (Char.toLower ∘ Char.toUpper) c = id c := each_of_text rfl (by decide)
  rw [IsSpelling, toString, String.toUpper, String.toList_map, String.toList_ofList, List.map_map,
    List.map_congr_left each, List.map_id]

/-- A group of a spelling is a group of its text, in some letter case. -/
theorem group_of_toLower {group rest : List Char}
    (same : cs.map Char.toLower = group ++ '-' :: rest) : ∃ spelled others,
      cs = spelled ++ '-' :: others ∧ spelled.map Char.toLower = group ∧
        others.map Char.toLower = rest := by
  obtain ⟨spelled, fromHyphen, isCut, isGroup, isRest⟩ := List.map_eq_append_iff.1 same
  obtain ⟨hyphen, others, isCons, isHyphen, isRest⟩ := List.map_eq_cons_iff.1 isRest
  rw [eq_hyphen_of_toLower isHyphen] at isCons
  exact ⟨spelled, others, isCons ▸ isCut, isGroup, isRest⟩

/-- Each spelling of the grouped form, in whatever letter case, reads back. -/
theorem read?_of_isSpelling {spelled : String} (spelling : u.IsSpelling spelled) :
    read? spelled.toList = some u := by
  have same : spelled.toList.map Char.toLower = u.text := spelling
  generalize spelled.toList = cs at same
  obtain ⟨_, _, _, _, _, text, inA, inB, inC, inD, inE, digits⟩ :=
    ungroup?_eq_some_iff.1 u.ungroup?_text
  rw [text] at same
  obtain ⟨a, fromB, rfl, rfl, sameB⟩ := group_of_toLower same
  obtain ⟨b, fromC, rfl, rfl, sameC⟩ := group_of_toLower sameB
  obtain ⟨c, fromD, rfl, rfl, sameD⟩ := group_of_toLower sameC
  obtain ⟨d, e, rfl, rfl, rfl⟩ := group_of_toLower sameD
  simp only [List.length_map] at inA inB inC inD inE
  have grouped : ungroup? (a ++ '-' :: (b ++ '-' :: (c ++ '-' :: (d ++ '-' :: e)))) =
      some (a ++ b ++ c ++ d ++ e) :=
    ungroup?_eq_some_iff.2 ⟨a, b, c, d, e, rfl, inA, inB, inC, inD, inE, rfl⟩
  have length : (a ++ '-' :: (b ++ '-' :: (c ++ '-' :: (d ++ '-' :: e)))).length = 36 := by
    simp [inA, inB, inC, inD, inE]
  rw [read?, if_neg (by omega), if_pos length]
  show (ungroup? _).bind ofDigits? = some u
  rw [grouped, Option.bind_some]
  exact ofDigits?_of_toLower (by simpa using digits)

end Backoffice.Uuid
