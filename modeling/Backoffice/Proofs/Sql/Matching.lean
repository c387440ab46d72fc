import Mathlib.Data.List.Infix
import Backoffice.Sql.Formula
import Backoffice.Sql.Pattern

/-!
# What a pattern accepts

A pattern is read into parts, each of which stands for any text (`run`) or for one
character of a set (`one`).  `accepts` tries every way to divide a text among them.

*`LIKE`.*  `%` is any text, `_` any character, and `!` takes the next character
literally.  A pattern must not end after a `!`.

*`GLOB`.*  `*` is any text, `?` any character, and brackets give a set: characters
and ranges, all others after a leading `^`.  A `]` that comes first belongs to the set,
as does a `-` without two ends.  A pattern must not end within brackets.

Both patterns of a text read as its characters with runs on the open sides
(`ReadsEscaped.surround`), and such parts accept the values in which the characters
occur there (`accepts_surround`).
-/

namespace Backoffice.Sql

/-! ## Parts of patterns -/

/-- A set of characters, given by ranges or by what is not in them. -/
structure CharSet where
  /-- Whether the set holds what is in no range. -/
  negated : Bool := false
  /-- The ranges, each by its first and its last character. -/
  ranges : List (Char × Char)
deriving DecidableEq, Repr

namespace CharSet

/-- Every character. -/
def all : CharSet := ⟨true, []⟩

/-- A single character. -/
def single (c : Char) : CharSet := ⟨false, [(c, c)]⟩

/-- The set with one more range. -/
def insert (s : CharSet) (first last : Char) : CharSet :=
  { s with ranges := s.ranges ++ [(first, last)] }

/-- Whether a character is in a set. -/
def has (s : CharSet) (c : Char) : Bool :=
  s.ranges.any (fun range => range.1 ≤ c && c ≤ range.2) != s.negated

@[simp] theorem has_single (c d : Char) : (single c).has d = true ↔ c = d := by
  suffices c ≤ d ∧ d ≤ c ↔ c = d by simpa [has, single] using this
  constructor
  · rintro ⟨below, above⟩
    exact Char.le_antisymm below above
  · rintro rfl
    exact ⟨Char.le_refl c, Char.le_refl c⟩

end CharSet

/-- A part of a pattern. -/
inductive PatternPart where
  /-- Any text. -/
  | run
  /-- One character of a set. -/
  | one (set : CharSet)
deriving DecidableEq, Repr

/-- The part that is one given character. -/
def PatternPart.literal (c : Char) : PatternPart := one (.single c)

/-- Whether a text can be divided among the parts of a pattern. -/
def accepts : List PatternPart → List Char → Bool
  | [], value => value.isEmpty
  | .run :: parts, value => value.tails.any (accepts parts)
  | .one _ :: _, [] => false
  | .one set :: parts, c :: rest => set.has c && accepts parts rest

@[simp] theorem accepts_nil (value : List Char) : accepts [] value = true ↔ value = [] := by
  simp [accepts]

/-- A run takes any start of the text. -/
theorem accepts_run (parts : List PatternPart) (value : List Char) :
    accepts (.run :: parts) value = true ↔ ∃ rest, rest <:+ value ∧ accepts parts rest = true := by
  simp [accepts]

/-- A run at the end takes all that is left. -/
@[simp] theorem accepts_run_nil (value : List Char) : accepts [.run] value = true := by
  rw [accepts_run]
  exact ⟨[], List.nil_suffix, rfl⟩

/-- Literal characters take themselves. -/
theorem accepts_literals (text : List Char) (parts : List PatternPart) (value : List Char) :
    accepts (text.map .literal ++ parts) value = true ↔
      ∃ rest, value = text ++ rest ∧ accepts parts rest = true := by
  induction text generalizing value with
  | nil => simp
  | cons c text ih =>
      cases value with
      | nil => simp [accepts, PatternPart.literal]
      | cons d rest =>
          simp only [List.map_cons, List.cons_append, PatternPart.literal, accepts,
            Bool.and_eq_true, CharSet.has_single, List.cons.injEq, ih]
          constructor
          · rintro ⟨rfl, others, split, accepted⟩
            exact ⟨others, ⟨rfl, split⟩, accepted⟩
          · rintro ⟨others, ⟨same, split⟩, accepted⟩
            exact ⟨same.symm, others, split, accepted⟩

/-! ## Placements -/

/-- That a text stands in a value, where the placement asks for it. -/
def Placement.Occurs (placement : Placement) (text value : List Char) : Prop :=
  match placement with
  | anywhere => text <:+: value
  | atStart => text <+: value
  | atEnd => text <:+ value

/-- Literal characters with runs on the open sides accept the values in which they occur. -/
theorem accepts_surround (placement : Placement) (text value : List Char) :
    accepts (placement.surround .run (text.map .literal)) value = true ↔
      placement.Occurs text value := by
  cases placement with
  | anywhere =>
      simp only [Placement.surround, Placement.Occurs, List.cons_append, accepts_run,
        accepts_literals, accepts_run_nil, and_true]
      rw [List.infix_iff_prefix_suffix]
      constructor
      · rintro ⟨tail, isTail, rest, rfl⟩
        exact ⟨text ++ rest, List.prefix_append text rest, isTail⟩
      · rintro ⟨tail, ⟨rest, rfl⟩, isTail⟩
        exact ⟨text ++ rest, isTail, rest, rfl⟩
  | atStart =>
      simp only [Placement.surround, Placement.Occurs, accepts_literals, accepts_run_nil, and_true]
      exact exists_congr fun rest => eq_comm
  | atEnd =>
      have literals : ∀ rest, accepts (text.map .literal) rest = true ↔ rest = text := by
        intro rest
        have whole := accepts_literals text [] rest
        simpa using whole
      simp [Placement.surround, Placement.Occurs, accepts_run, literals]

/-! ## Escaped texts -/

/-- How the patterns of a kind read: an escaped character as that character, and the
wildcard for any text as a run. -/
structure ReadsEscaped (parts : List Char → Option (List PatternPart)) (escape : Char → List Char)
    (wildcard : Char) : Prop where
  nil : parts [] = some []
  escaped : ∀ c rest, parts (escape c ++ rest) = (parts rest).map (.literal c :: ·)
  wildcard : ∀ rest, parts (wildcard :: rest) = (parts rest).map (.run :: ·)

namespace ReadsEscaped

variable {parts : List Char → Option (List PatternPart)} {escape : Char → List Char}
  {wildcard : Char}

/-- An escaped text reads as its characters. -/
theorem text (reads : ReadsEscaped parts escape wildcard) (cs rest : List Char) :
    parts (cs.flatMap escape ++ rest) = (parts rest).map (cs.map .literal ++ ·) := by
  induction cs with
  | nil => simp
  | cons c cs ih =>
      rw [List.flatMap_cons, List.append_assoc, reads.escaped, ih, Option.map_map]
      rfl

/-- With wildcards on its open sides, it reads as its characters with runs there. -/
theorem surround (reads : ReadsEscaped parts escape wildcard) (placement : Placement)
    (cs : List Char) :
    parts (placement.surround wildcard (cs.flatMap escape)) =
      some (placement.surround .run (cs.map .literal)) := by
  have ending : parts [wildcard] = some [.run] := by
    rw [reads.wildcard, reads.nil]
    rfl
  cases placement with
  | anywhere =>
      show parts (wildcard :: cs.flatMap escape ++ [wildcard]) = _
      rw [List.cons_append, reads.wildcard, reads.text, ending]
      rfl
  | atStart =>
      show parts (cs.flatMap escape ++ [wildcard]) = _
      rw [reads.text, ending]
      rfl
  | atEnd =>
      show parts (wildcard :: cs.flatMap escape) = _
      have whole := reads.text cs []
      rw [List.append_nil, reads.nil, Option.map_some, List.append_nil] at whole
      rw [reads.wildcard, whole]
      rfl

end ReadsEscaped

/-! ## `LIKE` -/

/-- The part that a character of a `LIKE` pattern is. -/
def likePart (c : Char) : PatternPart :=
  if c = '%' then .run else if c = '_' then .one .all else .literal c

/-- The parts of a `LIKE` pattern.  The flag tells whether an escape comes before. -/
def likeParts (escaped : Bool) : List Char → Option (List PatternPart)
  | [] => if escaped then none else some []
  | c :: rest =>
      if escaped then (likeParts false rest).map (.literal c :: ·)
      else if c = likeEscape then likeParts true rest
      else (likeParts false rest).map (likePart c :: ·)

/-- Whether `LIKE` with the escape `!` is true of a text and a pattern. -/
def likeAccepts (pattern value : List Char) : Bool :=
  (likeParts false pattern).any (accepts · value)

/-- The characters that a `LIKE` pattern does not take literally. -/
def likeSpecials : List Char := [likeEscape, '%', '_']

/-- A character as a `LIKE` pattern takes it literally. -/
def likeChar (c : Char) : List Char := if c ∈ likeSpecials then [likeEscape, c] else [c]

/-- None of the three replacements touches what the others put in. -/
theorem likeLiteral_eq_flatMap (cs : List Char) : likeLiteral cs = cs.flatMap likeChar := by
  simp only [likeLiteral, replaceChar, List.flatMap_assoc]
  refine List.flatMap_congr fun c _ => ?_
  by_cases isEscape : c = likeEscape
  · subst isEscape
    rfl
  · by_cases isRun : c = '%'
    · subst isRun
      rfl
    · by_cases isOne : c = '_'
      · subst isOne
        rfl
      · simp [likeChar, likeSpecials, isEscape, isRun, isOne]

theorem readsEscaped_like : ReadsEscaped (likeParts false) likeChar '%' where
  nil := rfl
  escaped := by
    intro c rest
    rw [likeChar]
    split
    next => rfl
    next plain =>
      simp only [likeSpecials, List.mem_cons, List.not_mem_nil, or_false, not_or] at plain
      obtain ⟨notEscape, notRun, notOne⟩ := plain
      simp [likeParts, likePart, notEscape, notRun, notOne]
  wildcard := fun _ => rfl

/-- The `LIKE` pattern of a text finds that text and nothing else. -/
theorem likeAccepts_likePattern (placement : Placement) (text value : List Char) :
    likeAccepts (likePattern placement text) value = true ↔ placement.Occurs text value := by
  rw [likeAccepts, likePattern, likeLiteral_eq_flatMap, readsEscaped_like.surround]
  exact accepts_surround placement text value

/-! ## `GLOB` -/

/-- Where the reading of a `GLOB` pattern is. -/
inductive GlobState where
  /-- Outside of brackets. -/
  | outside
  /-- After a bracket. -/
  | opened
  /-- Before the first character of a set. -/
  | empty (set : CharSet)
  /-- Within a set, after a character that a range may start with. -/
  | inside (set : CharSet) (start : Option Char)
  /-- Within a set, after the `-` of a range. -/
  | range (set : CharSet) (start : Char)
deriving DecidableEq, Repr

namespace GlobState

/-- One more character within a set. -/
def stepInside (set : CharSet) (start : Option Char) (c : Char) : GlobState × List PatternPart :=
  if c = ']' then (outside, [.one set])
  else
    match start with
    | some first =>
        if c = '-' then (range set first, []) else (inside (set.insert c c) (some c), [])
    | none => (inside (set.insert c c) (some c), [])

/-- The first character of a set. -/
def stepEmpty (set : CharSet) (c : Char) : GlobState × List PatternPart :=
  if c = ']' then (inside (set.insert c c) none, []) else stepInside set none c

/-- One more character of a pattern, with the parts that it ends. -/
def step : GlobState → Char → GlobState × List PatternPart
  | outside, c =>
      if c = '*' then (outside, [.run])
      else if c = '?' then (outside, [.one .all])
      else if c = '[' then (opened, [])
      else (outside, [.literal c])
  | opened, c => if c = '^' then (empty ⟨true, []⟩, []) else stepEmpty ⟨false, []⟩ c
  | empty set, c => stepEmpty set c
  | inside set start, c => stepInside set start c
  | range set start, c =>
      if c = ']' then (outside, [.one (set.insert '-' '-')])
      else (inside (set.insert start c) none, [])

end GlobState

/-- The parts of a `GLOB` pattern. -/
def globParts (state : GlobState) : List Char → Option (List PatternPart)
  | [] => if state = .outside then some [] else none
  | c :: rest => (globParts (state.step c).1 rest).map ((state.step c).2 ++ ·)

/-- Whether `GLOB` is true of a text and a pattern. -/
def globAccepts (pattern value : List Char) : Bool :=
  (globParts .outside pattern).any (accepts · value)

example : globAccepts ['[', '^', 'a', '-', 'c', ']', '*'] ['d', 'a'] = true := by decide
example : globAccepts ['[', ']', '-', ']'] ['-'] = true := by decide

/-- The characters that a `GLOB` pattern does not take literally. -/
def globSpecials : List Char := ['[', '*', '?']

/-- A character as a `GLOB` pattern takes it literally. -/
def globChar (c : Char) : List Char := if c ∈ globSpecials then ['[', c, ']'] else [c]

/-- None of the three replacements touches what the others put in. -/
theorem globLiteral_eq_flatMap (cs : List Char) : globLiteral cs = cs.flatMap globChar := by
  simp only [globLiteral, replaceChar, List.flatMap_assoc]
  refine List.flatMap_congr fun c _ => ?_
  by_cases isBracket : c = '['
  · subst isBracket
    rfl
  · by_cases isRun : c = '*'
    · subst isRun
      rfl
    · by_cases isOne : c = '?'
      · subst isOne
        rfl
      · simp [globChar, globSpecials, isBracket, isRun, isOne]

/-- A character reads as itself, alone or as the only one of a set. -/
theorem readsEscaped_glob : ReadsEscaped (globParts .outside) globChar '*' where
  nil := rfl
  escaped := by
    intro c rest
    rw [globChar]
    split
    next special =>
      simp only [globSpecials, List.mem_cons, List.not_mem_nil, or_false] at special
      obtain rfl | rfl | rfl := special
      all_goals
        simp only [List.cons_append, List.nil_append, globParts, Option.map_map]
        rfl
    next plain =>
      simp only [globSpecials, List.mem_cons, List.not_mem_nil, or_false, not_or] at plain
      obtain ⟨notBracket, notRun, notOne⟩ := plain
      simp [globParts, GlobState.step, notBracket, notRun, notOne]
  wildcard := fun _ => rfl

/-- The `GLOB` pattern of a text finds that text and nothing else. -/
theorem globAccepts_globPattern (placement : Placement) (text value : List Char) :
    globAccepts (globPattern placement text) value = true ↔ placement.Occurs text value := by
  rw [globAccepts, globPattern, globLiteral_eq_flatMap, readsEscaped_glob.surround]
  exact accepts_surround placement text value

end Backoffice.Sql
