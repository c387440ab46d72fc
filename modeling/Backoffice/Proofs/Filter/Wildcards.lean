import Backoffice.Filter.Predicate
import Backoffice.Proofs.Sample
import Backoffice.Proofs.Sql.Matching
import Backoffice.Proofs.Sql.Truth

/-!
# Wildcard conditions

What `*x*`, `x*` and `*x` ask of a field: that the text `x` stands there in the value,
character for character.  With case this is the same in every dialect.  Without
case it is so after both are put in upper case.

Upper case is left to the database.  A `Folding` is any map of characters that leaves
the special characters of `LIKE` alone and makes no others, so putting a pattern in
upper case is the same as making the pattern of the text in upper case
(`Folding.view_likePattern`).
-/

namespace Backoffice

namespace Sql

/-- Upper case, character by character. -/
structure Folding where
  /-- A character in upper case. -/
  upper : Char → List Char
  /-- What a pattern does not take literally stays as it is. -/
  fixes : ∀ c ∈ likeSpecials, upper c = [c]
  /-- Nothing else becomes such a character. -/
  avoids : ∀ c ∉ likeSpecials, ∀ d ∈ upper c, d ∉ likeSpecials

namespace Folding

/-- A text in upper case. -/
def view (fold : Folding) (cs : List Char) : List Char := cs.flatMap fold.upper

/-- Escaping goes with upper case. -/
theorem view_likeChar (fold : Folding) (c : Char) :
    fold.view (likeChar c) = (fold.upper c).flatMap likeChar := by
  by_cases special : c ∈ likeSpecials
  · have isEscape : likeEscape ∈ likeSpecials := List.mem_cons_self
    simp [view, likeChar, special, fold.fixes c special, fold.fixes likeEscape isEscape]
  · have plain : ∀ d ∈ fold.upper c, likeChar d = [d] := fun d member =>
      if_neg (fold.avoids c special d member)
    rw [List.flatMap_congr plain, List.flatMap_singleton']
    simp [view, likeChar, special]

theorem view_likeLiteral (fold : Folding) (cs : List Char) :
    fold.view (likeLiteral cs) = likeLiteral (fold.view cs) := by
  rw [likeLiteral_eq_flatMap, likeLiteral_eq_flatMap, view, view, List.flatMap_assoc,
    List.flatMap_assoc]
  exact List.flatMap_congr fun c _ => fold.view_likeChar c

/-- The pattern in upper case is the pattern of the text in upper case. -/
theorem view_likePattern (fold : Folding) (placement : Placement) (cs : List Char) :
    fold.view (likePattern placement cs) = likePattern placement (fold.view cs) := by
  have isRun : fold.view ['%'] = ['%'] := by
    simp [view, fold.fixes '%' (by decide)]
  have append : ∀ left right, fold.view (left ++ right) = fold.view left ++ fold.view right :=
    fun _ _ => List.flatMap_append
  rw [likePattern]
  cases placement with
  | anywhere =>
      show fold.view (['%'] ++ likeLiteral cs ++ ['%']) = _
      rw [append, append, isRun, view_likeLiteral]
      rfl
  | atStart =>
      show fold.view (likeLiteral cs ++ ['%']) = _
      rw [append, isRun, view_likeLiteral]
      rfl
  | atEnd =>
      show fold.view (['%'] ++ likeLiteral cs) = _
      rw [append, isRun, view_likeLiteral]
      rfl

/-- A letter of ASCII does not become a special character. -/
theorem toUpper_not_mem_likeSpecials {c : Char} (plain : c ∉ likeSpecials) :
    c.toUpper ∉ likeSpecials := by
  by_cases isLower : 'a'.val ≤ c.val ∧ c.val ≤ 'z'.val
  · have letters : ∀ n < 26, (Char.ofNat (97 + n)).toUpper ∉ likeSpecials := by decide
    have below : 97 ≤ c.toNat := isLower.1
    have above : c.toNat ≤ 122 := isLower.2
    have letter := letters (c.toNat - 97) (by omega)
    rwa [Nat.add_sub_cancel' below, Char.ofNat_toNat] at letter
  · have unchanged : c.toUpper = c := dif_neg isLower
    rwa [unchanged]

/-- The letters of ASCII in upper case, and all else as it is. -/
def ascii : Folding where
  upper c := [c.toUpper]
  fixes := by
    intro c special
    simp only [likeSpecials, List.mem_cons, List.not_mem_nil, or_false] at special
    rcases special with rfl | rfl | rfl
    · rfl
    · rfl
    · rfl
  avoids := by
    intro c plain d upper
    rw [List.mem_singleton] at upper
    rw [upper]
    exact toUpper_not_mem_likeSpecials plain

end Folding

/-- A text as a style of matching sees it. -/
def MatchStyle.view (fold : Folding) : MatchStyle → List Char → List Char
  | folded, cs => fold.view cs
  | exact, cs | binary, cs | glob, cs => cs

/-- Whether a text fits a pattern in a style of matching. -/
def MatchStyle.accepts (fold : Folding) (style : MatchStyle) (pattern value : List Char) : Bool :=
  match style with
  | folded => likeAccepts (fold.view pattern) (fold.view value)
  | exact | binary => likeAccepts pattern value
  | glob => globAccepts pattern value

/-- In every style, the pattern of a text finds that text and nothing else. -/
theorem MatchStyle.accepts_pattern (fold : Folding) (style : MatchStyle) (placement : Placement)
    (text : String) (value : List Char) :
    style.accepts fold (style.pattern placement text).toList value = true ↔
      placement.Occurs (style.view fold text.toList) (style.view fold value) := by
  unfold pattern
  rw [String.toList_ofList]
  cases style with
  | folded =>
      show likeAccepts (fold.view (likePattern placement text.toList)) (fold.view value) = true ↔ _
      rw [fold.view_likePattern]
      exact likeAccepts_likePattern placement (fold.view text.toList) (fold.view value)
  | exact => exact likeAccepts_likePattern placement text.toList value
  | binary => exact likeAccepts_likePattern placement text.toList value
  | glob => exact globAccepts_globPattern placement text.toList value

/-- That a row holds a text against patterns the way a database does. -/
def Reading.MatchesText (r : Reading) (fold : Folding) (subject : Subject) (value : String) : Prop :=
  ∀ style pattern,
    r.fits style subject pattern = .ofBool (style.accepts fold pattern.toList value.toList)

/-- Only the setting decides what a dialect sees of a text. -/
theorem Dialect.view_matchStyle (fold : Folding) (d : Dialect) (caseSensitive : Bool)
    (cs : List Char) :
    (d.matchStyle caseSensitive).view fold cs = if caseSensitive then cs else fold.view cs := by
  cases caseSensitive with
  | false => rfl
  | true => cases d <;> rfl

end Sql

open Sql (Folding Formula Placement Reading)

/-- A text that is not null is found or not found, and it is found exactly where the
text stands in it. -/
theorem ResolvedField.truth_finds {f : ResolvedField} {d : Sql.Dialect} {r : Reading}
    {fold : Folding} {value : String} (shown : r.MatchesText fold (f.textSubject d) value)
    (caseSensitive : Bool) (placement : Placement) (text : String) :
    (f.finds d caseSensitive placement text).truth r = .ofBool
      ((d.matchStyle caseSensitive).accepts fold
        ((d.matchStyle caseSensitive).pattern placement text).toList value.toList) :=
  shown (d.matchStyle caseSensitive) ((d.matchStyle caseSensitive).pattern placement text)

/-- The operators whose operand is a text that a value is searched for. -/
def Operator.isWildcard (operator : Operator) : Bool :=
  operator ∈ [contains, startsWith, endsWith]

/-- A wildcard condition compiles to the search for its text. -/
theorem ResolvedField.compile_wildcard {f : ResolvedField} {c : Condition} {text : String}
    (ctx : Context) (onText : f.type = .string) (wildcard : c.operator.isWildcard = true)
    (operand : c.operand = .text text) :
    f.compile ctx c = .ok
      (f.predicate c (f.finds ctx.dialect ctx.caseSensitive c.operator.placement text)) := by
  have supported : c.operator.supports f.type = true := by
    rw [onText]
    revert wildcard
    cases c.operator <;> decide
  have written : f.formula ctx c = f.textFormula ctx c := by
    rw [ResolvedField.formula]
    revert wildcard
    cases c.operator <;> simp [Operator.isWildcard]
  rw [ResolvedField.compile, if_pos supported, written, ResolvedField.textFormula, operand]

/-- A wildcard condition on a value that is not null holds exactly where its text
stands in the value. -/
theorem ResolvedField.truth_wildcard {f : ResolvedField} {c : Condition} {text value : String}
    {fold : Folding} {r : Reading} (ctx : Context) (onText : f.type = .string)
    (wildcard : c.operator.isWildcard = true) (operand : c.operand = .text text)
    (shown : r.MatchesText fold (.column f.ref) value) :
    ∃ p, f.compile ctx c = .ok p ∧ p.formula.truth r ≠ .unknown ∧
      (p.formula.truth r = .yes ↔
        if ctx.caseSensitive then c.operator.placement.Occurs text.toList value.toList
        else c.operator.placement.Occurs (fold.view text.toList) (fold.view value.toList)) := by
  have subject : f.textSubject ctx.dialect = .column f.ref := by
    simp [ResolvedField.textSubject, onText]
  rw [← subject] at shown
  refine ⟨_, ResolvedField.compile_wildcard ctx onText wildcard operand, ?_, ?_⟩
  · rw [ResolvedField.predicate, ResolvedField.truth_finds shown]
    exact Sql.Truth.ofBool_ne_unknown _
  · rw [ResolvedField.predicate, ResolvedField.truth_finds shown, Sql.Truth.ofBool_eq_yes,
      Sql.MatchStyle.accepts_pattern, Sql.Dialect.view_matchStyle, Sql.Dialect.view_matchStyle]
    cases ctx.caseSensitive <;> rfl

/-- Users' texts match literally.  `LIKE` and `GLOB` accept the values in which the
text stands, so a condition holds of a value that is not null exactly where the text
stands in it: with case the same in every dialect, and without case after both are
put in upper case. -/
theorem texts_match_literally :
    (∀ (placement : Placement) (text value : List Char),
      (Sql.likeAccepts (Sql.likePattern placement text) value = true ↔
        placement.Occurs text value) ∧
      (Sql.globAccepts (Sql.globPattern placement text) value = true ↔
        placement.Occurs text value)) ∧
    (∀ (f : ResolvedField) (ctx : Context) (c : Condition) (text value : String) (fold : Folding)
        (r : Reading),
      f.type = .string → c.operator.isWildcard = true → c.operand = .text text →
      r.MatchesText fold (.column f.ref) value →
      ∃ p, f.compile ctx c = .ok p ∧ p.formula.truth r ≠ .unknown ∧
        (p.formula.truth r = .yes ↔
          if ctx.caseSensitive then c.operator.placement.Occurs text.toList value.toList
          else c.operator.placement.Occurs (fold.view text.toList) (fold.view value.toList))) ∧
    ∀ (f : ResolvedField) (one other : Context) (c : Condition) (text value : String)
        (fold fold' : Folding) (r r' : Reading),
      f.type = .string → c.operator.isWildcard = true → c.operand = .text text →
      one.caseSensitive = true → other.caseSensitive = true →
      r.MatchesText fold (.column f.ref) value → r'.MatchesText fold' (.column f.ref) value →
      ∃ p p', f.compile one c = .ok p ∧ f.compile other c = .ok p' ∧
        p.formula.truth r = p'.formula.truth r' := by
  refine ⟨?_, ?_, ?_⟩
  · intro placement text value
    exact ⟨Sql.likeAccepts_likePattern placement text value,
      Sql.globAccepts_globPattern placement text value⟩
  · intro f ctx c text value fold r onText wildcard operand shown
    exact ResolvedField.truth_wildcard ctx onText wildcard operand shown
  · intro f one other c text value fold fold' r r' onText wildcard operand oneCase otherCase shown
      shown'
    obtain ⟨p, compiled, known, holds⟩ :=
      ResolvedField.truth_wildcard one onText wildcard operand shown
    obtain ⟨p', compiled', known', holds'⟩ :=
      ResolvedField.truth_wildcard other onText wildcard operand shown'
    rw [if_pos oneCase] at holds
    rw [if_pos otherCase] at holds'
    exact ⟨p, p', compiled, compiled', Sql.Truth.eq_of_yes_iff known known' (holds.trans holds'.symm)⟩

/-- A row of which only one text is known. -/
def Sql.Reading.ofText (fold : Folding) (value : String) : Reading where
  isNull _ := false
  compare _ _ _ := .unknown
  fits style _ pattern := .ofBool (style.accepts fold pattern.toList value.toList)

/-- The condition that a title contains `50%_off`. -/
def Sample.reduced : Condition := ⟨"title", "*50%_off*", .contains, .text "50%_off"⟩

theorem texts_match_literally_in_titles :
    (∃ p, Sample.title.compile Sample.articles Sample.reduced = .ok p ∧
      (p.formula.truth (.ofText .ascii "Now 50%_Off!") = .yes ↔
        Folding.ascii.view "50%_off".toList <:+: Folding.ascii.view "Now 50%_Off!".toList)) ∧
    ∃ p p', Sample.title.compile { Sample.articles with caseSensitive := true } Sample.reduced =
        .ok p ∧
      Sample.title.compile { Sample.articles with dialect := .postgres, caseSensitive := true }
        Sample.reduced = .ok p' ∧
      p.formula.truth (.ofText .ascii "50 off") = p'.formula.truth (.ofText .ascii "50 off") := by
  constructor
  · obtain ⟨p, compiled, _, holds⟩ := texts_match_literally.2.1 Sample.title Sample.articles
      Sample.reduced "50%_off" "Now 50%_Off!" .ascii (.ofText .ascii "Now 50%_Off!") rfl rfl rfl
      fun _ _ => rfl
    exact ⟨p, compiled, holds⟩
  · exact texts_match_literally.2.2 Sample.title { Sample.articles with caseSensitive := true }
      { Sample.articles with dialect := .postgres, caseSensitive := true } Sample.reduced "50%_off"
      "50 off" .ascii .ascii (.ofText .ascii "50 off") (.ofText .ascii "50 off") rfl rfl rfl rfl
      rfl (fun _ _ => rfl) fun _ _ => rfl

end Backoffice
