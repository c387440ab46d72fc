import Backoffice.Proofs.Sql.Tokens

/-!
# Arithmetic as a database reads it

What a written expression computes depends on how a database reads it.  The tokens of a text are
read from the left (`Parse.run`).

* `*`, `/` and `%` take what is beside them, `+` and `-` take whole products, and operators of
  one rank go from the left.
* A parenthesis opens a level of its own.  After a word it is that of a call, whose arguments
  stand between a comma, `AS` or `FROM`.

A term is grouped when it has parentheses wherever this reading asks for them.  Then its tokens
are taken up by the level that it stands on (`Term.run_tokens`), and its text is read as the term
(`readTerm?_text`).
-/

namespace Backoffice.Sql

/-- What has been read on one level of parentheses, up to the term that is read now. -/
structure Level where
  /-- The word before the parenthesis. -/
  function : Option String := none
  /-- The first argument, when there are two. -/
  first : Option (Term × Separator) := none
  /-- What a product is added to. -/
  sum : Option (Term × Sign) := none
  /-- What is multiplied by the term. -/
  product : Option (Term × Sign) := none
deriving DecidableEq, Repr

namespace Level

/-- A term after an operator that waits for it. -/
def after (waiting : Option (Term × Sign)) (term : Term) : Term :=
  match waiting with
  | some (left, sign) => .operation sign left term
  | none => term

/-- The term of a level that a parenthesis closes. -/
def close? (level : Level) (last : Term) : Option Term :=
  let whole := after level.sum last
  match level.function, level.first with
  | none, none => some (.group whole)
  | some function, none => some (.call function whole)
  | some function, some (first, separator) => some (.pair function first separator whole)
  | none, some _ => none

end Level

/-- What has been read of a text. -/
structure Parse where
  /-- The product that ends here. -/
  operand : Option Term := none
  /-- The level of parentheses it is on. -/
  level : Level := {}
  /-- The levels around it. -/
  outer : List Level := []
deriving DecidableEq, Repr

namespace Parse

/-- With a term that stands for itself. -/
def take (level : Level) (outer : List Level) (term : Term) : Parse :=
  { operand := some (Level.after level.product term), level := { level with product := none },
    outer }

/-- With one more token, when it can stand there. -/
def step (p : Parse) (token : Token) : Option Parse :=
  match p.operand, token with
  | none, .number n => some (take p.level p.outer (.number n))
  | none, .column ref => some (take p.level p.outer (.column ref))
  | none, .string text => some (take p.level p.outer (.string text))
  | none, .word text => some (take p.level p.outer (.word text))
  | none, .opening function => some { level := { function }, outer := p.level :: p.outer }
  | some term, .sign sign =>
      if sign.isTight then
        some { p with operand := none, level := { p.level with product := some (term, sign) } }
      else
        let left := Level.after p.level.sum term
        some { p with operand := none, level := { p.level with sum := some (left, sign) } }
  | some term, .separator separator =>
      if p.level.function.isSome && p.level.first.isNone then
        let first := Level.after p.level.sum term
        some { p with
          operand := none
          level := { function := p.level.function, first := some (first, separator) } }
      else none
  | some term, .closing =>
      match p.outer with
      | [] => none
      | level :: outer => (p.level.close? term).map (take level outer)
  | _, _ => none

/-- With more tokens. -/
def run : Parse → List Token → Option Parse
  | p, [] => some p
  | p, token :: rest => (p.step token).bind fun next => run next rest

/-- The term that has been read, when nothing is open. -/
def term? (p : Parse) : Option Term :=
  match p.outer with
  | [] => p.operand.map (Level.after p.level.sum)
  | _ :: _ => none

end Parse

/-- The term of a text. -/
def readTerm? (d : Dialect) (text : List Char) : Option Term := do
  let tokens ← lex d .gap text
  let parse ← Parse.run {} tokens
  parse.term?

/-! ## Grouped terms -/

namespace Term

/-- Whether a term adds or subtracts. -/
def isSum : Term → Bool
  | operation sign _ _ => !sign.isTight
  | _ => false

/-- Whether a term needs parentheses behind a tight operator. -/
def isOperation : Term → Bool
  | operation .. => true
  | _ => false

/-- Whether a term has parentheses wherever reading it asks for them. -/
def isGrouped : Term → Bool
  | number _ | column _ | string _ | word _ => true
  | operation sign left right =>
      left.isGrouped && right.isGrouped &&
        if sign.isTight then !left.isSum && !right.isOperation else !right.isSum
  | group term => term.isGrouped
  | call _ argument => argument.isGrouped
  | pair _ first _ second => first.isGrouped && second.isGrouped

/-- Whether nothing on a level would take only a part of a term. -/
def StandsOn (t : Term) (level : Level) : Prop :=
  (t.isOperation = true → level.product = none) ∧ (t.isSum = true → level.sum = none)

/-- What has been read after a term that stands on a level. -/
def readOn (level : Level) (outer : List Level) : Term → Parse
  | operation sign left right =>
      if sign.isTight then .take level outer (operation sign left right)
      else { operand := some right, level := { level with sum := some (left, sign) }, outer }
  | t => .take level outer t

end Term

section
variable {t left right : Term} {level : Level} {outer : List Level} {rest : List Token}

theorem Term.isOperation_of_isSum (sum : t.isSum = true) : t.isOperation = true := by
  cases t with
  | operation => rfl
  | _ => cases sum

theorem Term.readOn_of_not_isSum (notSum : t.isSum = false) (level : Level) (outer : List Level) :
    t.readOn level outer = .take level outer t := by
  cases t with
  | operation sign left right =>
      have tight : sign.isTight = true := by simpa [isSum] using notSum
      rw [readOn, if_pos tight]
  | _ => rfl

/-- Where nothing waits, any term stands. -/
theorem Term.standsOn_empty (t : Term) (function : Option String)
    (first : Option (Term × Separator)) : t.StandsOn { function, first } :=
  ⟨fun _ => rfl, fun _ => rfl⟩

/-- Where nothing waits, the whole term has been read. -/
theorem Term.exists_readOn (t : Term) (outer : List Level) (product : level.product = none)
    (sum : level.sum = none) : ∃ last waiting,
      t.readOn level outer =
          { operand := some last, level := { level with sum := waiting }, outer } ∧
        Level.after waiting last = t := by
  cases isSum : t.isSum with
  | false =>
      refine ⟨t, none, ?_, rfl⟩
      obtain ⟨_, _, _, _⟩ := level
      cases product
      cases sum
      rw [readOn_of_not_isSum isSum]
      rfl
  | true =>
      cases t with
      | operation sign left right =>
          have loose : ¬sign.isTight = true := by simpa [Term.isSum] using isSum
          refine ⟨right, some (left, sign), ?_, rfl⟩
          rw [readOn, if_neg loose]
      | _ => cases isSum

/-! ## Steps -/

namespace Parse

theorem run_cons {p next : Parse} {token : Token} (step : p.step token = some next) :
    run p (token :: rest) = run next rest := by
  rw [run, step, Option.bind_some]

theorem take_of_nothing (product : level.product = none) (term : Term) :
    take level outer term = { operand := some term, level, outer } := by
  obtain ⟨_, _, _, _⟩ := level
  cases product
  rfl

theorem take_product (product : level.product = none) (sign : Sign) (left right : Term) :
    take { level with product := some (left, sign) } outer right =
      take level outer (.operation sign left right) := by
  obtain ⟨_, _, _, _⟩ := level
  cases product
  rfl

/-- An operator that takes what is before it. -/
theorem step_tight {sign : Sign} (tight : sign.isTight = true) (term : Term) :
    step { operand := some term, level, outer } (.sign sign) =
      some { level := { level with product := some (term, sign) }, outer } :=
  if_pos tight

/-- An operator that takes the whole sum before it. -/
theorem step_loose {sign : Sign} (loose : ¬sign.isTight = true) (product : level.product = none)
    (sum : level.sum = none) (t : Term) :
    step (t.readOn level outer) (.sign sign) =
      some { level := { level with sum := some (t, sign) }, outer } := by
  obtain ⟨last, waiting, read, rfl⟩ := t.exists_readOn outer product sum
  rw [read]
  exact if_neg loose

/-- A separator that takes the whole argument before it. -/
theorem step_separator (function : String) (t : Term) (separator : Separator) :
    step (t.readOn { function := some function } outer) (.separator separator) =
      some { level := { function := some function, first := some (t, separator) }, outer } := by
  obtain ⟨last, waiting, read, rfl⟩ :=
    @Term.exists_readOn { function := some function } t outer rfl rfl
  rw [read]
  rfl

/-- A parenthesis that closes a level with a whole term. -/
theorem step_closing {inner : Level} {closed : Term} (product : inner.product = none)
    (sum : inner.sum = none) (t : Term) (closes : inner.close? t = some closed) :
    step (t.readOn inner (level :: outer)) .closing = some (take level outer closed) := by
  obtain ⟨last, waiting, read, rfl⟩ := t.exists_readOn (level :: outer) product sum
  have same : { inner with sum := waiting }.close? last =
      inner.close? (Level.after waiting last) := by
    rw [Level.close?, Level.close?, sum]
    rfl
  rw [read]
  show (Level.close? _ last).map (take level outer) = _
  rw [same, closes, Option.map_some]

end Parse

open Parse in
/-- A term is taken up by the level that it stands on. -/
theorem Term.run_tokens (grouped : t.isGrouped = true) (stands : t.StandsOn level)
    (outer : List Level) (rest : List Token) :
    run { level, outer } (t.tokens ++ rest) = run (t.readOn level outer) rest := by
  induction t generalizing level outer rest with
  | number | column | string | word => rfl
  | operation sign left right ihLeft ihRight =>
      obtain ⟨both, guarded⟩ := Bool.and_eq_true_iff.1 grouped
      obtain ⟨groupedLeft, groupedRight⟩ := Bool.and_eq_true_iff.1 both
      have product : level.product = none := stands.1 rfl
      rw [tokens, List.append_assoc, List.cons_append]
      split at guarded
      next tight =>
        obtain ⟨notSum, notOperation⟩ := by simpa using guarded
        have notSumRight : right.isSum = false := by
          rw [← Bool.not_eq_true]
          exact fun sum => Bool.false_ne_true (notOperation.symm.trans (isOperation_of_isSum sum))
        have standsLeft : left.StandsOn level := ⟨fun _ => product, by simp [notSum]⟩
        have standsRight : right.StandsOn { level with product := some (left, sign) } :=
          ⟨by simp [notOperation], by simp [notSumRight]⟩
        rw [ihLeft groupedLeft standsLeft, readOn_of_not_isSum notSum, take_of_nothing product,
          run_cons (step_tight tight left), ihRight groupedRight standsRight,
          readOn_of_not_isSum notSumRight, take_product product, readOn, if_pos tight]
      next loose =>
        have sum : level.sum = none := stands.2 (by simp [isSum, loose])
        have notSum : right.isSum = false := by simpa using guarded
        have standsLeft : left.StandsOn level := ⟨fun _ => product, fun _ => sum⟩
        have standsRight : right.StandsOn { level with sum := some (left, sign) } :=
          ⟨fun _ => product, by simp [notSum]⟩
        rw [ihLeft groupedLeft standsLeft, run_cons (step_loose loose product sum left),
          ihRight groupedRight standsRight, readOn_of_not_isSum notSum,
          take_of_nothing (by exact product), readOn, if_neg loose]
  | group t ih =>
      have opens : step { level, outer } (.opening none) =
          some { level := {}, outer := level :: outer } := rfl
      have all : (group t).tokens ++ rest = .opening none :: (t.tokens ++ .closing :: rest) := by
        simp [tokens]
      rw [all, run_cons opens, ih grouped (standsOn_empty t none none),
        run_cons (step_closing rfl rfl t rfl)]
      rfl
  | call function argument ih =>
      have opens : step { level, outer } (.opening (some function)) =
          some { level := { function := some function }, outer := level :: outer } := rfl
      have all : (call function argument).tokens ++ rest =
          .opening (some function) :: (argument.tokens ++ .closing :: rest) := by simp [tokens]
      rw [all, run_cons opens, ih grouped (standsOn_empty argument (some function) none),
        run_cons (step_closing rfl rfl argument rfl)]
      rfl
  | pair function first separator second ihFirst ihSecond =>
      obtain ⟨groupedFirst, groupedSecond⟩ := Bool.and_eq_true_iff.1 grouped
      have opens : step { level, outer } (.opening (some function)) =
          some { level := { function := some function }, outer := level :: outer } := rfl
      have all : (pair function first separator second).tokens ++ rest =
          .opening (some function) :: (first.tokens ++ .separator separator ::
            (second.tokens ++ .closing :: rest)) := by simp [tokens]
      rw [all, run_cons opens, ihFirst groupedFirst (standsOn_empty first (some function) none),
        run_cons (step_separator function first separator),
        ihSecond groupedSecond (standsOn_empty second (some function) (some (first, separator))),
        run_cons (step_closing rfl rfl second rfl)]
      rfl

end

/-- The text of a term is read as the term, when it is spelled and grouped. -/
theorem readTerm?_text {d : Dialect} {t : Term} (spelled : t.isSpelled = true)
    (grouped : t.isGrouped = true) : readTerm? d (t.text d) = some t := by
  have cut : lex d .gap (t.text d) = some t.tokens := by
    simpa [lex, Lexeme.finish] using t.lex_text spelled isDelimited_nil
  have read : Parse.run {} t.tokens = some (t.readOn {} []) := by
    simpa [Parse.run] using t.run_tokens grouped (t.standsOn_empty none none) [] []
  obtain ⟨last, waiting, whole, same⟩ := @Term.exists_readOn {} t [] rfl rfl
  rw [readTerm?, cut]
  show (Parse.run {} t.tokens).bind Parse.term? = some t
  rw [read, Option.bind_some, whole]
  exact congrArg some same

example : readTerm? .sqlite "1 - 2 - 3 * 4 % 5".toList =
    some (.operation .minus (.operation .minus (.number 1) (.number 2))
      (.operation .modulo (.operation .times (.number 3) (.number 4)) (.number 5))) := by
  decide +kernel

end Backoffice.Sql
