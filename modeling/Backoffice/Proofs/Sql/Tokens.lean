import Backoffice.Proofs.Text.Numeral
import Backoffice.Sql.Statement

/-!
# Terms and their tokens

A term is an expression that computes something of a row.  A database cuts its text into tokens
(`lex`), character by character, and it cuts the text of a term where the term was joined
(`Term.lex_text`).

That needs the names in a term spelled as names: a word has letters only, and `AS` and `FROM`
are none, since they separate arguments.
-/

namespace Backoffice.Sql

open Text (digits digitsValue isDigit)

/-! ## Terms -/

/-- An operator between two numbers. -/
inductive Sign where
  | plus
  | minus
  | times
  | divide
  | modulo
deriving DecidableEq, Repr

namespace Sign

/-- The character of an operator. -/
def char : Sign → Char
  | plus => '+'
  | minus => '-'
  | times => '*'
  | divide => '/'
  | modulo => '%'

/-- The operator of a character. -/
def ofChar? (c : Char) : Option Sign := [plus, minus, times, divide, modulo].find? (·.char = c)

/-- Whether an operator takes only what is beside it. -/
def isTight : Sign → Bool
  | plus | minus => false
  | times | divide | modulo => true

end Sign

/-- What stands between two arguments of a call. -/
inductive Separator where
  | comma
  | typed
  | taken
deriving DecidableEq, Repr

/-- A written separator. -/
def Separator.text : Separator → List Char
  | comma => [',', ' ']
  | typed => " AS ".toList
  | taken => " FROM ".toList

/-- An expression that computes something of a row. -/
inductive Term where
  | number (n : Nat)
  | column (ref : ColumnRef)
  | string (text : String)
  /-- A word of SQL, such as a type. -/
  | word (text : String)
  | operation (sign : Sign) (left right : Term)
  /-- A term in parentheses. -/
  | group (term : Term)
  | call (function : String) (argument : Term)
  /-- A call with two arguments. -/
  | pair (function : String) (first : Term) (separator : Separator) (second : Term)
deriving DecidableEq, Repr

/-- A written term. -/
def Term.text (d : Dialect) : Term → List Char
  | number n => digits n
  | column ref => ref.text d
  | string text => doubled '\'' text.toList
  | word text => text.toList
  | operation sign left right => left.text d ++ ' ' :: sign.char :: ' ' :: right.text d
  | group term => '(' :: term.text d ++ [')']
  | call function argument => function.toList ++ '(' :: argument.text d ++ [')']
  | pair function first separator second =>
      function.toList ++ '(' :: first.text d ++ separator.text ++ second.text d ++ [')']

/-! ## Tokens -/

/-- A part of a text that is read as a whole. -/
inductive Token where
  | number (n : Nat)
  | column (ref : ColumnRef)
  | string (text : String)
  | word (text : String)
  /-- A parenthesis, with the word before it. -/
  | opening (function : Option String)
  | closing
  | sign (sign : Sign)
  | separator (separator : Separator)
deriving DecidableEq, Repr

/-- The tokens of a term. -/
def Term.tokens : Term → List Token
  | number n => [.number n]
  | column ref => [.column ref]
  | string text => [.string text]
  | word text => [.word text]
  | operation sign left right => left.tokens ++ .sign sign :: right.tokens
  | group term => .opening none :: term.tokens ++ [.closing]
  | call function argument => .opening (some function) :: argument.tokens ++ [.closing]
  | pair function first separator second =>
      .opening (some function) :: first.tokens ++ .separator separator :: second.tokens ++
        [.closing]

/-- Whether a character stands in words. -/
def isLetter (c : Char) : Bool := c.isAlpha || c = '_'

/-- The token of a word. -/
def Token.ofWord (cs : List Char) : Token :=
  if cs = "AS".toList then .separator .typed
  else if cs = "FROM".toList then .separator .taken
  else .word (String.ofList cs)

/-- The beginning of a token. -/
inductive Lexeme where
  | gap
  | digits (cs : List Char)
  | letters (cs : List Char)
  | inString (cs : List Char)
  /-- After an apostrophe, which ends the string or is the first of two. -/
  | afterString (cs : List Char)
  /-- In a name, which may be that of a column behind the name of its table. -/
  | inName (table : Option String) (cs : List Char)
  | afterName (table : Option String) (cs : List Char)
  /-- After the point behind the name of a table. -/
  | point (table : String)
deriving Repr

namespace Lexeme

/-- What a character begins. -/
def start (d : Dialect) (c : Char) : Option (List Token × Lexeme) :=
  if isLetter c then some ([], letters [c])
  else if isDigit c then some ([], digits [c])
  else if c = ' ' then some ([], gap)
  else if c = '(' then some ([.opening none], gap)
  else if c = ')' then some ([.closing], gap)
  else if c = ',' then some ([.separator .comma], gap)
  else if c = '\'' then some ([], inString [])
  else if c = d.identifierQuote then some ([], inName none [])
  else (Sign.ofChar? c).map fun sign => ([.sign sign], gap)

/-- What a character begins after a token that it is not part of. -/
def startAfter (d : Dialect) (token : Token) (c : Char) : Option (List Token × Lexeme) :=
  (start d c).map fun (tokens, next) => (token :: tokens, next)

/-- The tokens that a character ends, and what it begins.  A backslash in a string means
different things to different dialects, so none is read there. -/
def step (d : Dialect) : Lexeme → Char → Option (List Token × Lexeme)
  | gap, c => start d c
  | digits cs, c =>
      if isDigit c then some ([], digits (cs ++ [c])) else startAfter d (.number (digitsValue cs)) c
  | letters cs, c =>
      if isLetter c then some ([], letters (cs ++ [c]))
      else if c = '(' then some ([.opening (some (String.ofList cs))], gap)
      else startAfter d (.ofWord cs) c
  | inString cs, c =>
      if c = '\'' then some ([], afterString cs)
      else if c = '\\' then none
      else some ([], inString (cs ++ [c]))
  | afterString cs, c =>
      if c = '\'' then some ([], inString (cs ++ [c]))
      else startAfter d (.string (String.ofList cs)) c
  | inName table cs, c =>
      if c = d.identifierQuote then some ([], afterName table cs)
      else some ([], inName table (cs ++ [c]))
  | afterName none cs, c =>
      if c = d.identifierQuote then some ([], inName none (cs ++ [c]))
      else if c = '.' then some ([], point (String.ofList cs))
      else none
  | afterName (some table) cs, c =>
      if c = d.identifierQuote then some ([], inName (some table) (cs ++ [c]))
      else startAfter d (.column ⟨table, String.ofList cs⟩) c
  | point table, c => if c = d.identifierQuote then some ([], inName (some table) []) else none

/-- The token that ends with the text. -/
def finish : Lexeme → Option (List Token)
  | gap => some []
  | digits cs => some [.number (digitsValue cs)]
  | letters cs => some [.ofWord cs]
  | afterString cs => some [.string (String.ofList cs)]
  | afterName (some table) cs => some [.column ⟨table, String.ofList cs⟩]
  | _ => none

end Lexeme

/-- The tokens of a text after the beginning of one. -/
def lex (d : Dialect) : Lexeme → List Char → Option (List Token)
  | lexeme, [] => lexeme.finish
  | lexeme, c :: rest =>
      (lexeme.step d c).bind fun (tokens, next) => (lex d next rest).map (tokens ++ ·)

/-! ## Spelling -/

/-- Whether a text is a word that separates nothing. -/
def isWord (text : String) : Bool :=
  text ≠ "" && text.toList.all isLetter && text ≠ "AS" && text ≠ "FROM"

/-- Whether the words of a term are words and no string has a backslash. -/
def Term.isSpelled : Term → Bool
  | number _ | column _ => true
  | string text => text.toList.all (· ≠ '\\')
  | word text => isWord text
  | operation _ left right => left.isSpelled && right.isSpelled
  | group term => term.isSpelled
  | call function argument => isWord function && argument.isSpelled
  | pair function first _ second => isWord function && first.isSpelled && second.isSpelled

section
variable {text : String}

theorem ofWord_toList (word : isWord text = true) : Token.ofWord text.toList = .word text := by
  simp only [isWord, Bool.and_eq_true, decide_eq_true_eq] at word
  obtain ⟨⟨_, notTyped⟩, notTaken⟩ := word
  rw [Token.ofWord, if_neg (mt String.toList_inj.1 notTyped),
    if_neg (mt String.toList_inj.1 notTaken), String.ofList_toList]

/-- A word starts with a letter and has letters only. -/
theorem exists_letters (word : isWord text = true) : ∃ first rest, text.toList = first :: rest ∧
    isLetter first = true ∧ ∀ c ∈ rest, isLetter c = true := by
  simp only [isWord, Bool.and_eq_true, decide_eq_true_eq] at word
  obtain ⟨⟨⟨notEmpty, letters⟩, _⟩, _⟩ := word
  cases split : text.toList with
  | nil => exact absurd (String.toList_eq_nil_iff.1 split) notEmpty
  | cons first rest =>
      rw [split, List.all_cons, Bool.and_eq_true, List.all_eq_true] at letters
      exact ⟨first, rest, rfl, letters⟩

end

/-! ## The text of a term is cut into its tokens -/

section
variable {d : Dialect} {lexeme next : Lexeme} {tokens : List Token} {c : Char} {rest : List Char}

theorem lex_cons (step : lexeme.step d c = some (tokens, next)) :
    lex d lexeme (c :: rest) = (lex d next rest).map (tokens ++ ·) := by
  rw [lex, step, Option.bind_some]

/-- A character that ends one token. -/
theorem lex_one {token : Token} (step : lexeme.step d c = some ([token], next)) :
    lex d lexeme (c :: rest) = (lex d next rest).map (token :: ·) :=
  lex_cons step

/-- A character that ends no token. -/
theorem lex_silent (step : lexeme.step d c = some ([], next)) :
    lex d lexeme (c :: rest) = lex d next rest := by
  rw [lex_cons step]
  exact Option.map_id'

/-- Characters that each make a token longer. -/
theorem lex_flatMap {grow : List Char → Lexeme} {spell : Char → List Char} {chars : List Char}
    (each : ∀ c ∈ chars, ∀ cs rest,
      lex d (grow cs) (spell c ++ rest) = lex d (grow (cs ++ [c])) rest)
    (cs : List Char) :
    lex d (grow cs) (chars.flatMap spell ++ rest) = lex d (grow (cs ++ chars)) rest := by
  induction chars generalizing cs with
  | nil => rw [List.flatMap_nil, List.nil_append, List.append_nil]
  | cons c later ih =>
      obtain ⟨here, there⟩ := List.forall_mem_cons.1 each
      rw [List.flatMap_cons, List.append_assoc, here, ih there, List.append_assoc,
        List.singleton_append]

theorem lex_append {grow : List Char → Lexeme} {chars : List Char}
    (each : ∀ c ∈ chars, ∀ cs, (grow cs).step d c = some ([], grow (cs ++ [c])))
    (cs : List Char) : lex d (grow cs) (chars ++ rest) = lex d (grow (cs ++ chars)) rest := by
  have one : ∀ c ∈ chars, ∀ cs rest,
      lex d (grow cs) ([c] ++ rest) = lex d (grow (cs ++ [c])) rest :=
    fun c member cs _ => lex_silent (each c member cs)
  simpa only [List.flatMap_singleton'] using lex_flatMap one cs

/-! ### Ends of tokens -/

/-- What may stand behind a term. -/
def delimiters : List Char := [' ', ')', ',']

/-- Whether a text ends or goes on with a delimiter. -/
def IsDelimited (rest : List Char) : Prop := ∀ c ∈ rest.head?, c ∈ delimiters

theorem isDelimited_nil : IsDelimited [] := fun _ isHead => nomatch isHead

theorem isDelimited_cons (delimiter : c ∈ delimiters) : IsDelimited (c :: rest) := by
  rintro _ ⟨⟩
  exact delimiter

/-- A token ends before a delimiter. -/
theorem lex_pending {token : Token} (ends : lexeme.finish = some [token])
    (apart : ∀ c ∈ delimiters, lexeme.step d c = Lexeme.startAfter d token c)
    (delimited : IsDelimited rest) :
    lex d lexeme rest = (lex d .gap rest).map (token :: ·) := by
  cases rest with
  | nil =>
      rw [lex, lex, ends]
      rfl
  | cons c later =>
      rw [lex, lex, apart c (delimited c rfl), Lexeme.startAfter, Lexeme.step]
      cases Lexeme.start d c with
      | none => rfl
      | some started => simp [Function.comp_def]

/-! ### Starts of tokens -/

theorem isLetter_of_isDigit (digit : isDigit c = true) : isLetter c = false := by
  simp only [isDigit, Bool.and_eq_true, decide_eq_true_eq, Char.le_def, UInt32.le_iff_toNat_le]
    at digit
  have notUnderscore : c ≠ '_' := by
    rintro rfl
    exact absurd digit (by decide)
  have low : c.val.toNat ≤ '9'.val.toNat := digit.2
  have nine : '9'.val.toNat = 57 := rfl
  have capital : 'A'.val.toNat = 65 := rfl
  have small : 'a'.val.toNat = 97 := rfl
  have notUpper : c.isUpper = false :=
    decide_eq_false fun upper => by
      have := UInt32.le_iff_toNat_le.1 upper.1
      omega
  have notLower : c.isLower = false :=
    Bool.and_eq_false_iff.2 (.inl (decide_eq_false fun lower => by
      have := UInt32.le_iff_toNat_le.1 lower
      omega))
  have notAlpha : c.isAlpha = false := Bool.or_eq_false_iff.2 ⟨notUpper, notLower⟩
  rw [isLetter, notAlpha, Bool.false_or, decide_eq_false_iff_not]
  exact notUnderscore

theorem step_letter (letter : isLetter c = true) :
    Lexeme.gap.step d c = some ([], .letters [c]) := by
  rw [Lexeme.step, Lexeme.start, if_pos letter]

theorem step_digit (digit : isDigit c = true) : Lexeme.gap.step d c = some ([], .digits [c]) := by
  rw [Lexeme.step, Lexeme.start, isLetter_of_isDigit digit, if_neg Bool.false_ne_true, if_pos digit]

theorem step_quote : Lexeme.gap.step d d.identifierQuote = some ([], .inName none []) := by
  cases d <;> rfl

theorem step_sign (sign : Sign) : Lexeme.gap.step d sign.char = some ([.sign sign], .gap) := by
  cases d <;> cases sign <;> rfl

/-! ### Whole tokens -/

theorem lex_number (n : Nat) (delimited : IsDelimited rest) :
    lex d .gap (digits n ++ rest) = (lex d .gap rest).map (.number n :: ·) := by
  obtain ⟨first, others, split, digit, all⟩ := Text.digits_eq_cons n
  rw [List.all_eq_true] at all
  have grows : ∀ c ∈ others, ∀ cs,
      (Lexeme.digits cs).step d c = some ([], .digits (cs ++ [c])) := by
    intro c member cs
    rw [Lexeme.step, if_pos (all c member)]
  have notDigit : ∀ c ∈ delimiters, ¬isDigit c = true := by simp [delimiters, isDigit]
  have apart : ∀ c ∈ delimiters, (Lexeme.digits (digits n)).step d c =
      Lexeme.startAfter d (.number n) c := by
    intro c member
    rw [Lexeme.step, if_neg (notDigit c member), Text.digitsValue_digits]
  rw [split, List.cons_append, lex_silent (step_digit digit), lex_append grows,
    List.singleton_append, ← split]
  exact lex_pending (by rw [Lexeme.finish, Text.digitsValue_digits]) apart delimited

theorem lex_letters {text : String} (word : isWord text = true) :
    lex d .gap (text.toList ++ rest) = lex d (.letters text.toList) rest := by
  obtain ⟨first, others, split, letter, all⟩ := exists_letters word
  have grows : ∀ c ∈ others, ∀ cs,
      (Lexeme.letters cs).step d c = some ([], .letters (cs ++ [c])) := by
    intro c member cs
    rw [Lexeme.step, if_pos (all c member)]
  rw [split, List.cons_append, lex_silent (step_letter letter), lex_append grows,
    List.singleton_append]

theorem lex_word {text : String} (word : isWord text = true) (delimited : IsDelimited rest) :
    lex d .gap (text.toList ++ rest) = (lex d .gap rest).map (.word text :: ·) := by
  have others : ∀ c ∈ delimiters, ¬isLetter c = true ∧ c ≠ '(' := by
    simp [delimiters, isLetter]
  have apart : ∀ c ∈ delimiters, (Lexeme.letters text.toList).step d c =
      Lexeme.startAfter d (.word text) c := by
    intro c member
    obtain ⟨notLetter, notOpening⟩ := others c member
    rw [Lexeme.step, if_neg notLetter, if_neg notOpening, ofWord_toList word]
  rw [lex_letters word]
  exact lex_pending (by rw [Lexeme.finish, ofWord_toList word]) apart delimited

theorem lex_function {text : String} (word : isWord text = true) :
    lex d .gap (text.toList ++ '(' :: rest) =
      (lex d .gap rest).map (.opening (some text) :: ·) := by
  have opens : (Lexeme.letters text.toList).step d '(' =
      some ([.opening (some text)], .gap) := by
    rw [Lexeme.step, if_neg (by decide), if_pos rfl, String.ofList_toList]
  rw [lex_letters word, lex_one opens]

/-- A text between quotes, where a doubled quote is one of the text. -/
theorem lex_doubled {quote : Char} {within after : List Char → Lexeme} {chars : List Char}
    (enter : lexeme.step d quote = some ([], within []))
    (inside : ∀ c ∈ chars, c ≠ quote → ∀ cs, (within cs).step d c = some ([], within (cs ++ [c])))
    (leave : ∀ cs, (within cs).step d quote = some ([], after cs))
    (back : ∀ cs, (after cs).step d quote = some ([], within (cs ++ [quote]))) :
    lex d lexeme (doubled quote chars ++ rest) = lex d (after chars) rest := by
  have each : ∀ c ∈ chars, ∀ cs rest,
      lex d (within cs) ((if c = quote then [c, c] else [c]) ++ rest) =
        lex d (within (cs ++ [c])) rest := by
    intro c member cs rest
    split
    next same =>
      subst same
      exact (lex_silent (leave cs)).trans (lex_silent (back cs))
    next other => exact lex_silent (inside c member other cs)
  rw [doubled, List.append_assoc, List.cons_append, lex_silent enter, lex_flatMap each,
    List.nil_append]
  exact lex_silent (leave chars)

theorem lex_string {text : String} (plain : text.toList.all (· ≠ '\\') = true)
    (delimited : IsDelimited rest) :
    lex d .gap (doubled '\'' text.toList ++ rest) = (lex d .gap rest).map (.string text :: ·) := by
  have inside : ∀ c ∈ text.toList, c ≠ '\'' → ∀ cs,
      (Lexeme.inString cs).step d c = some ([], .inString (cs ++ [c])) := by
    intro c member other cs
    have notBackslash : c ≠ '\\' := of_decide_eq_true (List.all_eq_true.1 plain c member)
    rw [Lexeme.step, if_neg other, if_neg notBackslash]
  have apart : ∀ c ∈ delimiters, (Lexeme.afterString text.toList).step d c =
      Lexeme.startAfter d (.string text) c := by
    have notQuote : ∀ c ∈ delimiters, c ≠ '\'' := by simp [delimiters]
    intro c member
    rw [Lexeme.step, if_neg (notQuote c member), String.ofList_toList]
  rw [@lex_doubled d .gap rest '\'' .inString .afterString text.toList rfl inside (fun _ => rfl)
    fun _ => rfl]
  exact lex_pending (by rw [Lexeme.finish, String.ofList_toList]) apart delimited

/-- A name between quotes. -/
theorem lex_identifier {table : Option String}
    (enter : lexeme.step d d.identifierQuote = some ([], .inName table [])) (name : String) :
    lex d lexeme (d.identifier name ++ rest) = lex d (.afterName table name.toList) rest := by
  refine lex_doubled enter (fun c _ other cs => ?_) (fun cs => ?_) fun cs => ?_
  · rw [Lexeme.step, if_neg other]
  · rw [Lexeme.step, if_pos rfl]
  · cases table <;> rw [Lexeme.step, if_pos rfl]

theorem lex_column (ref : ColumnRef) (delimited : IsDelimited rest) :
    lex d .gap (ref.text d ++ rest) = (lex d .gap rest).map (.column ref :: ·) := by
  have behindTable : (Lexeme.afterName none ref.table.toList).step d '.' =
      some ([], .point ref.table) := by
    have notQuote : '.' ≠ d.identifierQuote := by cases d <;> decide
    rw [Lexeme.step, if_neg notQuote, if_pos rfl, String.ofList_toList]
  have enter : (Lexeme.point ref.table).step d d.identifierQuote =
      some ([], .inName (some ref.table) []) := by
    rw [Lexeme.step, if_pos rfl]
  have apart : ∀ c ∈ delimiters, (Lexeme.afterName (some ref.table) ref.column.toList).step d c =
      Lexeme.startAfter d (.column ref) c := by
    have notQuote : ∀ c ∈ delimiters, c ≠ d.identifierQuote := by
      cases d <;> simp [delimiters, Dialect.identifierQuote]
    intro c member
    rw [Lexeme.step, if_neg (notQuote c member), String.ofList_toList]
  rw [ColumnRef.text, List.append_assoc, lex_identifier step_quote, List.cons_append,
    lex_silent behindTable, lex_identifier enter]
  exact lex_pending (by rw [Lexeme.finish, String.ofList_toList]) apart delimited

theorem lex_separator (separator : Separator) :
    lex d .gap (separator.text ++ rest) = (lex d .gap rest).map (.separator separator :: ·) := by
  cases separator with
  | comma =>
      have space : lex d .gap (' ' :: rest) = lex d .gap rest := lex_silent rfl
      show lex d .gap (',' :: ' ' :: rest) = _
      rw [lex_one rfl, space]
  | typed =>
      show lex d .gap (' ' :: 'A' :: 'S' :: ' ' :: rest) = _
      rw [lex_silent rfl, lex_silent rfl, lex_silent rfl]
      exact lex_one rfl
  | taken =>
      show lex d .gap (' ' :: 'F' :: 'R' :: 'O' :: 'M' :: ' ' :: rest) = _
      rw [lex_silent rfl, lex_silent rfl, lex_silent rfl, lex_silent rfl, lex_silent rfl]
      exact lex_one rfl

end

theorem isDelimited_separator (separator : Separator) (rest : List Char) :
    IsDelimited (separator.text ++ rest) := by
  cases separator <;> exact isDelimited_cons (by decide)

/-- The text of a term is cut where it was joined. -/
theorem Term.lex_text {d : Dialect} {t : Term} (spelled : t.isSpelled = true) {rest : List Char}
    (delimited : IsDelimited rest) :
    lex d .gap (t.text d ++ rest) = (lex d .gap rest).map (t.tokens ++ ·) := by
  have behindGroup : ∀ rest : List Char, IsDelimited (')' :: rest) :=
    fun _ => isDelimited_cons (by decide)
  have closing : ∀ rest, lex d .gap (')' :: rest) = (lex d .gap rest).map (.closing :: ·) :=
    fun _ => lex_one rfl
  induction t generalizing rest with
  | number n => exact lex_number n delimited
  | column ref => exact lex_column ref delimited
  | string text => exact lex_string spelled delimited
  | word text => exact lex_word spelled delimited
  | operation sign left right ihLeft ihRight =>
      obtain ⟨spelledLeft, spelledRight⟩ := Bool.and_eq_true_iff.1 spelled
      have space : ∀ rest, lex d .gap (' ' :: rest) = lex d .gap rest := fun _ => lex_silent rfl
      have joined : (operation sign left right).text d ++ rest =
          left.text d ++ ' ' :: sign.char :: ' ' :: (right.text d ++ rest) := by simp [text]
      rw [joined, ihLeft spelledLeft (isDelimited_cons (by decide)), space,
        lex_one (step_sign sign), space, ihRight spelledRight delimited]
      simp [tokens, Function.comp_def]
  | group t ih =>
      have opening : ∀ rest, lex d .gap ('(' :: rest) =
          (lex d .gap rest).map (.opening none :: ·) := fun _ => lex_one rfl
      have joined : (group t).text d ++ rest = '(' :: (t.text d ++ ')' :: rest) := by simp [text]
      rw [joined, opening, ih spelled (behindGroup rest), closing]
      simp [tokens, Function.comp_def]
  | call function argument ih =>
      obtain ⟨word, spelledArgument⟩ := Bool.and_eq_true_iff.1 spelled
      have joined : (call function argument).text d ++ rest =
          function.toList ++ '(' :: (argument.text d ++ ')' :: rest) := by simp [text]
      rw [joined, lex_function word, ih spelledArgument (behindGroup rest), closing]
      simp [tokens, Function.comp_def]
  | pair function first separator second ihFirst ihSecond =>
      obtain ⟨both, spelledSecond⟩ := Bool.and_eq_true_iff.1 spelled
      obtain ⟨word, spelledFirst⟩ := Bool.and_eq_true_iff.1 both
      have joined : (pair function first separator second).text d ++ rest = function.toList ++
          '(' :: (first.text d ++ (separator.text ++ (second.text d ++ ')' :: rest))) := by
        simp [text]
      rw [joined, lex_function word, ihFirst spelledFirst (isDelimited_separator separator _),
        lex_separator, ihSecond spelledSecond (behindGroup rest), closing]
      simp [tokens, Function.comp_def]

end Backoffice.Sql
