import Backoffice.Calendar.Instant
import Backoffice.Text.Blank
import Backoffice.Text.Numeral

/-!
# Days and instants read from text

A day is a year, a month and a day of the month joined by hyphens.  An instant is
read in the first of these forms that fits the whole text.

* The strict form: four digits of year, two of every other part, `T` or a space
  before the clock, and an offset that is `Z` or hours and minutes joined by a
  colon.
* A day, a clock and an offset of hours and minutes.
* A day and a clock in UTC, with `T` or blanks between them.
* A day alone, at midnight UTC.

The parts of the other forms may have fewer digits and blanks in front, and a
year with a sign may have more digits.  A clock may end in a point and at least
one fraction digit, of which the first nine count.

Every function here takes the text still to read and gives back what it leaves.
-/

namespace Backoffice

open Text (isBlank isDigit digitsValue trimStart)

namespace Calendar

/-! ## Parts -/

/-- A text that starts with a given character, without it. -/
def expect (c : Char) : List Char → Option (List Char)
  | [] => none
  | first :: rest => if first = c then some rest else none

/-- A number of `least` to `most` digits.  It takes as many digits as it can. -/
def readNumber (least most : Nat) (cs : List Char) : Option (Nat × List Char) :=
  let run := (cs.take most).takeWhile isDigit
  if least ≤ run.length then some (digitsValue run, cs.drop run.length) else none

/-- A number of one or two digits, after blanks. -/
def readPart (cs : List Char) : Option (Nat × List Char) := readNumber 1 2 (trimStart cs)

/-- A year after blanks: up to four digits, or a sign and any number of digits. -/
def readYear (cs : List Char) : Option (Int × List Char) :=
  match trimStart cs with
  | '-' :: rest => (readNumber 1 rest.length rest).map fun (n, rest) => (-Int.ofNat n, rest)
  | '+' :: rest => (readNumber 1 rest.length rest).map fun (n, rest) => (Int.ofNat n, rest)
  | rest => (readNumber 1 4 rest).map fun (n, rest) => (Int.ofNat n, rest)

/-- The nanoseconds of a run of fraction digits. -/
def nanosOfDigits (run : List Char) : Nat :=
  let counted := run.take 9
  digitsValue counted * Nat.pow 10 (9 - counted.length)

/-- Nothing, or a point and fraction digits. -/
def readFraction : List Char → Option (Nat × List Char)
  | '.' :: rest =>
      let run := rest.takeWhile isDigit
      if run = [] then none else some (nanosOfDigits run, rest.drop run.length)
  | cs => some (0, cs)

/-- A date that names a day. -/
def readDay (cs : List Char) : Option (Day × List Char) := do
  let (year, cs) ← readYear cs
  let cs ← expect '-' cs
  let (month, cs) ← readPart cs
  let cs ← expect '-' cs
  let (day, cs) ← readPart cs
  let day ← Day.ofDate? ⟨year, month, day⟩
  return (day, cs)

/-- A clock that shows a time of day, its parts read by the given function. -/
def readClock (part : List Char → Option (Nat × List Char)) (cs : List Char) :
    Option (Clock × List Char) := do
  let (hour, cs) ← part cs
  let cs ← expect ':' cs
  let (minute, cs) ← part cs
  let cs ← expect ':' cs
  let (second, cs) ← part cs
  let (nanos, cs) ← readFraction cs
  let clock : Clock := ⟨hour, minute, second, nanos⟩
  if clock.isValid then return (clock, cs) else none

/-! ## Offsets -/

/-- The sign of an offset: 1 for `+`, -1 for a hyphen or a minus sign. -/
def readOffsetSign : List Char → Option (Int × List Char)
  | '+' :: rest => some (1, rest)
  | '-' :: rest => some (-1, rest)
  | '\u2212' :: rest => some (-1, rest)
  | _ => none

/-- Hours and minutes east of UTC in seconds, with something between them that
`gap` reads. -/
def readOffset (gap : List Char → Option (List Char)) (cs : List Char) :
    Option (Int × List Char) := do
  let (sign, cs) ← readOffsetSign cs
  let (hours, cs) ← readNumber 2 2 cs
  let cs ← gap cs
  let (minutes, cs) ← readNumber 2 2 cs
  if minutes < 60 then return (sign * (hours * 3600 + minutes * 60), cs) else none

/-- `Z`, or hours and minutes joined by a colon. -/
def readStrictOffset : List Char → Option (Int × List Char)
  | 'Z' :: rest => some (0, rest)
  | 'z' :: rest => some (0, rest)
  | cs => readOffset (expect ':') cs

/-- Hours and minutes after blanks, with any colons and blanks between them. -/
def readLooseOffset (cs : List Char) : Option (Int × List Char) :=
  readOffset (fun cs => some (cs.dropWhile fun c => c = ':' || isBlank c)) (trimStart cs)

/-! ## Whole texts -/

/-- The answer of a reading that leaves nothing. -/
def complete {α : Type} : Option (α × List Char) → Option α
  | some (value, []) => some value
  | _ => none

/-- The instant a clock shows on a day, a number of seconds east of UTC. -/
def instantAt (day : Day) (clock : Clock) (offset : Int) : Option Instant :=
  let instant := (Instant.ofClock day clock).shifted (-offset)
  if offset.natAbs < 86400 ∧ instant.inCalendar then some instant else none

/-- The strict form. -/
def readStrictInstant (cs : List Char) : Option (Instant × List Char) := do
  let (year, cs) ← readNumber 4 4 cs
  let cs ← expect '-' cs
  let (month, cs) ← readNumber 2 2 cs
  let cs ← expect '-' cs
  let (day, cs) ← readNumber 2 2 cs
  let day ← Day.ofDate? ⟨year, month, day⟩
  let cs ← (expect 'T' cs).or ((expect 't' cs).or (expect ' ' cs))
  let (clock, cs) ← readClock (readNumber 2 2) cs
  let (offset, cs) ← readStrictOffset cs
  let instant ← instantAt day clock offset
  return (instant, cs)

/-- A day, a clock and an offset. -/
def readOffsetInstant (cs : List Char) : Option (Instant × List Char) := do
  let (day, cs) ← readDay cs
  let (clock, cs) ← readClock readPart cs
  let (offset, cs) ← readLooseOffset cs
  let instant ← instantAt day clock offset
  return (instant, cs)

/-- A day and a clock in UTC with something between them that `gap` reads. -/
def readPlainInstant (gap : List Char → Option (List Char)) (cs : List Char) :
    Option (Instant × List Char) := do
  let (day, cs) ← readDay cs
  let cs ← gap cs
  let (clock, cs) ← readClock readPart cs
  return (Instant.ofClock day clock, cs)

end Calendar

open Calendar

/-- The day of a text that is a date. -/
def Day.read? (cs : List Char) : Option Day := complete (readDay cs)

/-- The instant of a text in one of the forms. -/
def Instant.read? (cs : List Char) : Option Instant :=
  (complete (readStrictInstant cs)).or <|
  (complete (readOffsetInstant cs)).or <|
  (complete (readPlainInstant (expect 'T') cs)).or <|
  (complete (readPlainInstant some cs)).or <|
  (Day.read? cs).map fun day => Instant.ofClock day .midnight

end Backoffice
