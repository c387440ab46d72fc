/-!
# Settings

What a host chooses for all requests: the size of a page when a request gives
none, the greatest size of a page, how long the storage may take, and whether
wildcards tell upper from lower case.
-/

namespace Backoffice

/-- What a host chooses for all requests. -/
structure Settings where
  /-- The size of a page when a request gives none. -/
  defaultPageSize : Nat := 10
  /-- The greatest size of a page. -/
  maxPageSize : Option Nat := none
  /-- How long a statement may take, in milliseconds. -/
  requestTimeout : Option Nat := none
  /-- Whether `*x*`, `x*` and `*x` tell upper from lower case. -/
  caseSensitive : Bool := false
deriving DecidableEq, Repr

namespace Settings

/-- With another size of a page when a request gives none. -/
def withDefaultPageSize (s : Settings) (size : Nat) : Settings := { s with defaultPageSize := size }

/-- With a greatest size of a page. -/
def withMaxPageSize (s : Settings) (size : Nat) : Settings := { s with maxPageSize := some size }

/-- With a limit in milliseconds on how long a statement may take. -/
def withRequestTimeout (s : Settings) (millis : Nat) : Settings :=
  { s with requestTimeout := some millis }

/-- With wildcards that tell upper from lower case, or not. -/
def withCaseSensitive (s : Settings) (enabled : Bool) : Settings :=
  { s with caseSensitive := enabled }

end Settings

end Backoffice
