import Backoffice.Error
import Backoffice.Listing.Settings

/-!
# Pages

A `Window` is a run of records: how many stand before it and how many it holds at
most.  The window of a page has the size asked for, cut down to the greatest one
allowed, and stands behind as many windows of that size as there are pages before
it.  Page numbers and sizes of zero are refused, and so is a page with 2^64
records or more before it.

The header `Content-Range` tells a client which records of how many a page holds.
The end of a window is counted in 64 bits.  A header whose text may not stand in one is
left out.
-/

namespace Backoffice

open Text (word64 showNat)

/-- The page a request asks for. -/
structure PageParams where
  /-- The number of the page, from 1. -/
  number : Option Nat := none
  /-- The number of records of a page. -/
  size : Option Nat := none
deriving DecidableEq, Repr

/-- A run of records. -/
structure Window where
  /-- How many records stand before it. -/
  offset : Nat
  /-- How many records it holds at most. -/
  limit : Nat
deriving DecidableEq, Repr

/-- The size asked for, cut down to the greatest one allowed. -/
def Settings.pageSize (s : Settings) (size : Nat) : Nat :=
  match s.maxPageSize with
  | some most => min size most
  | none => size

/-- The window of a page. -/
def PageParams.window (p : PageParams) (s : Settings) : Except Error Window :=
  let number := p.number.getD 1
  let size := p.size.getD s.defaultPageSize
  let limit := s.pageSize size
  if number = 0 ∨ size = 0 then .error (.request (.zeroPage number size))
  else if word64 ≤ (number - 1) * limit then .error (.request (.pageOutOfRange number))
  else .ok ⟨(number - 1) * limit, limit⟩

namespace Window

/-- A name without the characters that have no place in a header. -/
def headerName (name : String) : String :=
  String.ofList (name.toList.filter fun c => 0x20 ≤ c.toNat && c.toNat < 0x7F)

/-- The position of the last record of a window of `total` records. -/
def last (w : Window) (total : Nat) : Nat :=
  min ((w.offset + w.limit) % word64 - 1) (total - 1)

/-- The header `Content-Range` of a window of `total` records of a collection. -/
def contentRange (w : Window) (total : Nat) (collection : String) : String :=
  headerName collection ++ " " ++ showNat w.offset ++ "-" ++ showNat (w.last total) ++ "/" ++
    showNat total

/-- Whether a text may stand in a header: printable ASCII and tabs. -/
def isHeaderText (text : String) : Bool :=
  text.toList.all fun c => 0x20 ≤ c.toNat && c.toNat < 0x7F || c = '\t'

/-- The headers of a window of `total` records of a collection, where `accepts` tells which
texts may stand in a header. -/
def headers (accepts : String → Bool) (w : Window) (total : Nat) (collection : String) :
    List (String × String) :=
  let range := w.contentRange total collection
  if accepts range then [("Content-Range", range)] else []

end Window

end Backoffice
