/-
This file holds pages. A page is given by how many rows it takes and how many it skips, both of
which fit into sixty-four bits. The number of pages is counted from the quotient of the total and
the page size, rounded to a double.
-/

import WorkQuery.Schema.Scalar

namespace WorkQuery

open Json Number Schema

/-! ### Requests -/

/-- The greatest number of rows that can be taken or skipped. -/
def greatestBound : Int := 9223372036854775807

/-- A request for a page of a list. -/
structure PageRequest where
  limit : Int
  offset : Int
deriving DecidableEq, Repr

namespace PageRequest

/-- The first page of the usual size. -/
def standard : PageRequest := ⟨20, 0⟩

/-- A number of rows to take: at least one. -/
def checkLimit (limit : Int) : Checked Int :=
  if limit ≤ 0 then reject .notAbove
  else if greatestBound < limit then reject .aboveGreatest
  else .ok limit

/-- A number of rows to skip. -/
def checkOffset (offset : Int) : Checked Int :=
  if offset < 0 then reject .belowLeast
  else if greatestBound < offset then reject .aboveGreatest
  else .ok offset

/-- The page of two numbers, each of which is checked. -/
def ofParts (limit offset : Checked Int) : Checked PageRequest :=
  both ((within (.field "limit") (limit >>= checkLimit)).map PageRequest.mk)
    (within (.field "offset") (offset >>= checkOffset))

/-- The page of a number, counted from one, and a page size. Smaller numbers mean the first
page. -/
def ofPage (page perPage : Int) : Checked PageRequest :=
  ofParts (.ok perPage) (.ok ((max page 1 - 1) * perPage))

/-- A page given by its parts, each of which may be left out. -/
def ofValue (value : Value) : Checked PageRequest := do
  let fields ← record value
  let part (name : String) (fallback : Int) : Checked Int :=
    match fields.get? name with
    | some value => integer value
    | none => .ok fallback
  ofParts (part "limit" standard.limit) (part "offset" standard.offset)

end PageRequest

/-! ### Results -/

/-- A page of a list, with the length of the whole list. -/
structure Page (Content : Type) where
  items : List Content
  total : Nat
  request : PageRequest

namespace PageRequest

/-- The number of the page, counted from one. -/
def page (request : PageRequest) : Int :=
  request.offset.fdiv request.limit + 1

/-- The number of pages of a list, for its length. -/
def pages (request : PageRequest) (total : Int) : Except Failure Int :=
  match (Binary64.ofRatio (decide (total < 0)) total.natAbs request.limit.natAbs).ceiling? with
  | some count => .ok count
  | none => .error .quotientTooLarge

end PageRequest

end WorkQuery
