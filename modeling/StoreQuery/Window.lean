import StoreQuery.Json

/-!
# Windows and pages

A `Window` restricts the rows of a query to part of the result: skip `offset` rows, then keep at
most `limit`. A `Page` is such a part together with the window that was asked for and the number of
rows of the whole result.

* `Window.range` is the half-open range of row indices that remains, for indices that fit 64 bits.
-/

namespace StoreQuery

/-! ### Windows -/

/-- Which part of the rows is wanted. -/
structure Window where
  /-- The greatest number of rows to keep. -/
  limit : Option UInt64
  /-- The number of rows to skip. -/
  offset : Option UInt64
deriving DecidableEq

namespace Window

/-- All rows. -/
def all : Window := ⟨none, none⟩

/-- At most `n` rows. -/
def first (n : UInt64) : Window := ⟨some n, none⟩

/-- All rows but the first `n`. -/
def skipping (n : UInt64) : Window := ⟨none, some n⟩

/-- Skip `n` rows. -/
def withOffset (w : Window) (n : UInt64) : Window := { w with offset := some n }

/-- Keep at most `n` rows. -/
def withLimit (w : Window) (n : UInt64) : Window := { w with limit := some n }

/-- Some bound is set. -/
def isRestricting (w : Window) : Bool := w.limit.isSome || w.offset.isSome

/-- The greatest row index bound. -/
def unbounded : UInt64 := 0xFFFFFFFFFFFFFFFF

/-- The sum, or the greatest bound when it does not fit. -/
def saturatingAdd (a b : UInt64) : UInt64 := if unbounded - a < b then unbounded else a + b

/-- The row indices from the first bound to before the second, if the window restricts. -/
def range (w : Window) : Option (UInt64 × UInt64) :=
  if w.isRestricting then
    let start := w.offset.getD 0
    some (start, match w.limit with
      | some n => saturatingAdd start n
      | none => unbounded)
  else none

/-- The JSON form. -/
def toJson (w : Window) : Json :=
  .object [("limit", .option .word w.limit), ("offset", .option .word w.offset)]

end Window

/-! ### Pages -/

/-- Part of a result. -/
structure Page (α : Type) where
  /-- The rows of the page. -/
  results : List α
  /-- The window that was asked for. -/
  window : Window
  /-- The number of rows of the whole result. -/
  total : UInt64

namespace Page

/-- The page of an empty result. -/
def empty : Page α := ⟨[], .all, 0⟩

/-- The result has no rows. -/
def isEmpty (p : Page α) : Bool := p.total == 0

/-- The JSON form. -/
def toJson (encode : α → Json) (p : Page α) : Json :=
  .object
    [("results", .array (p.results.map encode)), ("modifiers", p.window.toJson),
     ("total", .word p.total)]

end Page

end StoreQuery
