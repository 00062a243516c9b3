import EntityStore.Record
import EntityStore.Text.Numeral

/-!
# Pages

A result is handed out in pages: by number, or from one ordering value to the next. Page numbers and
sizes are counts of 64 bits, and a row number beyond them is cut down to the greatest count.
-/

namespace EntityStore

/-- Move `n` into the range of unsigned integers of 64 bits. -/
def clampCount (n : Nat) : Nat := min n Text.count64Max

/-- Which page is wanted: the page with the number `page`, counted from 1, if there are `size` rows
on a page. -/
structure Pageable where
  page : Nat := 1
  size : Nat := 20
  deriving DecidableEq, Repr

namespace Pageable

/-- Page number and size raised to 1. -/
def clamped (p : Pageable) : Pageable := ⟨max p.page 1, max p.size 1⟩

def make (page size : Nat) : Pageable := clamped ⟨page, size⟩

/-- How many rows come before the page. -/
def offset (p : Pageable) : Nat := clampCount ((p.clamped.page - 1) * p.clamped.size)

end Pageable

/-- A page of a result that has `total` members on `totalPages` pages, at least one. -/
structure Page (α : Type) where
  data : List α
  total : Nat
  page : Nat
  size : Nat
  totalPages : Nat
  hasNext : Bool
  hasPrevious : Bool

/-- The page that was `asked` for, with the given `data`, of a result of `total` members. -/
def Page.make {α : Type} (data : List α) (asked : Pageable) (total : Nat) : Page α :=
  let asked := asked.clamped
  let totalPages := max ((total + asked.size - 1) / asked.size) 1
  { data := data, total := total, page := asked.page, size := asked.size, totalPages := totalPages,
    hasNext := asked.page < totalPages, hasPrevious := 1 < asked.page }

/-- Which page of `size` rows is wanted of a result in the order of one column. -/
structure CursorPageable where
  size : Nat
  /-- The primary column if it is `none`. -/
  orderBy : Option String := none
  /-- The page begins after the row with this value; if it is `none`, with the first row. -/
  cursor : Option Value := none
  /-- Every field of it has to be matched. -/
  filter : Record := .empty

/-- A page of a result in the order of one column. -/
structure CursorPage (α : Type) where
  data : List α
  /-- The value after which the next page begins. -/
  nextCursor : Option Value
  hasNext : Bool

end EntityStore
