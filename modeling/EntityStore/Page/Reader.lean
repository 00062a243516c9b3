import EntityStore.Json.Reader
import EntityStore.Page

/-!
# Reading page requests

A page request is read from JSON text: an object with the members `page` and `size`, or an array of
the two. Absent parts take their usual values, and members of other names are not looked at.
-/

namespace EntityStore.Pageable

/-- The count that a JSON value states. -/
def countOfJson? : Json → Option Nat
  | .int i => if 0 ≤ i then some i.toNat else none
  | _ => none

/-- The count that the member `name` states, which must not be given twice. The outer `none` is an
error. -/
def member? (name : String) (members : List (String × Json)) : Option (Option Nat) :=
  match members.filter (·.1 == name) with
  | [] => some none
  | [(_, value)] => (countOfJson? value).map some
  | _ => none

def ofJson? : Json → Option Pageable
  | .object members => do
    let page ← member? "page" members
    let size ← member? "size" members
    return ⟨page.getD 1, size.getD 20⟩
  | .array [] => some ⟨1, 20⟩
  | .array [page] => do return ⟨← countOfJson? page, 20⟩
  | .array [page, size] => do return ⟨← countOfJson? page, ← countOfJson? size⟩
  | _ => none

/-- The page that `text` asks for, of which no more is read than `Care.outline` says. -/
def read? (text : String) : Option Pageable := do
  ofJson? (← Json.readAsWritten? .outline text.toList)

end EntityStore.Pageable
