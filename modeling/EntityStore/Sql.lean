import EntityStore.Dialect
import EntityStore.Value

/-!
# Statements

A statement is put together from pieces: text that stands in it as it is, and values that are bound
to it. The dialect decides how the place of a bound value is marked, and the values are handed over
in the order of their places, so text and parameters cannot fall out of step.
-/

namespace EntityStore

/-- A part of a statement. -/
inductive Piece where
  | text (s : String)
  /-- The place of a value, which is handed over beside the text. -/
  | bound (v : Value)

/-- A statement, or a part of one, in pieces. -/
abbrev Sql := List Piece

/-- A statement as a driver receives it: a text, and the `params` for the placeholders in it, in
order. -/
structure Statement where
  sql : String
  params : List Value

def Statement.plain (sql : String) : Statement := ⟨sql, []⟩

namespace Sql

/-- The bound values, in order. -/
def params : Sql → List Value
  | [] => []
  | .text _ :: rest => params rest
  | .bound v :: rest => v :: params rest

/-- The text of pieces, the placeholders being numbered from `number`. -/
def textFrom (d : Dialect) (number : Nat) : Sql → String
  | [] => ""
  | .text s :: rest => s ++ textFrom d number rest
  | .bound _ :: rest => d.placeholder number ++ textFrom d (number + 1) rest

/-- The statement that is sent in the dialect `d`. -/
def statement (d : Dialect) (sql : Sql) : Statement := ⟨textFrom d 1 sql, params sql⟩

/-- Put the text `between` every two of the `parts`. -/
def joined (between : String) (parts : List Sql) : Sql := List.intercalate [.text between] parts

@[simp] theorem params_append (a b : Sql) : params (a ++ b) = params a ++ params b := by
  induction a with
  | nil => rfl
  | cons piece rest ih =>
    cases piece with
    | text s => exact ih
    | bound v => simpa [params] using ih

end Sql

/-! ## Rows -/

/-- The pieces of the statement that inserts a row with the given `fields`. -/
def insertRow (table : String) (fields : List (String × Value)) : Sql :=
  [.text ("INSERT INTO " ++ table ++ " (" ++ ", ".intercalate (fields.map Prod.fst) ++
    ") VALUES (")] ++
  Sql.joined ", " (fields.map fun field => [.bound field.2]) ++ [.text ")"]

/-- Equations of columns and values, with a text `between` every two of them. -/
def equations (between : String) (fields : List (String × Value)) : Sql :=
  Sql.joined between (fields.map fun field => [.text (field.1 ++ " = "), .bound field.2])

end EntityStore
