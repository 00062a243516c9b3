import EntityStore.Sql

/-!
# Inserting or updating

The statement that inserts a row, and updates the row that is already there with the same primary
key. Every listed column but the primary one takes the value that was to be inserted.
-/

namespace EntityStore

namespace Dialect

/-- The value that was to be inserted into a `column`. -/
def insertedValue (d : Dialect) (column : String) : String :=
  match d.family with
  | .sqlite => "excluded." ++ column
  | .postgres => "EXCLUDED." ++ column
  | .mysql => "VALUES(" ++ column ++ ")"

/-- What begins the clause for a row that is already there. -/
def conflictHead (d : Dialect) (primary : String) : String :=
  match d.family with
  | .sqlite => " ON CONFLICT(" ++ primary ++ ") DO "
  | .postgres => " ON CONFLICT (" ++ primary ++ ") DO "
  | .mysql => " ON DUPLICATE KEY "

/-- The assignments for a row that is already there; `none` if it keeps all its values. -/
def conflictUpdates? (d : Dialect) (columns : List String) (primary : String) :
    Option (List String) :=
  match columns.filter (· ≠ primary), d.family with
  | [], .mysql => some [primary ++ " = " ++ primary]
  | [], _ => none
  | others, _ => some (others.map fun column => column ++ " = " ++ d.insertedValue column)

/-- The clause for a row that is already there: it sets the `columns` to the values that were to be
inserted, all but the `primary` one. -/
def onConflict (d : Dialect) (columns : List String) (primary : String) : String :=
  match d.conflictUpdates? columns primary, d.family with
  | none, _ => d.conflictHead primary ++ "NOTHING"
  | some updates, .mysql => d.conflictHead primary ++ "UPDATE " ++ ", ".intercalate updates
  | some updates, _ => d.conflictHead primary ++ "UPDATE SET " ++ ", ".intercalate updates

end Dialect

/-- The statement that inserts a row with the given `fields`, or updates the one that is already
there. -/
def upsertRow (d : Dialect) (table : String) (fields : List (String × Value)) (primary : String) :
    Sql :=
  insertRow table fields ++ [.text (d.onConflict (fields.map Prod.fst) primary)]

/-- The text of `Dialect.upsertRow` for a row of the given `columns`, whatever their values are. -/
def Dialect.upsert (d : Dialect) (table : String) (columns : List String) (primary : String) :
    String :=
  (Sql.statement d (upsertRow d table (columns.map fun column => (column, .null)) primary)).sql

end EntityStore
