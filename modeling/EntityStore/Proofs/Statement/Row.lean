import EntityStore.Proofs.Record
import EntityStore.Proofs.Statement.Placeholder

/-!
# The texts of rows

Values and equations between columns and values stand one after another in a statement, with a text
between them. Their placeholders are numbered from where the first of them stands, so that the text
can be told from the names of the columns alone.
-/

namespace EntityStore

open Sql

/-- The placeholders of `count` values, the first of which has the given `number`. -/
def Dialect.places (d : Dialect) (number count : Nat) : List String :=
  (List.range' number count).map d.placeholder

/-- Equations between `columns` and placeholders, the first of which has the given `number`. -/
def Dialect.equated (d : Dialect) (number : Nat) (columns : List String) : List String :=
  (columns.zipIdx number).map fun column => column.1 ++ " = " ++ d.placeholder column.2

/-- The texts of parts that stand one after another. -/
def Sql.texts (d : Dialect) (number : Nat) : List Sql → List String
  | [] => []
  | part :: rest => textFrom d number part :: texts d (number + part.params.length) rest

theorem Sql.textFrom_joined (d : Dialect) (number : Nat) (between : String) (parts : List Sql) :
    textFrom d number (joined between parts) = between.intercalate (texts d number parts) := by
  induction parts generalizing number with
  | nil => rfl
  | cons part rest ih =>
    cases rest with
    | nil => simp [joined, texts]
    | cons next rest =>
      have split : joined between (part :: next :: rest) =
          part ++ ([.text between] ++ joined between (next :: rest)) := by
        simp [joined]
      rw [split, textFrom_append, textFrom_append, ih]
      simp [texts, textFrom, params, String.append_assoc]

theorem textFrom_values (d : Dialect) (number : Nat) (fields : List (String × Value)) :
    textFrom d number (joined ", " (fields.map fun field => [.bound field.2])) =
      ", ".intercalate (d.places number fields.length) := by
  have each : texts d number (fields.map fun field => [.bound field.2]) =
      d.places number fields.length := by
    induction fields generalizing number with
    | nil => rfl
    | cons field rest ih =>
      have following : texts d (number + 1) (rest.map fun field => [.bound field.2]) =
          d.places (number + 1) rest.length := ih (number + 1)
      simp [texts, textFrom, params, following, Dialect.places, List.range'_succ]
  rw [textFrom_joined, each]

theorem textFrom_equations (d : Dialect) (number : Nat) (between : String)
    (fields : List (String × Value)) :
    textFrom d number (equations between fields) =
      between.intercalate (d.equated number (fields.map Prod.fst)) := by
  have each : texts d number (fields.map fun field => [.text (field.1 ++ " = "), .bound field.2]) =
      d.equated number (fields.map Prod.fst) := by
    induction fields generalizing number with
    | nil => rfl
    | cons field rest ih =>
      have following : texts d (number + 1)
          (rest.map fun field => [.text (field.1 ++ " = "), .bound field.2]) =
            d.equated (number + 1) (rest.map Prod.fst) := ih (number + 1)
      simp [texts, textFrom, params, following, Dialect.equated, List.zipIdx_cons]
  rw [equations, textFrom_joined, each]

/-! ## Statements -/

/-- The beginning of a statement that inserts a row with the given `columns`. -/
def Dialect.insertText (d : Dialect) (table : String) (columns : List String) : String :=
  "INSERT INTO " ++ table ++ " (" ++ ", ".intercalate columns ++ ") VALUES (" ++
    ", ".intercalate (d.places 1 columns.length) ++ ")"

/-- The text of a statement that sets `columns` of the rows that are `told` by other columns. -/
def Dialect.updateText (d : Dialect) (table : String) (columns told : List String) : String :=
  "UPDATE " ++ table ++ " SET " ++ ", ".intercalate (d.equated 1 columns) ++
    (if told.isEmpty then ""
      else " WHERE " ++ " AND ".intercalate (d.equated (columns.length + 1) told))

theorem textFrom_insertRow (d : Dialect) (table : String) (fields : List (String × Value)) :
    textFrom d 1 (insertRow table fields) = d.insertText table (fields.map Prod.fst) := by
  have places : textFrom d 1 (joined ", " (fields.map fun field => [.bound field.2])) =
      ", ".intercalate (d.places 1 (fields.map Prod.fst).length) := by
    rw [textFrom_values, List.length_map]
  unfold insertRow Dialect.insertText
  rw [textFrom_append, textFrom_append]
  simp [textFrom, params, places]

/-- The statement of an update is told by the columns that it sets and those that tell the rows. -/
theorem Table.updateStatement_eq (t : Table) (d : Dialect) (u : Update) :
    t.updateStatement d u = do
      t.checkNames u.values.names
      t.checkNames u.criteria.names
      return ⟨d.updateText t.name u.values.names u.criteria.names,
        t.storedValues u.values ++ t.storedValues u.criteria⟩ := by
  unfold updateStatement
  refine bind_congr fun _ => bind_congr fun _ => congrArg Except.ok ?_
  have counted (row : Record) : (t.storedValues row).length = row.names.length := by
    simp [storedValues, Record.names]
  have values := params_equations ", " (t.storedFields u.values)
  rw [map_snd_storedFields] at values
  rw [Record.isEmpty_eq, Sql.statement, textFrom_append, textFrom_append, textFrom_equations]
  cases told : u.criteria.names.isEmpty with
  | true =>
    have none : t.storedValues u.criteria = [] := by
      rw [← List.length_eq_zero_iff, counted, List.isEmpty_iff.1 told, List.length_nil]
    simp [told, none, textFrom, Dialect.updateText, map_fst_storedFields, Sql.params, values]
  | false =>
    simp [told, textFrom, Dialect.updateText, map_fst_storedFields, Sql.params, values,
      params_equations, map_snd_storedFields, textFrom_equations, counted, Nat.add_comm]

end EntityStore
