import EntityStore.Proofs.Record
import EntityStore.Proofs.Statement.Shape
import EntityStore.Table.Row

/-!
# Values do not influence texts

The text of a statement is settled before any value is looked at: values are bound, and where rows
are inserted it only matters which generated columns lack one. So no value can bring text into a
statement, turn a failure into a statement or a statement into a failure.
-/

namespace EntityStore

/-! ## What a row lacks -/

namespace Record

theorem lacks_set (r : Record) (name : String) (value : Value) (other : String) :
    (r.set name value).lacks other = if other = name then value.isNull else r.lacks other := by
  unfold lacks
  rw [get?_set]
  split <;> rfl

theorem lacks_erase (r : Record) (name other : String) :
    (r.erase name).lacks other = if other = name then true else r.lacks other := by
  unfold lacks
  rw [get?_erase]
  split <;> rfl

end Record

/-! ## Rows -/

/-- Rows that have values for the same names in the same order, and lack the same generated ones. -/
structure Table.RowsAlike (t : Table) (row row' : Record) : Prop where
  names : row.names = row'.names
  lacking : ∀ c ∈ t.columns, c.generation ≠ none → row.lacks c.name = row'.lacks c.name

/-- Updates that set the same columns of rows told by the same columns. -/
structure Update.Alike (u u' : Update) : Prop where
  criteria : u.criteria.names = u'.criteria.names
  values : u.values.names = u'.values.names

namespace Table

variable {t : Table} {row row' : Record}

theorem RowsAlike.set (alike : t.RowsAlike row row') (name : String) {value value' : Value}
    (null : value.isNull = value'.isNull) : t.RowsAlike (row.set name value) (row'.set name value') where
  names := by rw [Record.names_set, Record.names_set, alike.names]
  lacking c hc generated := by
    rw [Record.lacks_set, Record.lacks_set, alike.lacking c hc generated, null]

theorem RowsAlike.erase (alike : t.RowsAlike row row') (name : String) :
    t.RowsAlike (row.erase name) (row'.erase name) where
  names := by rw [Record.names_erase, Record.names_erase, alike.names]
  lacking c hc generated := by
    rw [Record.lacks_erase, Record.lacks_erase, alike.lacking c hc generated]

/-- Filling in a column keeps rows alike, whatever is `drawn`. -/
theorem RowsAlike.prepare (alike : t.RowsAlike row row') {c : Column} (hc : c ∈ t.columns)
    (drawn drawn' : String) : t.RowsAlike (c.prepare drawn row) (c.prepare drawn' row') := by
  unfold Column.prepare
  cases generation : c.generation with
  | none => exact alike
  | some way =>
    have lacking := alike.lacking c hc (by rw [generation]; nofun)
    have contained : row.contains c.name = row'.contains c.name := by
      rw [Bool.eq_iff_iff, Record.contains_iff, Record.contains_iff, alike.names]
    cases way with
    | uuid =>
      simp only [← lacking]
      split
      · exact alike.set c.name rfl
      · exact alike
    | increment =>
      simp only [← lacking, ← contained]
      split
      · exact alike.erase c.name
      · exact alike

theorem RowsAlike.prepareRow (alike : t.RowsAlike row row') (drawn drawn' : Nat → String) :
    t.RowsAlike (t.prepareRow drawn row) (t.prepareRow drawn' row') := by
  unfold Table.prepareRow
  have declared : ∀ column ∈ t.columns.zipIdx, column.1 ∈ t.columns := by
    intro column hcolumn
    exact List.fst_mem_of_mem_zipIdx hcolumn
  revert declared
  generalize t.columns.zipIdx = columns
  intro declared
  induction columns generalizing row row' with
  | nil => exact alike
  | cons column rest ih =>
    have first := alike.prepare (declared column List.mem_cons_self) (drawn column.2) (drawn' column.2)
    exact ih first fun other hother => declared other (List.mem_cons_of_mem _ hother)

theorem alike_prepareRows {rows rows' : List Record} (alike : List.Forall₂ t.RowsAlike rows rows')
    (drawn drawn' : Nat → String) :
    List.Forall₂ t.RowsAlike (t.prepareRows drawn rows) (t.prepareRows drawn' rows') := by
  unfold prepareRows
  have prepared : ∀ start, List.Forall₂ t.RowsAlike
      ((rows.zipIdx start).map fun row =>
        t.prepareRow (fun k => drawn (row.2 * t.columns.length + k)) row.1)
      ((rows'.zipIdx start).map fun row =>
        t.prepareRow (fun k => drawn' (row.2 * t.columns.length + k)) row.1) := by
    induction alike with
    | nil => exact fun _ => .nil
    | cons first _ ih => exact fun start => .cons (first.prepareRow _ _) (ih (start + 1))
  exact prepared 0

/-! ## Statements that change rows -/

theorem storedFields_shape (t : Table) (row : Record) :
    (t.storedFields row).map (fun field => (field.1, Value.null)) =
      row.names.map fun name => (name, Value.null) := by
  simp [storedFields, Record.names, Function.comp_def]

end Table

theorem insertRow_shape (table : String) (fields : List (String × Value)) :
    (insertRow table fields).shape =
      insertRow table (fields.map fun field => (field.1, Value.null)) := by
  simp only [insertRow, Sql.shape_append, Sql.shape_joined, List.map_map]
  rfl

theorem equations_shape (between : String) (fields : List (String × Value)) :
    (equations between fields).shape =
      equations between (fields.map fun field => (field.1, Value.null)) := by
  simp only [equations, Sql.shape_joined, List.map_map]
  rfl

namespace Table

variable {t : Table} {row row' : Record}

theorem face_insertStatement (names : row.names = row'.names) (d : Dialect) :
    (t.insertStatement d row).face = (t.insertStatement d row').face := by
  unfold insertStatement
  rw [Record.isEmpty_eq, Record.isEmpty_eq, names]
  split
  · rfl
  · refine Sql.face_eq_of_shape ?_
    rw [insertRow_shape, insertRow_shape, storedFields_shape, storedFields_shape, names]

theorem face_insertStatements {rows rows' : List Record}
    (alike : List.Forall₂ t.RowsAlike rows rows') (d : Dialect) :
    (t.insertStatements d rows).map (List.map Statement.face) =
      (t.insertStatements d rows').map (List.map Statement.face) := by
  have checked : rows.flatMap Record.names = rows'.flatMap Record.names := by
    induction alike with
    | nil => rfl
    | cons first _ ih => rw [List.flatMap_cons, List.flatMap_cons, first.names, ih]
  have faces : (rows.map (t.insertStatement d)).map Statement.face =
      (rows'.map (t.insertStatement d)).map Statement.face := by
    clear checked
    induction alike with
    | nil => rfl
    | cons first _ ih =>
      simp only [List.map_cons, face_insertStatement first.names d, ih]
  unfold insertStatements
  rw [checked]
  exact Except.map_bind_same fun _ => congrArg Except.ok faces

theorem face_updateStatement {u u' : Update} (alike : u.Alike u') (d : Dialect) :
    (t.updateStatement d u).map Statement.face = (t.updateStatement d u').map Statement.face := by
  unfold updateStatement
  rw [alike.criteria, alike.values, Record.isEmpty_eq, Record.isEmpty_eq, alike.criteria]
  refine Except.map_bind_same fun _ => Except.map_bind_same fun _ => congrArg Except.ok ?_
  refine Sql.face_eq_of_shape ?_
  simp only [Sql.shape_append, equations_shape, storedFields_shape, alike.values]
  split
  · rfl
  · simp only [Sql.shape_text, equations_shape, storedFields_shape, alike.criteria]

theorem face_upsertStatement (names : row.names = row'.names) (d : Dialect) (primary : Column) :
    (t.upsertStatement d primary row).map Statement.face =
      (t.upsertStatement d primary row').map Statement.face := by
  have fields : ∀ r : Record, (t.storedFields r).map Prod.fst = r.names := by
    intro r
    simp [storedFields, Record.names, Function.comp_def]
  unfold upsertStatement
  rw [names]
  refine Except.map_bind_same fun _ => congrArg Except.ok (Sql.face_eq_of_shape ?_)
  unfold upsertRow
  rw [Sql.shape_append, Sql.shape_append, insertRow_shape, insertRow_shape, storedFields_shape,
    storedFields_shape, fields, fields, names]

end Table

/-! ## All statements -/

/-- Values do not influence texts. Queries that differ in the operands of their filters, updates
that differ in their values, and rows that differ in their values and lack the same generated ones
are turned into statements with the same text and equally many parameters, whatever identifiers are
drawn for the rows, or they fail with the same error. -/
theorem texts_independent (t : Table) (d : Dialect) :
    (∀ q q' : Query, q.erased = q'.erased →
      (q.selectStatement d).map Statement.face = (q'.selectStatement d).map Statement.face ∧
      ∀ expression name, (q.aggregateStatement d expression name).map Statement.face =
        (q'.aggregateStatement d expression name).map Statement.face) ∧
    (∀ updates updates', List.Forall₂ Update.Alike updates updates' →
      (t.updateStatements d updates).map (List.map Statement.face) =
        (t.updateStatements d updates').map (List.map Statement.face)) ∧
    (∀ rows rows', List.Forall₂ t.RowsAlike rows rows' → ∀ drawn drawn',
      (t.insertStatements d (t.prepareRows drawn rows)).map (List.map Statement.face) =
        (t.insertStatements d (t.prepareRows drawn' rows')).map (List.map Statement.face)) ∧
    (∀ row row', t.RowsAlike row row' → ∀ drawn drawn' primary,
      (t.upsertStatement d primary (t.prepareRow drawn row)).map Statement.face =
        (t.upsertStatement d primary (t.prepareRow drawn' row')).map Statement.face) := by
  refine ⟨?_, ?_, ?_, ?_⟩
  · intro q q' same
    exact ⟨Query.face_selectStatement same d, Query.face_aggregateStatement same d⟩
  · intro updates updates' alike
    exact Except.map_mapM_congr (alike.imp fun _ _ first => Table.face_updateStatement first d)
  · intro rows rows' alike drawn drawn'
    exact Table.face_insertStatements (Table.alike_prepareRows alike drawn drawn') d
  · intro row row' alike drawn drawn' primary
    exact Table.face_upsertStatement (alike.prepareRow drawn drawn').names d primary

/-- Notes, whose keys are drawn. -/
def notes : Table where
  name := "notes"
  columns := [.primaryGenerated "id" .uuid, { name := "body", type := .text }]

/-- The notes of a text. -/
def notesOf (body : String) : Query where
  table := notes
  filter := some (.condition (.not (.any [.equal "body" (.text body), .oneOf "id" [.null]])))

theorem notes_texts_independent :
    (notesOf "a").erased = (notesOf "' OR 1 = 1 --").erased ∧
    ((notesOf "a").selectStatement .postgres).map Statement.face =
      ((notesOf "' OR 1 = 1 --").selectStatement .postgres).map Statement.face ∧
    notes.RowsAlike (.ofList [("id", .null), ("body", .text "a")])
      (.ofList [("id", .null), ("body", .null)]) ∧
    ∀ drawn drawn' : Nat → String,
      (notes.insertStatements .postgres
          (notes.prepareRows drawn [.ofList [("id", .null), ("body", .text "a")]])).map
        (List.map Statement.face) =
      (notes.insertStatements .postgres
          (notes.prepareRows drawn' [.ofList [("id", .null), ("body", .null)]])).map
        (List.map Statement.face) := by
  have alike : notes.RowsAlike (.ofList [("id", .null), ("body", .text "a")])
      (.ofList [("id", .null), ("body", .null)]) := by
    refine ⟨by decide, ?_⟩
    intro c hc generated
    simp only [notes, List.mem_cons, List.not_mem_nil, or_false] at hc
    rcases hc with rfl | rfl
    · rfl
    · exact absurd rfl generated
  obtain ⟨queries, -, rows, -⟩ := texts_independent notes .postgres
  exact ⟨rfl, (queries _ _ rfl).1, alike, rows _ _ (.cons alike .nil)⟩

end EntityStore
