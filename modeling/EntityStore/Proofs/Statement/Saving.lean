import EntityStore.Proofs.Statement.Batch

/-!
# Saved members

A member that is saved is inserted by one statement, and it is put together again from the row of
this statement, not read back. The row has the values of the member, without the numbers that are
left to the database and with the identifiers that were drawn. Only a key that the database has made
up is added to it, after its other fields.
-/

namespace EntityStore

/-! ## What is known of a saved member -/

/-- The key that the database has made up for the record `given`, if it reports the number `id`: the
first primary column has to be counted, and the record has to have no value for it. -/
def Table.madeUpKey? (t : Table) (given : Record) (id : Option Int) : Option (String × Value) :=
  match t.primary?, id with
  | some primary, some id =>
    if primary.isIncrement && given.lacks primary.name then some (primary.name, .int id) else none
  | _, _ => none

/-- The statement `st` inserts the fields of `row`, in order, in stored form. -/
structure Table.InsertsFields (t : Table) (d : Dialect) (row : Record) (st : Statement) : Prop where
  text : st.sql = if row.isEmpty then d.insertDefaults t.name else d.insertText t.name row.names
  params : st.params = row.fields.map fun field => toStorage (t.column? field.1) field.2

/-- The record `stored` is made of an inserted `row`, for a record that was `given` and the number
that the database has reported. -/
structure Table.Saved (t : Table) (given row : Record) (id : Option Int) (stored : Record) :
    Prop where
  /-- A key that was made up comes after the fields of the row, and nothing else is set. -/
  fields : stored.fields = row.fields ++ (t.madeUpKey? given id).toList
  /-- A value is kept, unless it is `Value.null` in a column that is made up. -/
  kept : ∀ name value, given.get? name = some value →
    stored.get? name = some value ∨
      value.isNull = true ∧ ∃ c ∈ t.columns, c.name = name ∧ c.generation ≠ none
  /-- Every identifier is there. -/
  drawn : ∀ c ∈ t.columns, c.isUuid = true → stored.lacks c.name = false

/-! ## The row -/

namespace Table

variable {t : Table} {d : Dialect}

theorem insertStatement_insertsFields (row : Record) :
    t.InsertsFields d row (t.insertStatement d row) := by
  unfold insertStatement
  cases empty : row.isEmpty with
  | true => exact ⟨by rw [empty]; rfl, by rw [List.isEmpty_iff.1 empty]; rfl⟩
  | false =>
    constructor
    · rw [empty, if_neg Bool.false_ne_true, if_neg Bool.false_ne_true, Sql.statement,
        textFrom_insertRow, map_fst_storedFields]
    · rw [if_neg Bool.false_ne_true, Sql.statement, params_insertRow, map_snd_storedFields]
      rfl

theorem madeUpKey?_eq_some {given : Record} {id : Option Int} {key : String × Value}
    (made : t.madeUpKey? given id = some key) :
    ∃ primary ∈ t.columns, primary.generation = some .increment ∧ given.lacks primary.name = true ∧
      key.1 = primary.name ∧ key.2.isNull = false := by
  unfold madeUpKey? at made
  split at made
  · rename_i primary id first
    rw [Option.ite_none_right_eq_some, Bool.and_eq_true] at made
    obtain ⟨⟨counted, missing⟩, same⟩ := made
    cases same
    exact ⟨primary, List.mem_of_find?_eq_some first, by simpa [Column.isIncrement] using counted,
      missing, rfl, rfl⟩
  · cases made

section

variable (distinct : (t.columns.map Column.name).Nodup) {drawn : Nat → String} {given : Record}

include distinct

/-- Whether a counted key is missing can be told from the row as well. -/
theorem fillKey_prepareRow (result : Option RunResult) :
    Repository.fillKey t (t.prepareRow drawn given) result =
      match t.madeUpKey? given (result.bind RunResult.lastInsertId) with
      | some key => (t.prepareRow drawn given).set key.1 key.2
      | none => t.prepareRow drawn given := by
  unfold Repository.fillKey madeUpKey?
  cases first : t.primary? with
  | none => rfl
  | some primary =>
    cases result.bind RunResult.lastInsertId with
    | none => rfl
    | some id =>
      dsimp only
      cases counted : primary.isIncrement with
      | false => simp
      | true =>
        have known : primary ∈ t.columns := List.mem_of_find?_eq_some first
        have value : (t.prepareRow drawn given).get? primary.name =
            if given.lacks primary.name then none else given.get? primary.name :=
          get?_prepareRow_increment distinct known (by simpa [Column.isIncrement] using counted)
        have missing :
            (t.prepareRow drawn given).lacks primary.name = given.lacks primary.name := by
          rw [Record.lacks, value]
          cases missing : given.lacks primary.name with
          | true => rfl
          | false => exact missing
        rw [missing]
        cases given.lacks primary.name <;> simp

theorem saved_fillKey (result : Option RunResult) :
    t.Saved given (t.prepareRow drawn given) (result.bind RunResult.lastInsertId)
      (Repository.fillKey t (t.prepareRow drawn given) result) := by
  rw [fillKey_prepareRow distinct]
  cases made : t.madeUpKey? given (result.bind RunResult.lastInsertId) with
  | none =>
    refine ⟨?_, ?_, ?_⟩
    · rw [made]
      exact (List.append_nil _).symm
    · exact fun name value => get?_prepareRow_given distinct
    · exact fun c known drawing => lacks_prepareRow_uuid distinct known
        (by simpa [Column.isUuid] using drawing)
  | some key =>
    obtain ⟨primary, known, counted, missing, named, filled⟩ := madeUpKey?_eq_some made
    have absent : key.1 ∉ (t.prepareRow drawn given).names := by
      rw [← Record.contains_iff, Record.contains, named,
        get?_prepareRow_increment distinct known counted, missing]
      exact Bool.false_ne_true
    refine ⟨?_, ?_, ?_⟩
    · rw [made]
      exact setField_new absent key.2
    · intro name value held
      rw [Record.get?_set]
      split
      · rename_i own
        have generated : primary.generation ≠ none := by
          rw [counted]
          exact Option.some_ne_none _
        rw [Record.lacks, ← named, ← own, held] at missing
        exact .inr ⟨missing, primary, known, by rw [own, named], generated⟩
      · exact get?_prepareRow_given distinct held
    · intro c declared drawing
      rw [Record.lacks_set]
      split
      · exact filled
      · exact lacks_prepareRow_uuid distinct declared (by simpa [Column.isUuid] using drawing)

end

end Table

/-! ## The operation -/

/-- One statement is received whether it fails or not. -/
theorem Driver.recorded_submit_one {σ : Type} (d : Driver σ) (st : Statement)
    (db : σ × List Statement) :
    d.recorded.submit [st] db =
      ((d.submit [st] db.1).1, ((d.submit [st] db.1).2, db.2 ++ [st])) := by
  have each : d.recorded.runEach [st] db =
      ((d.runEach [st] db.1).1, ((d.runEach [st] db.1).2, db.2 ++ [st])) := by
    have alone : ∀ {τ : Type} (d : Driver τ) (db : τ),
        d.runEach [st] db = ((d.run st db).1.map fun result => [result], (d.run st db).2) :=
      fun d db => bind_pure_map (x := d.run st) db
    rw [alone, alone]
    rfl
  unfold submit batch
  split
  · rename_i supported
    cases made : d.ownBatch with
    | none => simpa [Driver.recorded, made, show d.supportsBatch = true from supported] using each
    | some own => simp [Driver.recorded, made, show d.supportsBatch = true from supported]
  · rename_i unsupported
    rw [if_neg (show ¬ d.supportsBatch = true from unsupported)]
    exact each

namespace Table

variable {σ : Type} (t : Table) (c : Connection σ)

/-- A row whose names are all declared is inserted by its statement, after it was prepared. -/
theorem insertRows_one {given : Record} (declared : ∀ name ∈ given.names, t.Declares name)
    (s : Session σ) :
    t.insertRows c [given] s =
      ((c.driver.submit [t.insertStatement c.dialect (t.prepareRow s.drawn given)] s.database).1.map
          fun results => ([t.prepareRow s.drawn given], results),
        { s with
          database :=
            (c.driver.submit [t.insertStatement c.dialect (t.prepareRow s.drawn given)]
              s.database).2
          uses := s.uses + 1 * t.columns.length }) := by
  have alone : t.prepareRows s.drawn [given] = [t.prepareRow s.drawn given] := by
    simp [prepareRows]
  have checked : t.checkNames ([t.prepareRow s.drawn given].flatMap Record.names) = .ok () := by
    rw [← alone, checkNames_eq, undeclared?_prepareRows,
      (undeclared?_eq_none_iff _).2 (by simpa using declared)]
  have plan : t.insertStatements c.dialect (t.prepareRows s.drawn [given]) =
      .ok [t.insertStatement c.dialect (t.prepareRow s.drawn given)] := by
    rw [alone, insertStatements, checked]
    rfl
  rw [insertRows_apply t c (List.cons_ne_nil _ _), plan, alone]
  rfl

end Table

/-- A `member` whose fields are all declared is saved by one statement. Where the database takes it,
the member is put together again of what was inserted and of the key that the database reports. -/
theorem save_stored {σ α : Type} (r : Repository σ α)
    (distinct : (r.table.columns.map Column.name).Nodup) (member : α)
    (declared : ∀ name ∈ (r.entity.toRecord member).names, r.table.Declares name)
    (s : Session (σ × List Statement)) :
    ∃ (row : Record) (st : Statement) (stored : Option Int → Record),
      r.table.InsertsFields r.connection.dialect row st ∧
      (r.recorded.save member s).2.received = s.received ++ [st] ∧
      (r.recorded.save member s).1 =
        ((r.connection.driver.submit [st] s.database.1).1 >>= fun results =>
          r.entity.ofRecord (stored (results.head?.bind RunResult.lastInsertId))) ∧
      ∀ id, r.table.Saved (r.entity.toRecord member) row id (stored id) := by
  let given := r.entity.toRecord member
  let row := r.table.prepareRow s.drawn given
  let st := r.table.insertStatement r.connection.dialect row
  let answer := r.connection.driver.submit [st] s.database.1
  let after : Session (σ × List Statement) :=
    { s with
      database := (answer.2, s.database.2 ++ [st])
      uses := s.uses + 1 * r.table.columns.length }
  have inserted : r.table.insertRows r.recorded.connection [given] s =
      (answer.1.map fun results => ([row], results), after) := by
    rw [r.table.insertRows_one r.recorded.connection declared,
      show r.recorded.connection.driver = r.connection.driver.recorded from rfl,
      Driver.recorded_submit_one]
    rfl
  have saved : r.recorded.save member s =
      (answer.1 >>= fun results => r.entity.ofRecord (Repository.fillKey r.table row results.head?),
        after) := by
    cases outcome : answer.1 with
    | error e =>
      rw [outcome] at inserted
      exact bind_error inserted
    | ok results =>
      rw [outcome] at inserted
      exact bind_ok inserted
  refine ⟨row, st, fun id => Repository.fillKey r.table row (some { lastInsertId := id }),
    Table.insertStatement_insertsFields row, ?_, ?_,
    fun id => Table.saved_fillKey distinct (some { lastInsertId := id })⟩
  · rw [saved]
    rfl
  · rw [saved]
    rfl

namespace Parcels

/-- Parcels are numbered by the database and labelled before they are stored. -/
def parcels : Table where
  name := "parcels"
  columns := [.primaryGenerated "id" .increment,
    { name := "label", type := .uuid, generation := some .uuid },
    { name := "paid", type := .boolean }]

/-- A database in which six parcels are stored. -/
def driver : Driver Unit where
  all _ := return .bare []
  run _ := return { lastInsertId := some 7 }

def repository : Repository Unit Record where
  connection := ⟨driver, .sqlite⟩
  registry := ⟨[(⟨1, "Parcel"⟩, parcels)]⟩
  entity := ⟨⟨1, "Parcel"⟩, parcels, id, .ok⟩
  table := parcels
  owner := .dataSource

def opened : Session (Unit × List Statement) where
  database := ((), [])
  outside := ⟨fun _ => 0, fun _ => .epoch, fun _ => 0⟩

/-- A parcel that has neither a number nor a label yet. -/
def paid : Record := .ofList [("id", .null), ("paid", .bool true)]

theorem paid_save_stored :
    (parcels.columns.map Column.name).Nodup ∧ (∀ name ∈ paid.names, parcels.Declares name) ∧
    ∃ (row : Record) (st : Statement) (stored : Option Int → Record),
      parcels.InsertsFields .sqlite row st ∧
      (repository.recorded.save paid opened).2.received = [st] ∧
      st.sql = "INSERT INTO parcels (paid, label) VALUES (?, ?)" ∧
      (repository.recorded.save paid opened).1 = .ok (stored (some 7)) ∧
      (stored (some 7)).names = ["paid", "label", "id"] ∧
      parcels.Saved paid row (some 7) (stored (some 7)) := by
  have distinct : (parcels.columns.map Column.name).Nodup := by decide
  have declared : ∀ name ∈ paid.names, parcels.Declares name := by
    simp only [← Table.undeclared?_eq_none_iff]
    decide
  obtain ⟨row, st, stored, inserts, received, answer, saved⟩ :=
    save_stored repository distinct paid declared opened
  have sent : (repository.recorded.save paid opened).2.received.map Statement.sql =
      ["INSERT INTO parcels (paid, label) VALUES (?, ?)"] := by decide +kernel
  have names : (repository.recorded.save paid opened).1.toOption.map Record.names =
      some ["paid", "label", "id"] := by decide +kernel
  have put : (repository.recorded.save paid opened).1 = .ok (stored (some 7)) := answer
  rw [put] at names
  rw [received] at sent
  exact ⟨distinct, declared, row, st, stored, inserts, received, List.singleton_inj.1 sent, put,
    Option.some.inj names, saved (some 7)⟩

end Parcels

end EntityStore
