import EntityStore.Proofs.Migration.Account
import EntityStore.Proofs.Record

/-!
# Reading and writing a history

What the steps of a history do to a database of which there is an account, whether or not one of the
statements fails.
-/

namespace EntityStore

variable {σ γ α : Type}

/-! ## Making a history -/

theorem History.columns_make {c : Connection σ} {name : String} {h : History σ}
    (made : History.make c name = .ok h) : h.table.columns = historyColumns := by
  obtain ⟨_, _, made⟩ := Except.bind_eq_ok.1 made
  cases made
  rfl

/-- Any identifier can be the name of a history. -/
theorem History.make_of_isValid (c : Connection σ) {name : String}
    (valid : Identifier.isValid name false = true) :
    History.make c name = .ok ⟨c, { name := name, columns := historyColumns }⟩ := by
  have checked : checkIdentifier .table name = .ok () := by simp [checkIdentifier, valid]
  unfold History.make
  rw [checked]
  rfl

theorem History.make_migrations (c : Connection σ) : History.make c "migrations" =
    .ok ⟨c, { name := "migrations", columns := historyColumns }⟩ :=
  make_of_isValid c (by decide)

/-! ## Rows read back -/

theorem ExecutedMigration.timestamp_ofRow {row : Record} {timestamp : Int} {m : ExecutedMigration}
    (hrow : row.get? "timestamp" = some (.int timestamp))
    (h : ofRow (row.ofStorage historyColumns) = .ok m) : m.timestamp = timestamp := by
  have read : (row.ofStorage historyColumns).takeAs Int "timestamp" =
      (.ok timestamp, (row.ofStorage historyColumns).erase "timestamp") := by
    have stored : (row.ofStorage historyColumns).get? "timestamp" = some (.int timestamp) := by
      rw [Record.get?_ofStorage, hrow]
      rfl
    exact Record.takeAs_ok stored rfl
  unfold ofRow at h
  rw [read] at h
  obtain ⟨_, timestamp', h⟩ := Except.bind_eq_ok.1 h
  cases timestamp'
  obtain ⟨_, _, h⟩ := Except.bind_eq_ok.1 h
  obtain ⟨_, _, h⟩ := Except.bind_eq_ok.1 h
  obtain ⟨_, _, h⟩ := Except.bind_eq_ok.1 h
  cases h
  rfl

/-- Rows with given `timestamps` are read as migrations with these timestamps, if they can be
read. -/
theorem History.timestamps_ofRow {rows : List Record} {timestamps : List Int}
    (hrows : rows.map (fun row => row.get? "timestamp") =
      timestamps.map fun timestamp => some (.int timestamp)) (db : σ) :
    ∃ result, (rows.mapM fun row => (ExecutedMigration.ofRow (row.ofStorage historyColumns) :
        DatabaseM σ ExecutedMigration)) db = (result, db) ∧
      ∀ executed, result = .ok executed → executed.map ExecutedMigration.timestamp = timestamps := by
  induction rows generalizing timestamps with
  | nil =>
    cases timestamps with
    | nil =>
      refine ⟨.ok [], rfl, ?_⟩
      rintro executed ⟨⟩
      rfl
    | cons timestamp timestamps => cases hrows
  | cons row rows ih =>
    cases timestamps with
    | nil => cases hrows
    | cons timestamp timestamps =>
      obtain ⟨hrow, hrows⟩ := List.cons.inj hrows
      rw [List.mapM_cons]
      cases decoded : ExecutedMigration.ofRow (row.ofStorage historyColumns) with
      | error e =>
        refine ⟨.error e, bind_error (DatabaseM.lift_apply (.error e) db), ?_⟩
        rintro executed ⟨⟩
      | ok m =>
        obtain ⟨result, hrest, htimestamps⟩ := ih hrows
        have first := DatabaseM.lift_apply (.ok m) db
        cases result with
        | error e =>
          refine ⟨.error e, (bind_ok first).trans (bind_error hrest), ?_⟩
          rintro executed ⟨⟩
        | ok ms =>
          refine ⟨.ok (m :: ms), (bind_ok first).trans (bind_ok hrest), ?_⟩
          rintro executed ⟨⟩
          rw [List.map_cons, htimestamps ms rfl, ExecutedMigration.timestamp_ofRow hrow decoded]

/-! ## The steps of a history -/

namespace History

variable (h : History σ)

theorem delete_apply (timestamp : Int) (db : σ) : h.delete timestamp db =
    ((h.connection.driver.run (h.deleteStatement timestamp) db).1.map fun _ => (),
      (h.connection.driver.run (h.deleteStatement timestamp) db).2) :=
  bind_pure_map db

/-- The statement by which `History.insert` lists a migration in the session `s`. -/
def insertNow (timestamp : Int) (name : String) (executionTime : Int) (s : Session σ) : Statement :=
  h.insertStatement timestamp name (s.outside.clock s.uses) executionTime

theorem insert_apply (timestamp : Int) (name : String) (executionTime : Int) (s : Session σ) :
    h.insert timestamp name executionTime s =
      ((h.connection.driver.run (h.insertNow timestamp name executionTime s) s.database).1.map
          fun _ => (),
        { s with
          uses := s.uses + 1
          database :=
            (h.connection.driver.run (h.insertNow timestamp name executionTime s) s.database).2 }) := by
  have now : (SessionM.now : SessionM σ _) s =
      (.ok (s.outside.clock s.uses), { s with uses := s.uses + 1 }) := rfl
  unfold insert
  rw [bind_ok now]
  exact bind_pure_map _

variable {h}

/-! ## Entries -/

/-- An entry begins as `INSERT` or `DELETE` does. -/
theorem IsEntry.take_two {st : Statement} (entry : h.IsEntry st) :
    st.sql.toList.take 2 = ['I', 'N'] ∨ st.sql.toList.take 2 = ['D', 'E'] := by
  cases entry with
  | insert timestamp name now executionTime =>
    obtain ⟨text, _, eq⟩ := h.exists_insertStatement_eq timestamp name now executionTime
    left
    simp [eq]
  | delete timestamp =>
    obtain ⟨text, eq⟩ := h.exists_deleteStatement_eq timestamp
    right
    simp [eq]

theorem not_isEntry_of_take_two {st : Statement} {first second : Char}
    (begins : st.sql.toList.take 2 = [first, second])
    (other : [first, second] ≠ ['I', 'N'] ∧ [first, second] ≠ ['D', 'E']) : ¬ h.IsEntry st := by
  intro entry
  rcases entry.take_two with same | same
  · exact other.1 (begins.symm.trans same)
  · exact other.2 (begins.symm.trans same)

theorem not_isEntry_createStatement : ¬ h.IsEntry h.createStatement := by
  obtain ⟨text, eq⟩ := h.exists_createStatement_eq
  have begins : h.createStatement.sql.toList.take 2 = ['C', 'R'] := by simp [eq, Statement.plain]
  exact not_isEntry_of_take_two begins (by decide)

theorem not_isEntry_selectStatement : ¬ h.IsEntry h.selectStatement := by
  obtain ⟨text, eq⟩ := h.exists_selectStatement_eq
  have begins : h.selectStatement.sql.toList.take 2 = ['S', 'E'] := by simp [eq, Statement.plain]
  exact not_isEntry_of_take_two begins (by decide)

variable (h)

def Spares (statements : List Statement) : Prop := ∀ st ∈ statements, ¬ h.IsEntry st

variable {h}

theorem spares_nil : h.Spares [] := by
  rintro st ⟨⟩

theorem spares_append {first second : List Statement} :
    h.Spares (first ++ second) ↔ h.Spares first ∧ h.Spares second :=
  List.forall_mem_append

theorem not_spares_append_of_left {first : List Statement} (failed : ¬ h.Spares first)
    (second : List Statement) : ¬ h.Spares (first ++ second) := by
  rw [spares_append]
  exact fun both => failed both.1

theorem not_spares_append_of_right (first : List Statement) {second : List Statement}
    (failed : ¬ h.Spares second) : ¬ h.Spares (first ++ second) := by
  rw [spares_append]
  exact fun both => failed both.2

end History

/-! ## What the steps do -/

namespace Account

variable {a : Account σ γ} {h : History σ} {db db' : σ}

theorem spares_failures {st : Statement} (other : ¬ h.IsEntry st) (result : Except Error α) :
    h.Spares (failures st result) := by
  intro s hs
  cases result with
  | ok r => cases hs
  | error e =>
    obtain rfl := List.mem_singleton.1 hs
    exact other

/-- From `db` to `db'` some statements failed, none of which is an entry of `h`. -/
def Fails (a : Account σ γ) (h : History σ) (db db' : σ) : Prop :=
  ∃ failures, a.failed db' = a.failed db ++ failures ∧ h.Spares failures

theorem Fails.refl (a : Account σ γ) (h : History σ) (db : σ) : a.Fails h db db :=
  ⟨[], by simp, History.spares_nil⟩

theorem Fails.trans {db db' db'' : σ} (hfirst : a.Fails h db db') (hsecond : a.Fails h db' db'') :
    a.Fails h db db'' := by
  obtain ⟨first, hfailed, spares⟩ := hfirst
  obtain ⟨second, hfailed', spares'⟩ := hsecond
  refine ⟨first ++ second, ?_, History.spares_append.2 ⟨spares, spares'⟩⟩
  rw [hfailed', hfailed, List.append_assoc]

/-- The history was written to where no transaction is open, or that failed. -/
def Enters (a : Account σ γ) (h : History σ) (f : Books → Books) (db db' : σ)
    (result : Except Error Unit) : Prop :=
  a.Idle db' ∧ ∃ failures,
    (result = .ok () ∧ h.Spares failures ∧ a.Reaches db db' failures (f (a.durable db))) ∨
    (∃ e, result = .error e ∧ ¬ h.Spares failures ∧ a.Reaches db db' failures (a.durable db))

theorem Takes.enters {f : Books → Books} {st : Statement} {result : Except Error α}
    (taken : a.Takes st db (result, db')) (entry : h.IsEntry st)
    (changes : ∀ contents, a.books (a.effect st contents) = f (a.books contents))
    (idle : a.Idle db) : a.Enters h f db db' (result.map fun _ => ()) := by
  obtain ⟨idle', reaches⟩ := taken.change entry.isData changes idle
  refine ⟨idle', failures st result, ?_⟩
  cases result with
  | ok r => exact .inl ⟨rfl, History.spares_nil, reaches⟩
  | error e =>
    refine .inr ⟨e, rfl, ?_, reaches⟩
    intro spares
    exact spares st (List.mem_singleton.2 rfl) entry

namespace Keeps

variable (keeps : a.Keeps h)

include keeps

theorem enters_delete (timestamp : Int) (idle : a.Idle db) :
    ∃ result db', h.delete timestamp db = (result, db') ∧
      a.Enters h (fun b => b.unlist timestamp) db db' result := by
  refine ⟨_, _, h.delete_apply timestamp db, ?_⟩
  apply Takes.enters (keeps.run (h.deleteStatement timestamp) db) (.delete timestamp) _ idle
  intro contents
  exact keeps.delete contents timestamp

theorem enters_insert (timestamp : Int) (name : String) (executionTime : Int) {s : Session σ}
    (idle : a.Idle s.database) :
    ∃ result s', h.insert timestamp name executionTime s = (result, s') ∧
      a.Enters h (fun b => b.list timestamp) s.database s'.database result := by
  refine ⟨_, _, h.insert_apply timestamp name executionTime s, ?_⟩
  apply Takes.enters (keeps.run (h.insertNow timestamp name executionTime s) s.database)
    (.insert timestamp name (s.outside.clock s.uses) executionTime) _ idle
  intro contents
  exact keeps.insert contents timestamp name (s.outside.clock s.uses) executionTime

theorem ensure (settled : a.Settled db) :
    ∃ result db' failures, h.ensure db = (result, db') ∧ h.Spares failures ∧
      a.Reaches db db' failures (a.durable db) := by
  refine ⟨_, _, _, rfl, ?_,
    (keeps.executes h.createStatement.sql db).reaches h.isData_createStatement keeps.create settled⟩
  exact spares_failures History.not_isEntry_createStatement _

/-- If the history can be read, then all that is listed is read, in the order of the timestamps. -/
theorem executed (columns : h.table.columns = historyColumns) (settled : a.Settled db) :
    ∃ result db' failures, h.executed db = (result, db') ∧ h.Spares failures ∧
      a.Reaches db db' failures (a.durable db) ∧ ∀ executed, result = .ok executed →
        (a.durable db).Lists (executed.map ExecutedMigration.timestamp) := by
  unfold History.executed
  rw [columns]
  cases answer : h.connection.driver.all h.selectStatement db with
  | mk result db' =>
    have taken := keeps.all h.selectStatement db
    rw [answer] at taken
    have reaches := taken.reaches h.isData_selectStatement keeps.select settled
    have spares := spares_failures (h := h) History.not_isEntry_selectStatement result
    cases result with
    | error e =>
      refine ⟨.error e, db', _, bind_error answer, spares, reaches, ?_⟩
      rintro executed ⟨⟩
    | ok rows =>
      obtain ⟨timestamps, lists, hrows⟩ := keeps.rows db rows db' answer
      obtain ⟨result, hread, htimestamps⟩ := History.timestamps_ofRow hrows db'
      refine ⟨result, db', _, (bind_ok answer).trans hread, spares, reaches, ?_⟩
      intro executed hexecuted
      rw [htimestamps executed hexecuted, Books.Lists, ← settled]
      exact lists

end Keeps

end Account

end EntityStore
