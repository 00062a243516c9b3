import EntityStore.Proofs.Ascending
import EntityStore.Proofs.Calendar.RoundTrip
import EntityStore.Proofs.Migration.History

/-!
# A history that is kept

What is asked of a database that keeps the history of an executor whose statements do not fail: it
keeps the rows that it is given, and answers them in the order of their timestamps. What was written
of a migration is then read back as it was, the time of execution to the millisecond.
-/

namespace EntityStore

open Calendar (Instant)

variable {σ γ α : Type}

/-! ## Rows and entries -/

/-- The fields of the row of a migration. -/
def History.fields (h : History σ) (timestamp : Int) (name : String) (now : Instant)
    (executionTime : Int) : List (String × Value) :=
  [("timestamp", .int timestamp), ("name", .text name),
    ("executed_at", toStorage (h.table.column? "executed_at") (.instant now)),
    ("execution_time", .int executionTime)]

theorem History.exists_insertStatement_fields (h : History σ) (timestamp : Int) (name : String)
    (now : Instant) (executionTime : Int) :
    ∃ text, h.insertStatement timestamp name now executionTime =
      ⟨"INSERT INTO " ++ text, (h.fields timestamp name now executionTime).map Prod.snd⟩ := by
  have eq : h.insertStatement timestamp name now executionTime =
      ⟨"INSERT INTO " ++ _ ++ _ ++ _ ++ _ ++ _,
        (h.fields timestamp name now executionTime).map Prod.snd⟩ := rfl
  rw [String.append_assoc, String.append_assoc, String.append_assoc, String.append_assoc] at eq
  exact ⟨_, eq⟩

/-- The time of execution is stored as a text and read back as `settled`, to the millisecond. -/
theorem executedAt_readBack {now : Instant} (first : 0 ≤ now.date.year)
    (last : now.date.year ≤ 9999) :
    ofStorage (historyColumns.find? (·.name == "executed_at"))
      (toStorage (historyColumns.find? (·.name == "executed_at")) (.instant now)) =
        .instant now.settled.toMilli := by
  have column : historyColumns.find? (·.name == "executed_at") =
      some { name := "executed_at", type := .datetime } := rfl
  have stored : toStorage (some { name := "executed_at", type := .datetime }) (.instant now) =
      .text now.text := rfl
  have read : ∀ text, ofStorage (some { name := "executed_at", type := .datetime }) (.text text) =
      ((Instant.read? text.toList).map Value.instant).getD (.text text) := fun _ => rfl
  rw [column, stored, read, Instant.text, String.toList_ofList, Instant.read?_chars now first last]
  rfl

namespace ExecutedMigration

theorem ofRow_eq {row : Record} {timestamp executionTime : Int} {name : String} {now : Instant}
    (hTimestamp : row.get? "timestamp" = some (.int timestamp))
    (hName : row.get? "name" = some (.text name))
    (hExecutedAt : row.get? "executed_at" = some (.instant now))
    (hExecutionTime : row.get? "execution_time" = some (.int executionTime)) :
    ofRow row = .ok ⟨timestamp, name, some now, executionTime⟩ := by
  have kept : ∀ (r : Record) {name other : String}, other ≠ name →
      (r.erase name).get? other = r.get? other := by
    intro r name other apart
    rw [Record.get?_erase, if_neg apart]
  have timestampRead : ofValue (α := Int) (.int timestamp) = .ok timestamp := rfl
  have nameRead : ofValue (α := String) (.text name) = .ok name := rfl
  have executedAtRead : ofValue (α := Option Instant) (.instant now) = .ok (some now) := rfl
  have executionTimeRead : ofValue (α := Option Int) (.int executionTime) =
      .ok (some executionTime) := rfl
  rw [← kept row (by decide : "name" ≠ "timestamp")] at hName
  rw [← kept row (by decide : "executed_at" ≠ "timestamp"),
    ← kept _ (by decide : "executed_at" ≠ "name")] at hExecutedAt
  rw [← kept row (by decide : "execution_time" ≠ "timestamp"),
    ← kept _ (by decide : "execution_time" ≠ "name"),
    ← kept _ (by decide : "execution_time" ≠ "executed_at")] at hExecutionTime
  unfold ofRow
  rw [Record.takeAs_ok hTimestamp timestampRead]
  simp only [bind, Except.bind]
  rw [Record.takeAs_ok hName nameRead]
  simp only
  rw [Record.takeAs_ok hExecutedAt executedAtRead]
  simp only
  rw [Record.takeAs_ok hExecutionTime executionTimeRead]
  rfl

/-- A `row` of a history is read as `entry`. -/
structure Reads (row : Record) (entry : ExecutedMigration) : Prop where
  timestamp : row.get? "timestamp" = some (.int entry.timestamp)
  entry : ofRow (row.ofStorage historyColumns) = .ok entry

/-- A row with the `fields` of a migration is read as its entry. -/
theorem reads_fields {h : History σ} (columns : h.table.columns = historyColumns) {row : Record}
    {timestamp : Int} {name : String} {now : Instant} {executionTime : Int}
    (first : 0 ≤ now.date.year) (last : now.date.year ≤ 9999)
    (given : ∀ field ∈ h.fields timestamp name now executionTime, row.get? field.1 = some field.2) :
    Reads row ⟨timestamp, name, some now.settled.toMilli, executionTime⟩ := by
  simp only [History.fields, List.forall_mem_cons, Table.column?, columns] at given
  obtain ⟨hTimestamp, hName, hExecutedAt, hExecutionTime, -⟩ := given
  have read : ∀ {name value}, row.get? name = some value →
      (row.ofStorage historyColumns).get? name =
        some (ofStorage (historyColumns.find? (·.name == name)) value) := by
    intro name value hvalue
    rw [Record.get?_ofStorage, hvalue, Option.map_some]
  have instant := read hExecutedAt
  rw [executedAt_readBack first last] at instant
  exact ⟨hTimestamp, ofRow_eq (read hTimestamp) (read hName) instant (read hExecutionTime)⟩

/-! ## Rows in the order of their timestamps -/

/-- No row comes before one with a lesser timestamp. -/
def InOrder (rows : List Record) : Prop :=
  rows.Pairwise fun row row' => ∀ t t', row.get? "timestamp" = some (.int t) →
    row'.get? "timestamp" = some (.int t') → t ≤ t'

/-- The `rows` of a history, in some arrangement, are read as `entries` in the order of their
timestamps. -/
def Listed (rows : List Record) (entries : List ExecutedMigration) : Prop :=
  Ascending timestamp entries ∧
    ∃ arranged : List Record, arranged.Perm rows ∧ List.Forall₂ Reads arranged entries

theorem get?_timestamp {rows : List Record} {entries : List ExecutedMigration}
    (reads : List.Forall₂ Reads rows entries) :
    rows.map (fun row => row.get? "timestamp") =
      entries.map fun entry => some (.int entry.timestamp) := by
  induction reads with
  | nil => rfl
  | cons read _ ih => rw [List.map_cons, List.map_cons, read.timestamp, ih]

/-- Rows that are answered in order are read as the `entries`. -/
theorem Listed.reads {rows : List Record} {entries : List ExecutedMigration}
    (listed : Listed rows entries) {answer : List Record} (perm : answer.Perm rows)
    (inOrder : InOrder answer) : List.Forall₂ Reads answer entries := by
  obtain ⟨ascending, arranged, arrangement, reads⟩ := listed
  obtain ⟨read, hread, same⟩ := List.perm_comp_forall₂ (perm.trans arrangement.symm) reads
  have nondecreasing : read.Pairwise fun a b => a.timestamp ≤ b.timestamp := by
    have cells := List.pairwise_map (f := fun row : Record => row.get? "timestamp")
      (R := fun cell cell' => ∀ t t', cell = some (.int t) → cell' = some (.int t') → t ≤ t')
      |>.2 inOrder
    rw [get?_timestamp hread, List.pairwise_map] at cells
    exact cells.imp fun h => h _ _ rfl rfl
  have distinct : (read.map timestamp).Nodup :=
    (same.map timestamp).nodup_iff.2 ascending.nodup
  have unique : read = entries := (Ascending.of_nodup nondecreasing distinct).unique ascending same
  exact unique ▸ hread

/-- A timestamp of no entry is the timestamp of no row. -/
theorem Listed.fresh {rows : List Record} {entries : List ExecutedMigration}
    (listed : Listed rows entries) {t : Int} (unlisted : t ∉ entries.map timestamp) :
    ∀ row ∈ rows, row.get? "timestamp" ≠ some (.int t) := by
  obtain ⟨_, arranged, arrangement, reads⟩ := listed
  intro row hrow same
  have cell : some (.int t) ∈ arranged.map fun row => row.get? "timestamp" :=
    List.mem_map.2 ⟨row, arrangement.mem_iff.2 hrow, same⟩
  rw [get?_timestamp reads] at cell
  obtain ⟨entry, hentry, equal⟩ := List.mem_map.1 cell
  cases equal
  exact unlisted (List.mem_map.2 ⟨entry, hentry, rfl⟩)

/-- One more row makes one more entry, at its place. -/
theorem Listed.add {rows rows' : List Record} {entries : List ExecutedMigration}
    (listed : Listed rows entries) {row : Record} {entry : ExecutedMigration}
    (read : Reads row entry) (unlisted : entry.timestamp ∉ entries.map timestamp)
    (more : rows'.Perm (row :: rows)) :
    ∃ entries', Listed rows' entries' ∧ entries'.Perm (entry :: entries) := by
  obtain ⟨ascending, arranged, arrangement, reads⟩ := listed
  have distinct : ((entry :: entries).map timestamp).Nodup :=
    List.nodup_cons.2 ⟨unlisted, ascending.nodup⟩
  obtain ⟨sorted, perm, ascending'⟩ := exists_ascending distinct
  have reads' : List.Forall₂ Reads (row :: arranged) (entry :: entries) := .cons read reads
  have flipped : List.Forall₂ (flip Reads) (entry :: entries) (row :: arranged) := reads'.flip
  obtain ⟨arranged', hreads, arrangement'⟩ := List.perm_comp_forall₂ perm flipped
  refine ⟨sorted, ⟨ascending', arranged', ?_, hreads.flip⟩, perm⟩
  exact arrangement'.trans ((arrangement.cons row).trans more.symm)

end ExecutedMigration

/-! ## Archives -/

/-- What is told of a database in which a history is kept. -/
structure Archive (σ γ : Type) where
  store : σ → Store γ
  /-- The rows of the history. -/
  rows : γ → List Record
  /-- The statements that were issued, in order. -/
  log : σ → List Statement
  /-- Whether it fails to make the migration of a timestamp. -/
  fails : σ → Int → Prop

namespace Archive

open ExecutedMigration (Listed InOrder)

/-- From `db` to `db'` the statements `issued` were issued. -/
structure Passes (a : Archive σ γ) (db db' : σ) (issued : List Statement) : Prop where
  log : a.log db' = a.log db ++ issued
  fails : a.fails db' = a.fails db

/-- The statement succeeds, with an answer and a database as they are `wanted`. -/
def Takes (a : Archive σ γ) (st : Statement) (db : σ) (wanted : α → Store γ → Prop)
    (outcome : Except Error α × σ) : Prop :=
  ∃ r db', outcome = (.ok r, db') ∧ a.Passes db db' [st] ∧ wanted r (a.store db')

/-- A driver without `ownExec` runs a statement that it executes. -/
theorem Takes.executed {a : Archive σ γ} {d : Driver σ} (plain : d.ownExec = none) {st : Statement}
    (text : st = .plain st.sql) {db : σ} {wanted : Store γ → Prop}
    (takes : a.Takes st db (fun _ => wanted) (d.run st db)) :
    a.Takes st db (fun _ => wanted) (d.exec st.sql db) := by
  obtain ⟨r, db', hrun, passes, store⟩ := takes
  rw [Driver.exec_run plain, ← text, hrun]
  exact ⟨(), db', rfl, passes, store⟩

/-- The archive is of a database that has transactions and the table of `h`, which keeps its rows
and has no two rows for one timestamp. -/
structure Keeps (a : Archive σ γ) (h : History σ) : Prop where
  supported : h.connection.driver.supportsTransactions = true
  control : ∀ {text c} {db after}, Control.ofText? text = some c →
    (a.store db).control c = some after →
      a.Takes (.plain text) db (fun _ store => store = after) (h.connection.driver.exec text db)
  /-- The table is created once, and then it stays. -/
  create : ∀ {db d}, a.store db = ⟨d, none⟩ →
    a.Takes h.createStatement db (fun _ store => ∃ d', store = ⟨d', none⟩ ∧ a.rows d' = a.rows d)
      (h.connection.driver.exec h.createStatement.sql db)
  insert : ∀ {db d} timestamp name now executionTime, a.store db = ⟨d, none⟩ →
    (∀ row ∈ a.rows d, row.get? "timestamp" ≠ some (.int timestamp)) →
      a.Takes (h.insertStatement timestamp name now executionTime) db
        (fun _ store => ∃ d' row, store = ⟨d', none⟩ ∧ (a.rows d').Perm (row :: a.rows d) ∧
          ∀ field ∈ h.fields timestamp name now executionTime, row.get? field.1 = some field.2)
        (h.connection.driver.run (h.insertStatement timestamp name now executionTime) db)
  select : ∀ {db d}, a.store db = ⟨d, none⟩ →
    a.Takes h.selectStatement db
      (fun answer store => store = ⟨d, none⟩ ∧ answer.toList.Perm (a.rows d) ∧ InOrder answer.toList)
      (h.connection.driver.all h.selectStatement db)

/-- No transaction is open, and the history lists `entries`. -/
def Lists (a : Archive σ γ) (db : σ) (entries : List ExecutedMigration) : Prop :=
  ∃ d, a.store db = ⟨d, none⟩ ∧ Listed (a.rows d) entries

variable {a : Archive σ γ} {h : History σ} {db db' db'' : σ}

theorem Passes.refl (a : Archive σ γ) (db : σ) : a.Passes db db [] := ⟨by simp, rfl⟩

theorem Passes.trans {first second : List Statement} (hfirst : a.Passes db db' first)
    (hsecond : a.Passes db' db'' second) : a.Passes db db'' (first ++ second) where
  log := by rw [hsecond.log, hfirst.log, List.append_assoc]
  fails := hsecond.fails.trans hfirst.fails

theorem Lists.ascending {entries : List ExecutedMigration} (lists : a.Lists db entries) :
    Ascending ExecutedMigration.timestamp entries := by
  obtain ⟨_, _, ascending, _⟩ := lists
  exact ascending

namespace Keeps

variable {entries : List ExecutedMigration} (keeps : a.Keeps h)

include keeps

/-- The history is read as the `entries` that it lists. -/
theorem executed (columns : h.table.columns = historyColumns) (lists : a.Lists db entries) :
    ∃ db', h.executed db = (.ok entries, db') ∧ a.Passes db db' [h.selectStatement] ∧
      a.Lists db' entries := by
  obtain ⟨d, store, listed⟩ := lists
  obtain ⟨answer, db', hall, passes, kept, perm, inOrder⟩ := keeps.select store
  refine ⟨db', ?_, passes, d, kept, listed⟩
  have each := (listed.reads perm inOrder).imp fun row entry read => read.entry
  unfold History.executed
  rw [columns]
  exact (bind_ok hall).trans (DatabaseM.mapM_forall₂ each db')

theorem ensure (lists : a.Lists db entries) :
    ∃ db', h.ensure db = (.ok (), db') ∧ a.Passes db db' [h.createStatement] ∧
      a.Lists db' entries := by
  obtain ⟨d, store, listed⟩ := lists
  obtain ⟨r, db', hexec, passes, d', kept, same⟩ := keeps.create store
  exact ⟨db', hexec, passes, d', kept, same ▸ listed⟩

/-- A migration that is not listed is listed, as executed when the statement was issued. -/
theorem enter (columns : h.table.columns = historyColumns) {s : Session σ}
    (first : 0 ≤ (s.outside.clock s.uses).date.year)
    (last : (s.outside.clock s.uses).date.year ≤ 9999) (lists : a.Lists s.database entries)
    {timestamp : Int} (unlisted : timestamp ∉ entries.map ExecutedMigration.timestamp)
    (name : String) (executionTime : Int) :
    ∃ s' entries', h.insert timestamp name executionTime s = (.ok (), s') ∧
      s'.outside = s.outside ∧
      a.Passes s.database s'.database [h.insertNow timestamp name executionTime s] ∧
      a.Lists s'.database entries' ∧
      entries'.Perm (⟨timestamp, name, some (s.outside.clock s.uses).settled.toMilli, executionTime⟩ ::
        entries) := by
  obtain ⟨d, store, listed⟩ := lists
  obtain ⟨r, db', hrun, passes, d', row, kept, more, given⟩ :=
    keeps.insert timestamp name (s.outside.clock s.uses) executionTime store (listed.fresh unlisted)
  have read := ExecutedMigration.reads_fields columns first last given
  obtain ⟨entries', listed', perm⟩ := listed.add read unlisted more
  have inserted := h.insert_apply timestamp name executionTime s
  have run : h.connection.driver.run (h.insertNow timestamp name executionTime s) s.database =
      (.ok r, db') := hrun
  rw [run] at inserted
  exact ⟨_, entries', inserted, rfl, passes, ⟨d', kept, listed'⟩, perm⟩

end Keeps

end Archive

end EntityStore
