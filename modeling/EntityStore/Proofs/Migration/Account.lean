import EntityStore.Migration.Executor
import EntityStore.Proofs.Transaction.Session
import EntityStore.Proofs.Transaction.Store
import Mathlib.Data.Finset.Basic

/-!
# What a database tells of migrations

The effects of migrations are in the contents of a database, and so are the rows of its history
table; the two are kept by different statements. An account of a database tells both: which changes
its contents show, and which timestamps its history lists.

Any statement may fail, and then it leaves the database as it was.
-/

namespace EntityStore

/-- A migration took effect, or it was taken back. -/
inductive Change where
  | made (timestamp : Int)
  | takenBack (timestamp : Int)
  deriving DecidableEq, Repr

/-- Whether the migration of `timestamp` was made and not taken back. The newest change comes
first. -/
def Applied (timestamp : Int) : List Change → Prop
  | [] => False
  | .made t :: before => t = timestamp ∨ Applied timestamp before
  | .takenBack t :: before => t ≠ timestamp ∧ Applied timestamp before

instance Applied.decidable (timestamp : Int) :
    (changes : List Change) → Decidable (Applied timestamp changes)
  | [] => inferInstanceAs (Decidable False)
  | .made t :: before =>
    let _ := Applied.decidable timestamp before
    inferInstanceAs (Decidable (t = timestamp ∨ Applied timestamp before))
  | .takenBack t :: before =>
    let _ := Applied.decidable timestamp before
    inferInstanceAs (Decidable (t ≠ timestamp ∧ Applied timestamp before))

/-- A migration can be made if it is not applied, and be taken back if it is. -/
def Change.Due (before : List Change) : Change → Prop
  | made t => ¬ Applied t before
  | takenBack t => Applied t before

/-- Every change was due when it came, after those `before`. -/
def Orderly (before : List Change) : List Change → Prop
  | [] => True
  | change :: rest => change.Due (rest ++ before) ∧ Orderly before rest

theorem Orderly.append {before first : List Change} (h : Orderly before first) {second : List Change}
    (h' : Orderly (first ++ before) second) : Orderly before (second ++ first) := by
  induction second with
  | nil => exact h
  | cons change rest ih =>
    obtain ⟨due, orderly⟩ := h'
    refine ⟨?_, ih orderly⟩
    show change.Due (rest ++ first ++ before)
    rw [List.append_assoc]
    exact due

/-- What the contents of a database tell of migrations: the timestamps in the history table, of
which no two are equal, and the changes, the newest first. -/
structure Books where
  listed : Finset Int
  changes : List Change
  deriving DecidableEq

namespace Books

def push (b : Books) (change : Change) : Books := { b with changes := change :: b.changes }

def list (b : Books) (timestamp : Int) : Books := { b with listed := insert timestamp b.listed }

def unlist (b : Books) (timestamp : Int) : Books := { b with listed := b.listed.erase timestamp }

/-- The `timestamps` are the listed ones, each once and the least first. -/
def Lists (b : Books) (timestamps : List Int) : Prop :=
  timestamps.Pairwise (· < ·) ∧ ∀ t, t ∈ timestamps ↔ t ∈ b.listed

theorem Lists.nodup {b : Books} {timestamps : List Int} (h : b.Lists timestamps) :
    timestamps.Nodup :=
  h.1.imp fun less => ne_of_lt less

/-- From `b` to `b'`, every change between was due. -/
def Progress (b b' : Books) : Prop := ∃ new, b'.changes = new ++ b.changes ∧ Orderly b.changes new

theorem Progress.refl (b : Books) : Progress b b := ⟨[], rfl, trivial⟩

theorem Progress.trans {b b' b'' : Books} (h : Progress b b') (h' : Progress b' b'') :
    Progress b b'' := by
  obtain ⟨first, hfirst, orderly⟩ := h
  obtain ⟨second, hsecond, orderly'⟩ := h'
  refine ⟨second ++ first, ?_, orderly.append ?_⟩
  · rw [hsecond, hfirst, List.append_assoc]
  · rw [← hfirst]
    exact orderly'

theorem Progress.push {b b' : Books} {change : Change} (due : change.Due b.changes)
    (h : b'.changes = change :: b.changes) : Progress b b' := by
  refine ⟨[change], h, ?_, trivial⟩
  exact due

/-- What is told of `t` is the same. -/
def SameAt (t : Int) (b b' : Books) : Prop :=
  (t ∈ b'.listed ↔ t ∈ b.listed) ∧ (Applied t b'.changes ↔ Applied t b.changes)

theorem SameAt.refl (t : Int) (b : Books) : SameAt t b b := ⟨Iff.rfl, Iff.rfl⟩

theorem SameAt.trans {t : Int} {b b' b'' : Books} (h : SameAt t b b') (h' : SameAt t b' b'') :
    SameAt t b b'' := ⟨h'.1.trans h.1, h'.2.trans h.2⟩

theorem sameAt_push_takenBack {t u : Int} (h : t ≠ u) (b : Books) :
    SameAt t b (b.push (.takenBack u)) := by
  refine ⟨Iff.rfl, ?_⟩
  show u ≠ t ∧ Applied t b.changes ↔ Applied t b.changes
  exact and_iff_right (Ne.symm h)

theorem sameAt_unlist {t u : Int} (h : t ≠ u) (b : Books) : SameAt t b (b.unlist u) := by
  refine ⟨?_, Iff.rfl⟩
  show t ∈ b.listed.erase u ↔ t ∈ b.listed
  rw [Finset.mem_erase]
  exact and_iff_right h

end Books

variable {σ γ : Type}

/-! ## The statements of a history -/

namespace History

def createStatement (h : History σ) : Statement :=
  .plain (h.table.createStatement h.connection.dialect)

def selectStatement (h : History σ) : Statement :=
  .plain ("SELECT * FROM " ++ h.table.name ++ " ORDER BY timestamp ASC")

def deleteStatement (h : History σ) (timestamp : Int) : Statement :=
  Sql.statement h.connection.dialect
    [.text ("DELETE FROM " ++ h.table.name ++ " WHERE timestamp = "), .bound (.int timestamp)]

/-- A statement that adds a row to a history or removes one from it. -/
inductive IsEntry (h : History σ) : Statement → Prop where
  | insert (timestamp : Int) (name : String) (now : Calendar.Instant) (executionTime : Int) :
    IsEntry h (h.insertStatement timestamp name now executionTime)
  | delete (timestamp : Int) : IsEntry h (h.deleteStatement timestamp)

variable (h : History σ)

theorem createStatement_eq : h.createStatement = .plain h.createStatement.sql := rfl

theorem exists_createStatement_eq :
    ∃ text, h.createStatement = .plain ("CREATE TABLE IF NOT EXISTS " ++ text) := by
  have eq : h.createStatement = .plain ("CREATE TABLE IF NOT EXISTS " ++ _ ++ _ ++ _ ++ _) := rfl
  rw [String.append_assoc, String.append_assoc, String.append_assoc] at eq
  exact ⟨_, eq⟩

theorem exists_selectStatement_eq :
    ∃ text, h.selectStatement = .plain ("SELECT * FROM " ++ text) := by
  have eq : h.selectStatement = .plain ("SELECT * FROM " ++ _ ++ _) := rfl
  rw [String.append_assoc] at eq
  exact ⟨_, eq⟩

theorem exists_insertStatement_eq (timestamp : Int) (name : String) (now : Calendar.Instant)
    (executionTime : Int) : ∃ text params, h.insertStatement timestamp name now executionTime =
      ⟨"INSERT INTO " ++ text, .int timestamp :: params⟩ := by
  have eq : h.insertStatement timestamp name now executionTime =
      ⟨"INSERT INTO " ++ _ ++ _ ++ _ ++ _ ++ _, .int timestamp :: _⟩ := rfl
  rw [String.append_assoc, String.append_assoc, String.append_assoc, String.append_assoc] at eq
  exact ⟨_, _, eq⟩

theorem exists_deleteStatement_eq (timestamp : Int) :
    ∃ text, h.deleteStatement timestamp = ⟨"DELETE FROM " ++ text, [.int timestamp]⟩ := by
  have eq : h.deleteStatement timestamp =
      ⟨"DELETE FROM " ++ _ ++ _ ++ _, [.int timestamp]⟩ := rfl
  rw [String.append_assoc, String.append_assoc] at eq
  exact ⟨_, eq⟩

theorem isData_createStatement : h.createStatement.IsData := by
  obtain ⟨text, eq⟩ := h.exists_createStatement_eq
  rw [eq]
  exact Control.ofText?_apart (by decide +kernel) (by decide) text

theorem isData_selectStatement : h.selectStatement.IsData := by
  obtain ⟨text, eq⟩ := h.exists_selectStatement_eq
  rw [eq]
  exact Control.ofText?_apart (by decide +kernel) (by decide) text

theorem IsEntry.isData {st : Statement} (entry : h.IsEntry st) : st.IsData := by
  cases entry with
  | insert timestamp name now executionTime =>
    obtain ⟨text, _, eq⟩ := h.exists_insertStatement_eq timestamp name now executionTime
    rw [eq]
    exact Control.ofText?_apart (by decide +kernel) (by decide) text
  | delete timestamp =>
    obtain ⟨text, eq⟩ := h.exists_deleteStatement_eq timestamp
    rw [eq]
    exact Control.ofText?_apart (by decide +kernel) (by decide) text

/-- A statement that controls a transaction is no entry. -/
theorem not_isEntry_plain {text : String} {c : Control} (hc : Control.ofText? text = some c) :
    ¬ h.IsEntry (.plain text) := by
  intro entry
  have data : Control.ofText? text = none := entry.isData
  rw [hc] at data
  cases data

end History

/-! ## Accounts -/

/-- An account of a database: its contents, and the statements that have failed so far. -/
structure Account (σ γ : Type) where
  store : σ → Store γ
  failed : σ → List Statement
  /-- What a statement does to the contents, if it controls no transaction. -/
  effect : Statement → γ → γ
  books : γ → Books

namespace Account

variable {α : Type} (a : Account σ γ)

/-- What is told of migrations by what stays of the database. -/
def durable (db : σ) : Books := a.books (a.store db).durable

/-- What is told of migrations by what the next statement finds. -/
def seen (db : σ) : Books := a.books (a.store db).contents

/-- No transaction is open. -/
def Idle (db : σ) : Prop := (a.store db).current = none

/-- An open transaction has not touched the history. -/
def Settled (db : σ) : Prop := (a.seen db).listed = (a.durable db).listed

/-- The statement either has its effect, or it fails and has none. -/
def Takes (st : Statement) (db : σ) : Except Error α × σ → Prop
  | (.ok _, db') => (a.store db).step a.effect st = some (a.store db') ∧ a.failed db' = a.failed db
  | (.error _, db') => a.store db' = a.store db ∧ a.failed db' = a.failed db ++ [st]

/-- The account holds of a database in which `h` is kept: it has transactions and savepoints, and
its history table has a row for every timestamp that was inserted and not deleted. -/
structure Keeps (h : History σ) : Prop where
  run : ∀ st db, a.Takes st db (h.connection.driver.run st db)
  all : ∀ st db, a.Takes st db (h.connection.driver.all st db)
  exec : ∀ own ∈ h.connection.driver.ownExec, ∀ sql db, a.Takes (.plain sql) db (own sql db)
  insert : ∀ contents timestamp name now executionTime,
    a.books (a.effect (h.insertStatement timestamp name now executionTime) contents) =
      (a.books contents).list timestamp
  delete : ∀ contents timestamp, a.books (a.effect (h.deleteStatement timestamp) contents) =
    (a.books contents).unlist timestamp
  /-- The table is created once, and then it stays. -/
  create : ∀ contents, a.books (a.effect h.createStatement contents) = a.books contents
  /-- Asking for rows changes nothing. -/
  select : ∀ contents, a.books (a.effect h.selectStatement contents) = a.books contents
  /-- The rows are the listed ones, in the order of their timestamps. -/
  rows : ∀ db rows db', h.connection.driver.all h.selectStatement db = (.ok rows, db') →
    ∃ timestamps, (a.seen db).Lists timestamps ∧
      rows.toList.map (fun row => row.get? "timestamp") =
        timestamps.map fun timestamp => some (.int timestamp)

/-- From `db` to `db'` the statements `failures` failed, no open transaction touched the history,
and what stays tells `b` of migrations. -/
structure Reaches (db db' : σ) (failures : List Statement) (b : Books) : Prop where
  failed : a.failed db' = a.failed db ++ failures
  settled : a.Settled db'
  durable : a.durable db' = b

variable {a} {db db' db'' : σ} {st : Statement}

theorem Idle.settled (h : a.Idle db) : a.Settled db := by
  have closed : (a.store db).current = none := h
  show (a.books (a.store db).contents).listed = (a.books (a.store db).durable).listed
  cases store : a.store db with
  | mk durable current =>
    rw [store] at closed
    cases closed
    rfl

theorem Reaches.refl (settled : a.Settled db) : a.Reaches db db [] (a.durable db) where
  failed := by simp
  settled := settled
  durable := rfl

theorem Reaches.trans {failures failures' : List Statement} {b b' : Books}
    (h : a.Reaches db db' failures b) (h' : a.Reaches db' db'' failures' b') :
    a.Reaches db db'' (failures ++ failures') b' where
  failed := by rw [h'.failed, h.failed, List.append_assoc]
  settled := h'.settled
  durable := h'.durable

/-- The database is as it was, apart from the statements that failed. -/
theorem Reaches.of_store {failures : List Statement}
    (failed : a.failed db' = a.failed db ++ failures) (same : a.store db' = a.store db)
    (settled : a.Settled db) : a.Reaches db db' failures (a.durable db) where
  failed := failed
  settled := by
    simp only [Settled, seen, Account.durable, same]
    exact settled
  durable := by simp only [Account.durable, same]

/-! ## Single statements -/

/-- What `st` adds to the statements that have failed, if `result` is what came of it. -/
def failures (st : Statement) (result : Except Error α) : List Statement :=
  if result.isOk then [] else [st]

theorem Takes.map {β : Type} {outcome : Except Error α × σ} (h : a.Takes st db outcome) (f : α → β) :
    a.Takes st db (outcome.1.map f, outcome.2) := by
  rcases outcome with ⟨result, db'⟩
  cases result <;> exact h

/-- A statement that is executed has its effect like one that is run. -/
theorem Keeps.executes {h : History σ} (keeps : a.Keeps h) (sql : String) (db : σ) :
    a.Takes (.plain sql) db (h.connection.driver.exec sql db) :=
  Driver.exec_of (P := a.Takes (.plain sql) db) ((keeps.run (.plain sql) db).map fun _ => ())
    fun own hown => keeps.exec own hown sql db

theorem Takes.failed {result : Except Error α} (h : a.Takes st db (result, db')) :
    a.failed db' = a.failed db ++ failures st result := by
  cases result with
  | ok r => rw [h.2]; simp [failures, Except.isOk, Except.toBool]
  | error e => exact h.2

theorem Takes.neutral {result : Except Error α} (h : a.Takes st db (result, db')) (data : st.IsData)
    (neutral : ∀ contents, a.books (a.effect st contents) = a.books contents) :
    a.durable db' = a.durable db ∧ a.seen db' = a.seen db ∧
      ((a.store db').current.isSome = (a.store db).current.isSome) := by
  cases result with
  | error e => simp only [durable, seen, h.1, and_self]
  | ok r =>
    have step := h.1
    rw [Store.step_change a.effect data] at step
    simp only [durable, seen, ← Option.some.inj step]
    rcases a.store db with ⟨d, _ | t⟩
    · exact ⟨neutral d, neutral d, rfl⟩
    · exact ⟨rfl, neutral t.working, rfl⟩

/-- A statement that neither controls a transaction nor changes what is told of migrations. -/
theorem Takes.reaches {result : Except Error α} (h : a.Takes st db (result, db')) (data : st.IsData)
    (neutral : ∀ contents, a.books (a.effect st contents) = a.books contents)
    (settled : a.Settled db) : a.Reaches db db' (failures st result) (a.durable db) := by
  obtain ⟨durable, seen, -⟩ := h.neutral data neutral
  refine ⟨h.failed, ?_, durable⟩
  rw [Settled, seen, durable]
  exact settled

/-- A statement that changes by `f` what is told of migrations, where no transaction is open. -/
theorem Takes.change {f : Books → Books} {result : Except Error α} (h : a.Takes st db (result, db'))
    (data : st.IsData) (changes : ∀ contents, a.books (a.effect st contents) = f (a.books contents))
    (idle : a.Idle db) : a.Idle db' ∧
      a.Reaches db db' (failures st result) (if result.isOk then f (a.durable db) else a.durable db) := by
  have closed : (a.store db).current = none := idle
  cases result with
  | error e =>
    have idle' : a.Idle db' := by rw [Idle, h.1, closed]
    refine ⟨idle', h.failed, idle'.settled, ?_⟩
    simp only [durable, h.1]
    rfl
  | ok r =>
    have step := h.1
    rw [Store.step_change a.effect data] at step
    have store : a.store db' = (a.store db).change (a.effect st) := (Option.some.inj step).symm
    have opened : a.store db = ⟨(a.store db).durable, none⟩ := by rw [← closed]
    rw [opened] at store
    have idle' : a.Idle db' := by rw [Idle, store]; rfl
    refine ⟨idle', h.failed, idle'.settled, ?_⟩
    show a.books (a.store db').durable = f (a.books (a.store db).durable)
    rw [store]
    exact changes _

end Account

end EntityStore
