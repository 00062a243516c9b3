import EntityStore.Proofs.Query.Refusal
import EntityStore.Proofs.Statement.Independence
import EntityStore.Proofs.Statement.Placeholder
import EntityStore.Proofs.Statement.Row

/-!
# Complete statements

A statement that inserts a row lists a column, with a placeholder and a parameter for each that it
lists, or it is the statement of the dialect for a row of defaults. A statement that updates rows
sets a column. Rows that are inserted are looked at for this after what they leave to the database
was taken out of them, and an update of one member without values is not made at all. A row that is
inserted or updated, and an update among several, are not looked at: they are complete only where
something is left to list, or to set. In MySQL a row without columns is itself a row of defaults.
-/

namespace EntityStore

open Sql

namespace Statement

/-- A statement that inserts a row into `t`, whatever it says after that about a row that is already
there. -/
inductive InsertsInto (d : Dialect) (t : Table) (s : Statement) : Prop where
  /-- It lists `columns` of the table, with as many placeholders and as many parameters. -/
  | listing (columns : List String) (rest : String) (nonempty : columns ≠ [])
    (declared : ∀ column ∈ columns, t.Declares column)
    (text : s.sql = d.insertText t.name columns ++ rest) (params : s.params.length = columns.length)
  /-- It inserts a row of defaults, as the dialect does, and has no parameters. -/
  | defaults (rest : String) (text : s.sql = d.insertDefaults t.name ++ rest) (params : s.params = [])

/-- A statement that sets columns of `t`, in the rows that are `told` by other columns. -/
inductive SetsIn (d : Dialect) (t : Table) (told : List String) (s : Statement) : Prop where
  /-- It has a placeholder and a parameter for each column that it sets or tells rows by. -/
  | setting (columns : List String) (nonempty : columns ≠ [])
    (declared : ∀ column ∈ columns, t.Declares column)
    (text : s.sql = d.updateText t.name columns told)
    (params : s.params.length = columns.length + told.length)

end Statement

/-! ## The statements -/

namespace Table

variable {t : Table} {d : Dialect}

theorem insertRow_insertsInto {row : Record} (declared : ∀ name ∈ row.names, t.Declares name)
    (filled : row.isEmpty = false) (rest : String) :
    (Sql.statement d (insertRow t.name (t.storedFields row) ++ [.text rest])).InsertsInto d t := by
  refine .listing row.names rest ?_ declared ?_ ?_
  · intro none
    rw [Record.isEmpty_eq, none] at filled
    cases filled
  · rw [Sql.statement, textFrom_append, textFrom_insertRow, map_fst_storedFields]
    simp [textFrom]
  · simp [Sql.statement, Sql.params, params_insertRow, map_snd_storedFields, storedValues,
      Record.names]

theorem insertStatement_insertsInto {row : Record} (declared : ∀ name ∈ row.names, t.Declares name) :
    (t.insertStatement d row).InsertsInto d t := by
  unfold insertStatement
  split
  · exact .defaults "" String.append_empty.symm rfl
  · rename_i filled
    have listed := insertRow_insertsInto (d := d) declared (by simpa using filled) ""
    have same : Sql.statement d (insertRow t.name (t.storedFields row) ++ [.text ""]) =
        Sql.statement d (insertRow t.name (t.storedFields row)) := by
      simp [Sql.statement, textFrom_append, textFrom, Sql.params]
    rwa [same] at listed

theorem insertStatements_insertsInto {rows : List Record} {statements : List Statement}
    (built : t.insertStatements d rows = .ok statements) :
    statements.length = rows.length ∧ ∀ s ∈ statements, s.InsertsInto d t := by
  rw [insertStatements, Except.bind_eq_ok] at built
  obtain ⟨_, checked, built⟩ := built
  cases built
  refine ⟨List.length_map _, ?_⟩
  intro s hs
  obtain ⟨row, hrow, rfl⟩ := List.mem_map.1 hs
  exact insertStatement_insertsInto fun name hname =>
    checkNames_eq_ok checked name (List.mem_flatMap_of_mem hrow hname)

theorem insertText_nil (d : Dialect) (table : String) :
    d.insertText table [] = "INSERT INTO " ++ table ++ " () VALUES ()" := by
  unfold Dialect.insertText
  simp only [String.append_assoc]
  rfl

/-- A row without columns is a row of defaults in MySQL only. -/
theorem insertText_nil_eq_iff (d : Dialect) (table rest : String) :
    (∃ rest', d.insertText table [] ++ rest = d.insertDefaults table ++ rest') ↔
      d.family = .mysql := by
  rw [insertText_nil]
  constructor
  · rintro ⟨rest', same⟩
    have chars := congrArg String.toList same
    cases family : d.family with
    | mysql => rfl
    | sqlite | postgres =>
      simp only [Dialect.insertDefaults, family, String.toList_append, List.append_assoc,
        List.append_cancel_left_eq] at chars
      cases chars
  · intro family
    exact ⟨rest, by simp only [Dialect.insertDefaults, family]⟩

/-- A row that leaves nothing to list is inserted or updated without columns. -/
theorem upsertStatement_insertsInto_iff {primary : Column} {row : Record} {s : Statement}
    (built : t.upsertStatement d primary row = .ok s) :
    s.InsertsInto d t ↔ row.isEmpty = false ∨ d.family = .mysql := by
  rw [upsertStatement, Except.bind_eq_ok] at built
  obtain ⟨_, checked, built⟩ := built
  cases built
  cases filled : row.isEmpty with
  | false =>
    refine iff_of_true ?_ (.inl rfl)
    exact insertRow_insertsInto (checkNames_eq_ok checked) filled _
  | true =>
    have unlisted : t.storedFields row = [] := by
      rw [storedFields, List.isEmpty_iff.1 filled, List.map_nil]
    have text : ((upsertRow d t.name [] primary.name).statement d).sql =
        d.insertText t.name [] ++ d.onConflict [] primary.name := by
      rw [Sql.statement, upsertRow, textFrom_append, textFrom_insertRow]
      simp [textFrom]
    rw [unlisted, ← insertText_nil_eq_iff d t.name (d.onConflict [] primary.name)]
    constructor
    · intro complete
      cases complete with
      | listing columns rest nonempty declared text params =>
        exact absurd (List.eq_nil_of_length_eq_zero params.symm) nonempty
      | defaults rest plain params => exact .inr ⟨rest, text.symm.trans plain⟩
    · rintro (⟨⟨⟩⟩ | ⟨rest, same⟩)
      exact .defaults rest (text.trans same) rfl

theorem updateStatement_eq_ok {u : Update} {s : Statement} (built : t.updateStatement d u = .ok s) :
    (∀ name ∈ u.values.names, t.Declares name) ∧
      s.sql = d.updateText t.name u.values.names u.criteria.names ∧
      s.params.length = u.values.names.length + u.criteria.names.length := by
  simp only [updateStatement_eq, Except.bind_eq_ok] at built
  obtain ⟨_, checked, _, _, built⟩ := built
  cases built
  exact ⟨checkNames_eq_ok checked, rfl, by simp [storedValues, Record.names]⟩

/-- An update without values sets no column. -/
theorem updateStatement_setsIn_iff {u : Update} {s : Statement}
    (built : t.updateStatement d u = .ok s) :
    s.SetsIn d t u.criteria.names ↔ u.values.isEmpty = false := by
  obtain ⟨declared, text, params⟩ := updateStatement_eq_ok built
  constructor
  · rintro ⟨columns, nonempty, _, _, params'⟩
    have length : columns.length = u.values.names.length := by omega
    rw [Record.isEmpty_eq, List.isEmpty_eq_false_iff]
    intro empty
    rw [empty] at length
    exact nonempty (List.eq_nil_of_length_eq_zero length)
  · intro filled
    rw [Record.isEmpty_eq, List.isEmpty_eq_false_iff] at filled
    exact .setting u.values.names filled declared text params

end Table

/-! ## What is handed over -/

section

variable {τ α β : Type}

/-- The step `x` hands over statements with the property `P`, which are recorded after those of
earlier steps; if it does not fail, they are as many as `count` says. -/
def Hands (record : τ → List Statement) (P : List Statement → Prop) (count : Nat)
    (x : ExceptT Error (StateM τ) α) : Prop :=
  ∀ s, ∃ sent, record (x s).2 = record s ++ sent ∧ P sent ∧ ((x s).1.isOk → sent.length = count)

namespace Hands

variable {record : τ → List Statement} {P Q : List Statement → Prop} {count : Nat}

theorem imp {x : ExceptT Error (StateM τ) α} (h : Hands record P count x)
    (sub : ∀ sent, P sent → Q sent) : Hands record Q count x := by
  intro s
  obtain ⟨sent, recorded, property, counted⟩ := h s
  exact ⟨sent, recorded, sub sent property, counted⟩

theorem pure (a : α) (none : P []) :
    Hands record P 0 (pure a : ExceptT Error (StateM τ) α) :=
  fun s => ⟨[], (List.append_nil (record s)).symm, none, fun _ => rfl⟩

/-- A check hands nothing over, and where it has no result nothing is done after it. -/
theorem check {x : Except Error α} {f : α → ExceptT Error (StateM τ) β} (none : P [])
    (h : ∀ a, x = .ok a → Hands record P count (f a)) :
    Hands record P count ((x : ExceptT Error (StateM τ) α) >>= f) := by
  cases x with
  | ok a => exact h a rfl
  | error e => exact fun s => ⟨[], (List.append_nil (record s)).symm, none, nofun⟩

/-- What comes after the statements is no matter, if nothing is handed over any more. -/
theorem bind {x : ExceptT Error (StateM τ) α} {f : α → ExceptT Error (StateM τ) β}
    (h : Hands record P count x) (kept : ∀ a s, record (f a s).2 = record s) :
    Hands record P count (x >>= f) := by
  intro s
  obtain ⟨sent, recorded, property, counted⟩ := h s
  refine ⟨sent, ?_⟩
  cases first : x s with
  | mk result s' =>
    rw [first] at recorded counted
    cases result with
    | error e =>
      rw [bind_error first]
      exact ⟨recorded, property, nofun⟩
    | ok a =>
      rw [bind_ok first]
      exact ⟨(kept a s').trans recorded, property, fun _ => counted rfl⟩

end Hands

end

section

variable {σ α : Type} {P : List Statement → Prop} {count : Nat}

/-- The record of the statements that a driver has received in the session `s`. -/
def Session.received (s : Session (σ × List Statement)) : List Statement := s.database.2

theorem Hands.atDatabase {x : DatabaseM (σ × List Statement) α} (h : Hands Prod.snd P count x) :
    Hands Session.received P count (SessionM.atDatabase x) :=
  fun s => h s.database

theorem Hands.randoms {n : Nat} {f : (Nat → Nat) → SessionM (σ × List Statement) α}
    (h : ∀ random, Hands Session.received P count (f random)) :
    Hands Session.received P count (SessionM.randoms n >>= f) :=
  fun s => h _ { s with uses := s.uses + n }

namespace Driver

variable (d : Driver σ)

theorem recorded_run (st : Statement) :
    Hands Prod.snd (fun sent => sent = [st]) 1 (d.recorded.run st) :=
  fun _ => ⟨[st], rfl, rfl, fun _ => rfl⟩

/-- Where statements are handed over one by one, a failure keeps the later ones back. -/
theorem recorded_runEach (sts : List Statement) :
    Hands Prod.snd (fun sent => sent <+: sts) sts.length (d.recorded.runEach sts) := by
  induction sts with
  | nil => exact .pure [] List.prefix_rfl
  | cons st rest ih =>
    intro db
    cases first : d.recorded.run st db with
    | mk result db' =>
      have received : db'.2 = db.2 ++ [st] := by
        rw [show db' = (d.recorded.run st db).2 by rw [first]]
        rfl
      cases result with
      | error e =>
        rw [runEach, bind_error first]
        exact ⟨[st], received, ⟨rest, rfl⟩, nofun⟩
      | ok a =>
        rw [runEach, bind_ok first]
        have following : Hands Prod.snd (fun sent => sent <+: rest) rest.length
            (d.recorded.runEach rest >>= fun results => Pure.pure (a :: results)) :=
          ih.bind fun _ _ => rfl
        obtain ⟨sent, recorded, before, counted⟩ := following db'
        refine ⟨st :: sent, ?_, (List.prefix_cons_inj st).2 before, ?_⟩
        · rw [recorded, received, List.append_assoc]
          rfl
        · intro ok
          rw [List.length_cons, List.length_cons, counted ok]

theorem recorded_submit (sts : List Statement) :
    Hands Prod.snd (fun sent => sent <+: sts) sts.length (d.recorded.submit sts) := by
  unfold submit batch
  split
  · split
    · rename_i own given
      obtain ⟨own', _, rfl⟩ := Option.map_eq_some_iff.1 given
      exact fun db => ⟨sts, rfl, List.prefix_rfl, fun _ => rfl⟩
    · exact d.recorded_runEach sts
  · exact d.recorded_runEach sts

end Driver

end

/-! ## Operations -/

section

variable {σ α : Type} (d : Driver σ) (dialect : Dialect)

namespace Table

theorem length_prepareRows (t : Table) (drawn : Nat → String) (rows : List Record) :
    (t.prepareRows drawn rows).length = rows.length := by
  simp [prepareRows]

/-- Whether anything is left of a row does not depend on what is drawn for it. -/
theorem isEmpty_prepareRow (t : Table) (drawn drawn' : Nat → String) (row : Record) :
    (t.prepareRow drawn row).isEmpty = (t.prepareRow drawn' row).isEmpty := by
  have alike : t.RowsAlike row row := ⟨rfl, fun _ _ _ => rfl⟩
  rw [Record.isEmpty_eq, Record.isEmpty_eq, (alike.prepareRow drawn drawn').names]

theorem insertRows_hands (t : Table) (rows : List Record) :
    Hands Session.received (fun sent => ∀ s ∈ sent, s.InsertsInto dialect t) rows.length
      (t.insertRows ⟨d.recorded, dialect⟩ rows) := by
  unfold insertRows
  split
  · rename_i none
    rw [List.isEmpty_iff.1 none]
    exact .pure _ (by simp)
  · refine .randoms fun random => .check (by simp) fun statements built => ?_
    obtain ⟨length, complete⟩ := insertStatements_insertsInto built
    have handed := (d.recorded_submit statements).imp
      (Q := fun sent => ∀ s ∈ sent, s.InsertsInto dialect t)
      fun sent before s hs => complete s (before.subset hs)
    rw [length, length_prepareRows] at handed
    exact handed.atDatabase.bind fun _ _ => rfl

theorem batchInsert_hands (t : Table) (rows : List Record) :
    Hands Session.received (fun sent => ∀ s ∈ sent, s.InsertsInto dialect t) rows.length
      (t.batchInsert ⟨d.recorded, dialect⟩ rows) :=
  (insertRows_hands d dialect t rows).bind fun _ _ => rfl

theorem batchUpdate_hands (t : Table) (updates : List Update) :
    Hands Prod.snd (fun sent => List.Forall₂
        (fun u s => s.SetsIn dialect t u.criteria.names ↔ u.values.isEmpty = false)
        (updates.take sent.length) sent) updates.length
      (t.batchUpdate ⟨d.recorded, dialect⟩ updates) := by
  unfold batchUpdate
  split
  · rename_i none
    rw [List.isEmpty_iff.1 none]
    exact .pure _ .nil
  · refine .check .nil fun statements built => ?_
    have each := (Except.mapM_eq_ok built).imp fun _ _ => updateStatement_setsIn_iff
    rw [each.length_eq]
    refine (d.recorded_submit statements).imp fun sent before => ?_
    have first := List.forall₂_take sent.length each
    rwa [← List.prefix_iff_eq_take.1 before] at first

end Table

namespace Repository

variable (r : Repository σ α)

theorem save_hands (member : α) :
    Hands Session.received (fun sent => ∀ s ∈ sent, s.InsertsInto r.connection.dialect r.table) 1
      (r.recorded.save member) :=
  (Table.insertRows_hands r.connection.driver r.connection.dialect r.table
    [r.entity.toRecord member]).bind fun _ _ => rfl

theorem update_hands (id : Value) (values : Record) :
    Hands Prod.snd (fun sent => ∀ s ∈ sent, ∃ primary, r.table.primary = .ok primary ∧
        s.SetsIn r.connection.dialect r.table [primary.name])
      (if values.isEmpty then 0 else 1) (r.recorded.update id values) := by
  refine .check (by simp) fun primary known => ?_
  split
  · exact .pure _ (by simp)
  · rename_i filled
    have handed := Table.batchUpdate_hands r.connection.driver r.connection.dialect r.table
      [⟨Record.ofList [(primary.name, id)], values⟩]
    refine (handed.bind fun _ _ => rfl).imp fun sent complete s hs => ⟨primary, known, ?_⟩
    cases sent with
    | nil => cases hs
    | cons first rest =>
      rw [List.length_cons, List.take_succ_cons, List.take_nil] at complete
      cases complete with
      | cons sets none =>
        cases none
        rw [List.mem_singleton.1 hs]
        exact sets.2 (by simpa using filled)

theorem upsert_hands (member : α) :
    Hands Session.received (fun sent => ∀ s ∈ sent,
        (s.InsertsInto r.connection.dialect r.table ↔
          (∀ drawn, (r.table.prepareRow drawn (r.entity.toRecord member)).isEmpty = false) ∨
            r.connection.dialect.family = .mysql)) 1
      (r.recorded.upsert member) := by
  refine .check (by simp) fun primary _ => .randoms fun random => .check (by simp) fun st built => ?_
  have handed := (r.connection.driver.recorded_run st).imp
    (Q := fun sent => ∀ s ∈ sent, (s.InsertsInto r.connection.dialect r.table ↔
      (∀ drawn, (r.table.prepareRow drawn (r.entity.toRecord member)).isEmpty = false) ∨
        r.connection.dialect.family = .mysql)) ?_
  · exact handed.atDatabase.bind fun _ _ => rfl
  · rintro _ rfl s hs
    obtain rfl := List.mem_singleton.1 hs
    refine (Table.upsertStatement_insertsInto_iff built).trans (or_congr_left ?_)
    constructor
    · intro filled drawn
      rw [← filled]
      exact r.table.isEmpty_prepareRow _ _ _
    · intro filled
      exact filled _

end Repository

end

/-- Rows that are inserted, and changes of one member, are handed over in complete statements only,
whatever the rows are and wherever a failure stops them. Of several updates each one that is handed
over is complete exactly if it has a value to set. A row that is inserted or updated is complete
exactly if something is left of it after what the columns make up was prepared, or if a row without
columns is a row of defaults. -/
theorem mutations_complete_iff {σ α : Type} (r : Repository σ α) :
    (∀ (t : Table) rows,
      Hands Session.received (fun sent => ∀ s ∈ sent, s.InsertsInto r.connection.dialect t)
        rows.length (t.batchInsert r.recorded.connection rows)) ∧
    (∀ member,
      Hands Session.received (fun sent => ∀ s ∈ sent, s.InsertsInto r.connection.dialect r.table) 1
        (r.recorded.save member)) ∧
    (∀ id values,
      Hands Prod.snd (fun sent => ∀ s ∈ sent, ∃ primary, r.table.primary = .ok primary ∧
          s.SetsIn r.connection.dialect r.table [primary.name])
        (if values.isEmpty then 0 else 1) (r.recorded.update id values)) ∧
    (∀ (t : Table) updates,
      Hands Prod.snd (fun sent => List.Forall₂
          (fun u s => s.SetsIn r.connection.dialect t u.criteria.names ↔ u.values.isEmpty = false)
          (updates.take sent.length) sent)
        updates.length (t.batchUpdate r.recorded.connection updates)) ∧
    (∀ member,
      Hands Session.received (fun sent => ∀ s ∈ sent,
          (s.InsertsInto r.connection.dialect r.table ↔
            (∀ drawn, (r.table.prepareRow drawn (r.entity.toRecord member)).isEmpty = false) ∨
              r.connection.dialect.family = .mysql))
        1 (r.recorded.upsert member)) :=
  ⟨Table.batchInsert_hands _ _, r.save_hands, r.update_hands, Table.batchUpdate_hands _ _,
    r.upsert_hands⟩

namespace Desk

def drafts : Table where
  name := "drafts"
  columns := [.primaryGenerated "id" .increment, { name := "title", type := .text }]

/-- A database that takes every statement. -/
def driver : Driver Unit where
  all _ := return .bare []
  run _ := return {}

def repository : Repository Unit Record where
  connection := ⟨driver, .sqlite⟩
  registry := ⟨[(⟨1, "Draft"⟩, drafts)]⟩
  entity := ⟨⟨1, "Draft"⟩, drafts, id, .ok⟩
  table := drafts
  owner := .dataSource

def opened : Session (Unit × List Statement) where
  database := ((), [])
  outside := ⟨fun _ => 0, fun _ => .epoch, fun _ => 0⟩

/-- A draft of which nothing is known yet. -/
def blank : Record := .ofList [("id", .null)]

/-- A blank draft is saved as a row of defaults, and one with a title is complete in an upsert. -/
theorem drafts_mutations_complete :
    (∃ s, (repository.recorded.save blank opened).2.received = [s] ∧
      s.InsertsInto .sqlite drafts ∧ s.sql = "INSERT INTO drafts DEFAULT VALUES") ∧
    ∃ s, (repository.recorded.upsert (blank.set "title" (.text "Plan")) opened).2.received = [s] ∧
      s.InsertsInto .sqlite drafts := by
  obtain ⟨-, saved, -, -, upserted⟩ := mutations_complete_iff repository
  refine ⟨⟨_, rfl, ?_, rfl⟩, _, rfl, ?_⟩
  · obtain ⟨sent, received, complete, -⟩ := saved blank opened
    obtain rfl : [_] = sent := received
    exact complete _ List.mem_cons_self
  · obtain ⟨sent, received, complete, -⟩ := upserted (blank.set "title" (.text "Plan")) opened
    obtain rfl : [_] = sent := received
    exact (complete _ List.mem_cons_self).2 (.inl fun _ => rfl)

/-- A blank draft lists no column in an upsert, and an update without values sets none: both
statements are handed over, and no error is reported. -/
theorem blank_upsert_incomplete :
    (repository.recorded.upsert blank opened).1.isOk ∧
    (∃ s, (repository.recorded.upsert blank opened).2.received = [s] ∧
      s.sql = "INSERT INTO drafts () VALUES () ON CONFLICT(id) DO NOTHING" ∧
      ¬ s.InsertsInto .sqlite drafts) ∧
    (drafts.batchUpdate repository.recorded.connection
      [⟨.ofList [("id", .int 1)], .empty⟩] ((), [])).1.isOk ∧
    ∃ s, (drafts.batchUpdate repository.recorded.connection
        [⟨.ofList [("id", .int 1)], .empty⟩] ((), [])).2.2 = [s] ∧
      s.sql = "UPDATE drafts SET  WHERE id = ?" ∧ ∀ told, ¬ s.SetsIn .sqlite drafts told := by
  refine ⟨rfl, ⟨_, rfl, rfl, ?_⟩, rfl, _, rfl, rfl, ?_⟩
  · intro complete
    have built : drafts.upsertStatement .sqlite (.primaryGenerated "id" .increment) .empty =
        .ok ⟨"INSERT INTO drafts () VALUES () ON CONFLICT(id) DO NOTHING", []⟩ := rfl
    exact absurd ((Table.upsertStatement_insertsInto_iff built).1 complete) (by decide)
  · rintro told ⟨columns, nonempty, declared, text, params⟩
    -- the only parameter is left for the column that would be set
    obtain ⟨column, rest, rfl⟩ := List.exists_cons_of_ne_nil nonempty
    obtain ⟨rfl, rfl⟩ : rest = [] ∧ told = [] := by
      have count : 1 = rest.length + 1 + told.length := params
      exact ⟨List.eq_nil_of_length_eq_zero (by omega), List.eq_nil_of_length_eq_zero (by omega)⟩
    obtain ⟨c, known, rfl⟩ := declared column List.mem_cons_self
    have other : ∀ c ∈ drafts.columns, "UPDATE drafts SET  WHERE id = ?" ≠
        Dialect.updateText .sqlite "drafts" [c.name] [] := by decide
    exact other c known text

end Desk

end EntityStore
