import EntityStore.Proofs.Page.Presence
import EntityStore.Proofs.Query.Total
import EntityStore.Proofs.Storage.Canonical
import EntityStore.Proofs.Storage.Sorting

/-!
# Going on after a page

The cursor of a page is a value of the ordering column, read from its stored form. When a reader goes
on with it, the value is written again, and the database compares its rows with what is written. The
next page begins where the last one ended if the database has stored what the column writes.
-/

namespace EntityStore

variable {σ α : Type}

namespace Repository

variable {r : Repository σ α} {o : CursorPageable} {name : String} {column : Column}

/-- For a page one statement is sent to the driver, whatever comes of it. -/
theorem asked_findCursorPage (ordered : r.ordering o = .ok name) {st : Statement}
    (built : (r.cursorQuery o name).selectStatement r.connection.dialect = .ok st) (db : σ) :
    (r.recorded.findCursorPage o (db, [])).2.2 = [st] := by
  have ordered : r.recorded.ordering o = .ok name := ordered
  have built : (r.recorded.cursorQuery o name).selectStatement r.recorded.connection.dialect =
      .ok st := built
  have asked : r.recorded.connection.driver.all st (db, []) =
      ((r.connection.driver.all st db).1, ((r.connection.driver.all st db).2, [st])) := rfl
  have rows := rows_cursorQuery built (db, [])
  rw [bind_pure_map, asked] at rows
  rw [findCursorPage_eq ordered]
  cases answered : (r.connection.driver.all st db).1 with
  | error e =>
    rw [answered] at rows
    rw [bind_error rows]
  | ok answer =>
    rw [answered] at rows
    rw [bind_ok rows, pageOf_apply]

/-- The last value that the statement of a page after a cursor binds is the cursor in stored
form. -/
theorem params_cursorQuery {d : Dialect} {value : Value} {st : Statement}
    (built : (r.cursorQuery { o with cursor := some value } name).selectStatement d = .ok st) :
    ∃ before, st.params = before ++ [toStorage (r.query.columnOf? name) value] := by
  have params := Query.params_selectStatement built
  rw [cursorQuery_eq] at params
  have conditions : cursorConditions { o with cursor := some value } name =
      o.filter.equations ++ [.compare .gt name value] := rfl
  have filter : pageFilter { o with cursor := some value } name =
      some (.condition (.all (o.filter.equations ++ [.compare .gt name value]))) := by
    rw [pageFilter, conditions, if_neg (by simp)]
  rw [filter] at params
  simp only [Query.storedOperands, Option.elim_some, Option.elim_none, Filter.operands,
    Condition.operands_all, List.flatMap_append, List.map_append, List.map_nil, List.append_nil] at params
  exact ⟨_, params⟩

/-- A call of `findCursorPage` sends one statement, in which `bound` is the last parameter. -/
def BindsLast (r : Repository σ α) (o : CursorPageable) (name : String) (bound : Value) : Prop :=
  ∃ st before, (r.cursorQuery o name).selectStatement r.connection.dialect = .ok st ∧
    st.params = before ++ [bound] ∧ ∀ db, (r.recorded.findCursorPage o (db, [])).2.2 = [st]

/-- Where a page is found, one after it can be asked for. -/
theorem bindsLast_after {st : Statement} {value : Value} (ordered : r.ordering o = .ok name)
    (unqualified : Identifier.qualifier? name = none) (declared : r.table.column? name = some column)
    (built : (r.cursorQuery o name).selectStatement r.connection.dialect = .ok st) :
    r.BindsLast { o with cursor := some value } name (column.toStorage value) := by
  have own : r.query.columnOf? name = some column :=
    (Query.columnOf?_unqualified unqualified).trans declared
  obtain ⟨⟨ref, resolved⟩, stored, accepted⟩ := cursorQuery_accepted built
  obtain ⟨next, hnext⟩ := selectStatement_cursorQuery (o := { o with cursor := some value })
    r.connection.dialect resolved accepted
  obtain ⟨before, params⟩ := params_cursorQuery hnext
  rw [own] at params
  exact ⟨next, before, hnext, params,
    asked_findCursorPage (o := { o with cursor := some value }) ordered hnext⟩

/-- The cursor of a page is read from what the database has stored in its last row. -/
theorem nextCursor_eq {size : Nat} {rows : List Record} {last : Record} {raw : Value} {db db' : σ}
    {page : CursorPage α}
    (made : r.pageOf size name (rows.map (Record.ofStorage r.table.columns)) db = (.ok page, db'))
    (more : page.hasNext = true) (hlast : (rows.take size).getLast? = some last)
    (hraw : last.get? name = some raw) (declared : r.table.column? name = some column) :
    page.nextCursor = some (column.ofStorage raw) := by
  obtain ⟨-, members, -, rfl⟩ := pageOf_eq_ok made
  have more : size < (rows.map (Record.ofStorage r.table.columns)).length := by simpa using more
  have found : r.table.columns.find? (·.name == name) = some column := declared
  rw [if_pos more, ← List.map_take, List.getLast?_map, hlast]
  show (last.ofStorage r.table.columns).get? name = _
  rw [Record.get?_ofStorage, hraw, found]
  rfl

/-- After a cursor the rows are wanted that the filter lets through and that the database finds to
be greater than the stored form of the cursor. -/
theorem wants_stored {d : Dialect} {m : Reading} {row : Record} {value : Value}
    (unqualified : Identifier.qualifier? name = none) (declared : r.table.column? name = some column) :
    (r.cursorQuery { o with cursor := some value } name).wants d m row =
      (r.letsThrough d m o.filter row &&
        decide (m.compares .gt (m.cell row name) (column.toStorage value) = .yes)) := by
  have own : r.query.columnOf? name = some column :=
    (Query.columnOf?_unqualified unqualified).trans declared
  have compared : (Condition.compare .gt name value).truth
      (r.query.meaning d m.compares (m.cell row)) =
      m.compares .gt (m.cell row name) (toStorage (r.query.columnOf? name) value) := rfl
  rw [wants_greater, compared, own]
  rfl

end Repository

open Repository in
/-- A reader goes on after a `page` with its cursor. One statement is sent for the next page, and
what it binds last is the form in which the column writes what it has read of the last row. That is
the stored form itself if and only if the column writes such forms, and then the rows are wanted
that the database finds to come after the last row. -/
theorem next_page_resumes_iff {r : Repository σ α} {o : CursorPageable} {name : String}
    {column : Column} {page : CursorPage α} {db db' : σ} (ordered : r.ordering o = .ok name)
    (unqualified : Identifier.qualifier? name = none) (declared : r.table.column? name = some column)
    (plain : column.transformers = []) (found : r.findCursorPage o db = (.ok page, db'))
    (more : page.hasNext = true) :
    ∃ st answer, (r.cursorQuery o name).selectStatement r.connection.dialect = .ok st ∧
      r.connection.driver.all st db = (.ok answer, db') ∧
      ((∀ row ∈ answer.toList, ∃ raw, row.get? name = some raw ∧ column.type.Accepts raw) →
        ∃ last raw, (answer.toList.take (max o.size 1)).getLast? = some last ∧
          last.get? name = some raw ∧
          r.BindsLast { o with cursor := page.nextCursor } name
            (column.toStorage (column.ofStorage raw)) ∧
          (column.toStorage (column.ofStorage raw) = raw ↔ column.type.Writes raw) ∧
          (column.type.Writes raw → ∀ (m : Reading) row,
            (r.cursorQuery { o with cursor := page.nextCursor } name).wants r.connection.dialect m row =
              (r.letsThrough r.connection.dialect m o.filter row &&
                decide (m.compares .gt (m.cell row name) raw = .yes)))) := by
  obtain ⟨st, answer, built, answered, made⟩ := findCursorPage_eq_ok ordered found
  refine ⟨st, answer, built, answered, fun stored => ?_⟩
  -- the cursor is that of the last row that is shown, not of the one that is answered beyond it
  have outnumbered : max o.size 1 < answer.toList.length := by
    obtain ⟨-, members, -, rfl⟩ := pageOf_eq_ok made
    simpa using more
  obtain ⟨last, hlast⟩ := exists_last_take outnumbered o.size_pos
  obtain ⟨raw, hraw, accepted⟩ := stored last (List.mem_of_mem_take (List.mem_of_getLast? hlast))
  have rewritten := Column.rewritten plain accepted
  rw [nextCursor_eq made more hlast hraw declared]
  refine ⟨last, raw, hlast, hraw, bindsLast_after ordered unqualified declared built, rewritten, ?_⟩
  intro written m row
  rw [wants_stored unqualified declared, rewritten.2 written]

namespace Visits

def table : Table where
  name := "visits"
  columns := [.primaryGenerated "id" .increment, { name := "at", type := .datetime }]

/-- A visit, with its `time` as the database has stored it. -/
def visit (id : Int) (time : String) : Record := .ofList [("id", .int id), ("at", .text time)]

/-- A database of `visits` that answers all of them. -/
def repository (visits : List Record) : Repository Unit Record where
  connection := ⟨{ all := fun _ => return .bare visits, run := fun _ => return {} }, .sqlite⟩
  registry := .empty
  entity := ⟨⟨1, "Visit"⟩, table, id, .ok⟩
  table := table
  owner := .dataSource

def inOrder : CursorPageable := { size := 1, orderBy := some "at" }

/-- Visits with their times as the column writes them. -/
def written : List Record :=
  [visit 1 "2024-05-01T10:00:00.000Z", visit 2 "2024-05-01T11:00:00.000Z"]

theorem accepts_written : ∀ row ∈ written,
    ∃ raw, row.get? "at" = some raw ∧ ColumnType.datetime.Accepts raw := by
  have ten : ColumnType.datetime.Accepts (.text "2024-05-01T10:00:00.000Z") := trivial
  have eleven : ColumnType.datetime.Accepts (.text "2024-05-01T11:00:00.000Z") := trivial
  simp only [written, List.forall_mem_cons]
  exact ⟨⟨.text "2024-05-01T10:00:00.000Z", rfl, ten⟩,
    ⟨.text "2024-05-01T11:00:00.000Z", rfl, eleven⟩, nofun⟩

theorem written_visits_resume :
    ∃ page, (repository written).ordering inOrder = .ok "at" ∧
      Identifier.qualifier? "at" = none ∧
      table.column? "at" = some { name := "at", type := .datetime } ∧
      (repository written).findCursorPage inOrder () = (.ok page, ()) ∧ page.hasNext = true ∧
      (∀ row ∈ written, ∃ raw, row.get? "at" = some raw ∧ ColumnType.datetime.Accepts raw) ∧
      (repository written).BindsLast { inOrder with cursor := page.nextCursor } "at"
        (.text "2024-05-01T10:00:00.000Z") := by
  have ordered : (repository written).ordering inOrder = .ok "at" := rfl
  have unqualified : Identifier.qualifier? "at" = none := by decide
  have declared : (repository written).table.column? "at" =
      some { name := "at", type := .datetime } := rfl
  obtain ⟨page, found, more⟩ : ∃ page,
      (repository written).findCursorPage inOrder () = (.ok page, ()) ∧ page.hasNext = true :=
    ⟨_, rfl, rfl⟩
  obtain ⟨st, answer, -, answered, resumes⟩ :=
    next_page_resumes_iff ordered unqualified declared rfl found more
  cases answered
  obtain ⟨last, raw, hlast, hraw, binds, same, -⟩ := resumes accepts_written
  obtain rfl : raw = .text "2024-05-01T10:00:00.000Z" := by
    cases hlast
    cases hraw
    rfl
  have writes : ColumnType.datetime.Writes (.text "2024-05-01T10:00:00.000Z") :=
    ⟨⟨1714557600, 0, by decide⟩, by rfl⟩
  have back := same.2 writes
  rw [back] at binds
  exact ⟨page, ordered, unqualified, declared, found, more, accepts_written, binds⟩

/-- Visits with a blank in their times. -/
def spaced : List Record := [visit 1 "2024-05-01 10:00:00", visit 2 "2024-05-01 11:00:00"]

/-- Times with a blank in them are read, too. The next page begins after another text than the one
that is stored, and a later time with a blank does not come behind it. -/
theorem spaced_visits_skipped :
    ∃ page, (repository spaced).findCursorPage inOrder () = (.ok page, ()) ∧ page.hasNext = true ∧
      ColumnType.datetime.Accepts (.text "2024-05-01 10:00:00") ∧
      ColumnType.datetime.Accepts (.text "2024-05-01 11:00:00") ∧
      ((repository spaced).cursorQuery { inOrder with cursor := page.nextCursor } "at").selectStatement
        .sqlite = .ok ⟨"SELECT * FROM visits WHERE (at > ?) ORDER BY at ASC LIMIT 2",
          [.text "2024-05-01T10:00:00.000Z"]⟩ ∧
      Value.text "2024-05-01T10:00:00.000Z" ≠ .text "2024-05-01 10:00:00" ∧
      bytesOf "2024-05-01 11:00:00" < bytesOf "2024-05-01T10:00:00.000Z" := by
  have ten : ColumnType.datetime.Accepts (.text "2024-05-01 10:00:00") := trivial
  have eleven : ColumnType.datetime.Accepts (.text "2024-05-01 11:00:00") := trivial
  exact ⟨_, rfl, rfl, ten, eleven, rfl, by simp, by decide⟩

end Visits

end EntityStore
