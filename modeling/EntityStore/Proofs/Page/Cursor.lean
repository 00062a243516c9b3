import EntityStore.Proofs.Condition.Stored
import EntityStore.Proofs.Query.Answer
import EntityStore.Proofs.Record
import EntityStore.Repository

/-!
# One page after a cursor

What a page is made of, which statement is run for it, and which rows it asks for.
-/

namespace EntityStore

variable {σ α : Type}

namespace Condition

variable {resolve : String → Except Error Reference}

theorem allInStorage_append {first second s t : List Condition}
    (hfirst : allInStorage resolve first = .ok s) (hsecond : allInStorage resolve second = .ok t) :
    allInStorage resolve (first ++ second) = .ok (s ++ t) := by
  induction first generalizing s with
  | nil =>
    cases hfirst
    exact hsecond
  | cons c rest ih =>
    simp only [allInStorage, Except.bind_eq_ok] at hfirst
    obtain ⟨stored, hstored, others, hothers, hfirst⟩ := hfirst
    cases hfirst
    simp only [List.cons_append, allInStorage, hstored, ih hothers]
    rfl

theorem allInStorage_left {first second s : List Condition}
    (h : allInStorage resolve (first ++ second) = .ok s) :
    ∃ t, allInStorage resolve first = .ok t := by
  induction first generalizing s with
  | nil => exact ⟨[], rfl⟩
  | cons c rest ih =>
    simp only [List.cons_append, allInStorage, Except.bind_eq_ok] at h
    obtain ⟨stored, hstored, others, hothers, -⟩ := h
    obtain ⟨t, ht⟩ := ih hothers
    refine ⟨stored :: t, ?_⟩
    simp only [allInStorage, hstored, ht]
    rfl

end Condition

namespace Truth

theorem and_eq_yes {a b : Truth} : a.and b = yes ↔ a = yes ∧ b = yes := by
  cases a <;> cases b <;> simp [and]

theorem ofBool_eq_yes {b : Bool} : ofBool b = yes ↔ b = true := by
  cases b <;> simp [ofBool]

end Truth

/-- There is room for a row on every page. -/
theorem CursorPageable.size_pos (o : CursorPageable) : 0 < max o.size 1 :=
  Nat.lt_of_lt_of_le Nat.one_pos (Nat.le_max_right _ _)

namespace Repository

variable {r : Repository σ α} {o : CursorPageable} {name : String}

/-- The column that decides the order of pages. -/
def ordering (r : Repository σ α) (o : CursorPageable) : Except Error String :=
  match o.orderBy with
  | some column => .ok column
  | none => r.table.primary.map Column.name

def pageFilter (o : CursorPageable) (name : String) : Option Filter :=
  if (cursorConditions o name).isEmpty then none
  else some (.condition (.all (cursorConditions o name)))

theorem cursorQuery_eq (r : Repository σ α) (o : CursorPageable) (name : String) :
    r.cursorQuery o name =
      { table := r.table, filter := pageFilter o name, order := [(name, .asc)],
        limit := some (clampCount (max o.size 1 + 1)) } := by
  unfold cursorQuery pageFilter
  by_cases empty : (cursorConditions o name).isEmpty
  · simp only [if_pos empty]
    rfl
  · simp only [if_neg empty]
    rfl

/-- The page that is made of the values of the `rows` that were answered. -/
def pageOf (r : Repository σ α) (size : Nat) (name : String) (rows : List Record) :
    DatabaseM σ (CursorPage α) := do
  let members ← (rows.take size).mapM fun row => (r.entity.ofRecord row : DatabaseM σ α)
  return ⟨members, if size < rows.length then (rows.take size).getLast?.bind (·.get? name) else none,
    size < rows.length⟩

/-- A page is made of the rows of its query. -/
theorem findCursorPage_eq (ordered : r.ordering o = .ok name) (db : σ) :
    r.findCursorPage o db =
      ((r.cursorQuery o name).rows r.connection >>= r.pageOf (max o.size 1) name) db := by
  have column : ∀ found : Except Error String, found = .ok name →
      (found : DatabaseM σ String) db = (.ok name, db) := by
    rintro _ rfl
    rfl
  unfold findCursorPage
  unfold ordering at ordered
  cases named : o.orderBy with
  | some given =>
    rw [named] at ordered
    cases ordered
    rfl
  | none =>
    rw [named] at ordered
    exact bind_ok (column _ ordered)

theorem rows_cursorQuery {st : Statement}
    (built : (r.cursorQuery o name).selectStatement r.connection.dialect = .ok st) (db : σ) :
    (r.cursorQuery o name).rows r.connection db =
      (r.connection.driver.all st >>= fun answer =>
        pure (answer.toList.map (Record.ofStorage r.table.columns))) db := by
  have table : (r.cursorQuery o name).table = r.table := by rw [cursorQuery_eq]
  unfold Query.rows
  rw [built, bind_ok (DatabaseM.lift_apply (.ok st) db), Query.fetch, table]

/-- A page is made of what the driver answers to the statement of its query. -/
theorem findCursorPage_apply (ordered : r.ordering o = .ok name) {st : Statement}
    (built : (r.cursorQuery o name).selectStatement r.connection.dialect = .ok st) {db db' : σ}
    {answer : Rows} (answered : r.connection.driver.all st db = (.ok answer, db')) :
    r.findCursorPage o db =
      r.pageOf (max o.size 1) name (answer.toList.map (Record.ofStorage r.table.columns)) db' := by
  have rows : (r.cursorQuery o name).rows r.connection db =
      (.ok (answer.toList.map (Record.ofStorage r.table.columns)), db') := by
    rw [rows_cursorQuery built]
    exact bind_ok answered
  rw [findCursorPage_eq ordered]
  exact bind_ok rows

/-- To make a page of rows, nothing is asked of the driver. -/
theorem pageOf_apply (r : Repository σ α) (size : Nat) (name : String) (rows : List Record) (db : σ) :
    r.pageOf size name rows db =
      (((rows.take size).mapM r.entity.ofRecord).map fun members => ⟨members,
        if size < rows.length then (rows.take size).getLast?.bind (·.get? name) else none,
        size < rows.length⟩, db) := by
  unfold pageOf
  rw [bind_pure_map, DatabaseM.mapM_apply]

theorem pageOf_eq_ok {size : Nat} {rows : List Record} {db db' : σ} {page : CursorPage α}
    (made : r.pageOf size name rows db = (.ok page, db')) :
    db' = db ∧ ∃ members, (rows.take size).mapM r.entity.ofRecord = .ok members ∧
      page = ⟨members,
        if size < rows.length then (rows.take size).getLast?.bind (·.get? name) else none,
        size < rows.length⟩ := by
  rw [pageOf_apply] at made
  cases read : (rows.take size).mapM r.entity.ofRecord with
  | error e =>
    rw [read] at made
    cases made
  | ok members =>
    rw [read] at made
    cases made
    exact ⟨rfl, members, rfl, rfl⟩

/-- Where a page is found, its query has a statement, and the page is made of what the driver
answers to it. -/
theorem findCursorPage_eq_ok {page : CursorPage α} {db db' : σ} (ordered : r.ordering o = .ok name)
    (found : r.findCursorPage o db = (.ok page, db')) :
    ∃ st answer, (r.cursorQuery o name).selectStatement r.connection.dialect = .ok st ∧
      r.connection.driver.all st db = (.ok answer, db') ∧
      r.pageOf (max o.size 1) name (answer.toList.map (Record.ofStorage r.table.columns)) db' =
        (.ok page, db') := by
  rw [findCursorPage_eq ordered] at found
  obtain ⟨rows, db₁, hrows, made⟩ := exists_of_bind_ok found
  obtain ⟨rfl, -⟩ := pageOf_eq_ok made
  cases built : (r.cursorQuery o name).selectStatement r.connection.dialect with
  | error e =>
    have failed : (r.cursorQuery o name).rows r.connection db = (.error e, db) := by
      unfold Query.rows
      rw [built]
      rfl
    rw [failed] at hrows
    cases hrows
  | ok st =>
    rw [rows_cursorQuery built] at hrows
    obtain ⟨answer, _, answered, hrows⟩ := exists_of_bind_ok hrows
    cases hrows
    exact ⟨st, answer, rfl, answered, made⟩

/-! ## The statement of a page -/

/-- The conditions of a page are accepted if its filter and its ordering column are. -/
theorem allInStorage_cursorConditions {resolve : String → Except Error Reference} {ref : Reference}
    {stored : List Condition} (resolved : resolve name = .ok ref)
    (accepted : Condition.allInStorage resolve o.filter.equations = .ok stored) :
    ∃ stored, Condition.allInStorage resolve (cursorConditions o name) = .ok stored := by
  unfold cursorConditions
  cases o.cursor with
  | none => exact ⟨_, Condition.allInStorage_append accepted rfl⟩
  | some value =>
    refine ⟨_, Condition.allInStorage_append accepted (t := [.compare .gt ref.text
      (toStorage ref.column value)]) ?_⟩
    simp only [Condition.allInStorage, Condition.inStorage, resolved]
    rfl

/-- A page whose filter and ordering column are accepted has a statement. -/
theorem selectStatement_cursorQuery (d : Dialect) {ref : Reference} {stored : List Condition}
    (resolved : r.query.resolve [] name = .ok ref)
    (accepted : Condition.allInStorage (r.query.resolve []) o.filter.equations = .ok stored) :
    ∃ st, (r.cursorQuery o name).selectStatement d = .ok st := by
  obtain ⟨stored, hstored⟩ := allInStorage_cursorConditions resolved accepted
  have rows : ∃ rows, (r.cursorQuery o name).whereClause d = .ok rows := by
    rw [cursorQuery_eq]
    show ∃ rows, Query.filterClause _ d " WHERE " [] (pageFilter o name) = .ok rows
    unfold pageFilter
    split
    · exact ⟨[], rfl⟩
    · have sql : (Filter.condition (.all (cursorConditions o name))).sql d (r.query.resolve []) =
          .ok ((Condition.all stored).sql d) := by
        simp only [Filter.sql, Condition.inStorage, hstored]
        rfl
      exact ⟨.text " WHERE " :: (Condition.all stored).sql d, congrArg (· >>= _) sql⟩
  have order : (r.cursorQuery o name).orderClause = .ok (Query.listClause " ORDER BY "
      [ref.text ++ " " ++ Direction.asc.word]) := by
    have order : (r.cursorQuery o name).order = [(name, .asc)] := by rw [cursorQuery_eq]
    have cell : (r.cursorQuery o name).resolve (r.cursorQuery o name).selectNames name = .ok ref := by
      rw [cursorQuery_eq]
      exact resolved
    unfold Query.orderClause
    rw [order]
    simp only [List.mapM_cons, List.mapM_nil, cell]
    rfl
  obtain ⟨rows, hrows⟩ := rows
  rw [cursorQuery_eq] at hrows order ⊢
  unfold Query.selectStatement Query.selectSql
  rw [hrows, order]
  exact ⟨_, rfl⟩

/-- Where a page has a statement, its ordering column and its filter are accepted. -/
theorem cursorQuery_accepted {d : Dialect} {st : Statement}
    (built : (r.cursorQuery o name).selectStatement d = .ok st) :
    (∃ ref, r.query.resolve [] name = .ok ref) ∧
      ∃ stored, Condition.allInStorage (r.query.resolve []) o.filter.equations = .ok stored := by
  rw [cursorQuery_eq] at built
  simp only [Query.selectStatement, Query.selectSql, Except.bind_eq_ok] at built
  obtain ⟨sql, ⟨joins, -, rows, hrows, groups, -, having, -, order, horder, -⟩, -⟩ := built
  constructor
  · simp only [Query.orderClause, Except.bind_eq_ok, List.mapM_cons] at horder
    obtain ⟨_, ⟨_, ⟨ref, resolved, -⟩, -⟩, -⟩ := horder
    exact ⟨ref, resolved⟩
  · have clause : Query.filterClause _ d " WHERE " [] (pageFilter o name) = .ok rows := hrows
    unfold pageFilter at clause
    split at clause
    · rename_i empty
      have none : o.filter.equations = [] := (List.append_eq_nil_iff.1 (List.isEmpty_iff.1 empty)).1
      rw [none]
      exact ⟨[], rfl⟩
    · simp only [Query.filterClause, Filter.sql, Condition.inStorage, Except.bind_eq_ok] at clause
      obtain ⟨_, ⟨_, ⟨stored, hstored, -⟩, -⟩, -⟩ := clause
      exact Condition.allInStorage_left hstored

/-! ## The rows of a page -/

/-- The record `filter` is matched by `row`. -/
def letsThrough (r : Repository σ α) (d : Dialect) (m : Reading) (filter row : Record) : Bool :=
  decide ((Filter.matching filter).truth (r.query.meaning d m.compares (m.cell row)) = .yes)

theorem wants_cursorQuery (d : Dialect) (m : Reading) (row : Record) :
    (r.cursorQuery o name).wants d m row =
      decide (Truth.all ((cursorConditions o name).map
        (Condition.truth (r.query.meaning d m.compares (m.cell row)))) = .yes) := by
  rw [cursorQuery_eq]
  unfold Query.wants pageFilter
  by_cases empty : (cursorConditions o name).isEmpty
  · rw [if_pos empty, List.isEmpty_iff.1 empty]
    rfl
  · rw [if_neg empty]
    show decide (Truth.all (Condition.truths (r.query.meaning d m.compares (m.cell row)) _) = _) = _
    rw [Condition.truths_eq_map]

/-- After a cursor the rows are wanted that the filter lets through and that the database finds to
be greater than `value`. -/
theorem wants_greater {d : Dialect} {m : Reading} {row : Record} {value : Value} :
    (r.cursorQuery { o with cursor := some value } name).wants d m row =
      (r.letsThrough d m o.filter row &&
        decide ((Condition.compare .gt name value).truth
          (r.query.meaning d m.compares (m.cell row)) = .yes)) := by
  rw [wants_cursorQuery, Bool.eq_iff_iff, Bool.and_eq_true, letsThrough, decide_eq_true_iff,
    decide_eq_true_iff, decide_eq_true_iff]
  show Truth.all ((o.filter.equations ++ [Condition.compare .gt name value]).map _) = _ ↔ _
  rw [List.map_append, Truth.all_append, Truth.and_eq_yes, List.map_singleton, Truth.all_cons,
    Truth.all_nil, Truth.and_yes, Filter.truth, Record.equations, List.map_map]
  rfl

/-- After a cursor the rows are wanted that the filter lets through and that come after it. -/
theorem wants_after {d : Dialect} {m : Reading} {row : Record} {value : Value} {after : Bool}
    (compared : (Condition.compare .gt name value).truth (r.query.meaning d m.compares (m.cell row)) =
      .ofBool after) :
    (r.cursorQuery { o with cursor := some value } name).wants d m row =
      (r.letsThrough d m o.filter row && after) := by
  rw [wants_greater, compared]
  simp only [Truth.ofBool_eq_yes, Bool.decide_eq_true]

theorem wants_first {d : Dialect} {m : Reading} {row : Record} :
    (r.cursorQuery { o with cursor := none } name).wants d m row =
      r.letsThrough d m o.filter row := by
  rw [wants_cursorQuery, letsThrough]
  show decide (Truth.all ((o.filter.equations ++ []).map _) = _) = _
  rw [List.append_nil, Filter.truth, Record.equations, List.map_map]
  rfl

end Repository

end EntityStore
