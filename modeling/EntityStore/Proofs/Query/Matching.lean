import EntityStore.Proofs.Page.Resumption
import EntityStore.Proofs.Statement.Row

/-!
# Matching a record

A filter by a record, and the conjunction of the comparisons with its fields, are compiled by
different loops. They check the same names in the same order, bind the same values and number them
alike, and write the same text, but that a conjunction stands in parentheses. A call for a page of
members compares with the fields of its filter, too, and leaves out a conjunction of nothing.
-/

namespace EntityStore

open Sql

/-! ## Fields -/

/-- The `fields` of a record that are accepted are written in the terms of `q`. -/
theorem fieldsInStorage_eq_ok {q : Query} {names : List String} {fields stored : List (String × Value)}
    (h : fieldsInStorage (q.resolve names) fields = .ok stored) :
    stored.map Prod.fst = (fields.map Prod.fst).map q.columnText := by
  induction fields generalizing stored with
  | nil =>
    cases h
    rfl
  | cons field rest ih =>
    simp only [fieldsInStorage, Except.bind_eq_ok] at h
    obtain ⟨ref, resolved, others, hothers, h⟩ := h
    cases h
    obtain ⟨-, rfl⟩ := Query.resolve_eq_ok resolved
    rw [List.map_cons, List.map_cons, List.map_cons, ih hothers]

/-- The conjunction of the comparisons with the fields of `r`. -/
def Filter.comparing (r : Record) : Filter := .condition (.all r.equations)

theorem Filter.sql_comparing (d : Dialect) (resolve : String → Except Error Reference)
    (r : Record) : (Filter.comparing r).sql d resolve = do
      let fields ← fieldsInStorage resolve r.fields
      return if fields.isEmpty then Sql.always
        else [.text "("] ++ (equations " AND " fields ++ [.text ")"]) := by
  rw [comparing, Filter.sql, Condition.inStorage, Record.equations, allInStorage_fields]
  cases fieldsInStorage resolve r.fields with
  | error e => rfl
  | ok fields =>
    refine congrArg Except.ok ?_
    cases fields with
    | nil => rfl
    | cons field rest =>
      show [.text "("] ++ joined " AND " (Condition.sqlOfEach d
        ((field :: rest).map fun field => .equal field.1 field.2)) ++ [.text ")"] = _
      rw [sqlOfEach_fields, List.append_assoc]
      rfl

/-! ## Statements with a filter in one place -/

/-- The results of two compilations that differ in how a filter is written. Both fail with the same
error, or the parameters are the same, and so is the text, but that the second one has parentheses
around the `clause` that the first one has after a `word`, unless `r` is empty. -/
inductive WrittenAlike (r : Record) (word clause : String) :
    Except Error Statement → Except Error Statement → Prop where
  /-- Both fail. -/
  | refused (e : Error) : WrittenAlike r word clause (.error e) (.error e)
  /-- There is nothing to put into parentheses. -/
  | same (s : Statement) (empty : r.isEmpty = true) : WrittenAlike r word clause (.ok s) (.ok s)
  /-- One of them has the clause in parentheses. -/
  | grouped (before after : String) (params : List Value) (filled : r.isEmpty = false) :
    WrittenAlike r word clause (.ok ⟨before ++ word ++ clause ++ after, params⟩)
      (.ok ⟨before ++ word ++ "(" ++ clause ++ ")" ++ after, params⟩)

/-- A statement with a `filter` after a `word`, between what comes before and after it. -/
def placed (d : Dialect) (word : String) (before filter after : Except Error Sql) :
    Except Error Statement := do
  let before ← before
  let filter ← filter
  let after ← after
  return Sql.statement d (before ++ .text word :: (filter ++ after))

theorem placed_ok (d : Dialect) (word : String) (before filter after : Sql) :
    placed d word (.ok before) (.ok filter) (.ok after) =
      .ok ⟨textFrom d 1 before ++ word ++ textFrom d (1 + before.params.length) filter ++
          textFrom d (1 + before.params.length + filter.params.length) after,
        before.params ++ (filter.params ++ after.params)⟩ := by
  refine congrArg Except.ok ?_
  simp [Sql.statement, textFrom_append, textFrom, String.append_assoc]

theorem placed_parentheses (d : Dialect) (word : String) (before filter after : Sql) :
    placed d word (.ok before) (.ok ([.text "("] ++ (filter ++ [.text ")"]))) (.ok after) =
      .ok ⟨textFrom d 1 before ++ word ++ "(" ++ textFrom d (1 + before.params.length) filter ++ ")" ++
          textFrom d (1 + before.params.length + filter.params.length) after,
        before.params ++ (filter.params ++ after.params)⟩ := by
  have params : Sql.params ([.text "("] ++ (filter ++ [.text ")"])) = filter.params := by simp
  rw [placed_ok, params]
  refine congrArg Except.ok ?_
  simp [textFrom_append, textFrom, String.append_assoc]

namespace Query

variable {q : Query} {d : Dialect}

/-- The text of the comparisons with the fields of `r`, the first placeholder of which has the given
`number`. -/
def matchText (q : Query) (d : Dialect) (number : Nat) (r : Record) : String :=
  " AND ".intercalate (d.equated number (r.names.map q.columnText))

/-- Wherever a filter stands in a statement, matching `r` is written as the comparisons with its
fields are. -/
theorem placed_matching {word : String} {names : List String} {number : Nat}
    {before after : Except Error Sql} (r : Record)
    (numbered : ∀ sql, before = .ok sql → 1 + sql.params.length = number) :
    WrittenAlike r word (q.matchText d number r)
      (placed d word before ((Filter.matching r).sql d (q.resolve names)) after)
      (placed d word before ((Filter.comparing r).sql d (q.resolve names)) after) := by
  rw [Filter.sql_comparing, Filter.sql]
  -- the cases stand in the order in which the parts are compiled, so that the first error is met first
  cases before with
  | error e => exact .refused e
  | ok before =>
    cases stored : fieldsInStorage (q.resolve names) r.fields with
    | error e => exact .refused e
    | ok fields =>
      cases after with
      | error e => exact .refused e
      | ok after =>
        have texts := fieldsInStorage_eq_ok stored
        cases fields with
        | nil =>
          have empty : r.fields = [] := by simpa using texts.symm
          exact .same _ (by simp [Record.isEmpty, empty])
        | cons field rest =>
          have filled : r.isEmpty = false := by
            rw [Record.isEmpty, List.isEmpty_eq_false_iff]
            intro empty
            rw [empty] at texts
            cases texts
          have clause : textFrom d (1 + before.params.length) (equations " AND " (field :: rest)) =
              q.matchText d number r := by
            rw [textFrom_equations, texts, numbered before rfl]
            rfl
          have plain := placed_ok d word before (equations " AND " (field :: rest)) after
          have grouped := placed_parentheses d word before (equations " AND " (field :: rest)) after
          rw [clause] at plain grouped
          show WrittenAlike r word _ (placed d word _ (.ok (equations " AND " (field :: rest))) _)
            (placed d word _ (.ok ([.text "("] ++ (equations " AND " (field :: rest) ++ [.text ")"]))) _)
          rw [plain, grouped]
          exact .grouped _ _ _ filled

/-! ## Where filters stand -/

theorem selectStatement_filtered (q : Query) (d : Dialect) (f : Filter) :
    (q.filtered f).selectStatement d = placed d " WHERE " q.opening (f.sql d (q.resolve [])) (do
      let groups ← q.groupClause
      let having ← q.filterClause d " HAVING " q.selectNames q.having
      return groups ++ (having ++ (← q.closing))) := by
  have rows : (q.filtered f).whereClause d = do return .text " WHERE " :: (← f.sql d (q.resolve [])) :=
    rfl
  rw [selectStatement_eq, rows]
  simp only [placed, bind_assoc, pure_bind, List.cons_append]
  rfl

theorem selectStatement_groupsFiltered (q : Query) (d : Dialect) (f : Filter) :
    (q.groupsFiltered f).selectStatement d = placed d " HAVING " (do
        let opening ← q.opening
        let rows ← q.whereClause d
        return opening ++ (rows ++ (← q.groupClause)))
      (f.sql d (q.resolve q.selectNames)) q.closing := by
  have having : (q.groupsFiltered f).filterClause d " HAVING " (q.groupsFiltered f).selectNames
      (q.groupsFiltered f).having =
        do return .text " HAVING " :: (← f.sql d (q.resolve q.selectNames)) := rfl
  rw [selectStatement_eq, having]
  simp only [placed, bind_assoc, pure_bind, List.append_assoc, List.cons_append]
  rfl

theorem aggregateStatement_filtered (q : Query) (d : Dialect) (expression name : String) (f : Filter) :
    (q.filtered f).aggregateStatement d expression name = placed d " WHERE "
      (.ok [.text ("SELECT " ++ expression ++ " AS " ++ name ++ " FROM " ++ q.tableText)])
      (f.sql d (q.resolve [])) (.ok []) := by
  have rows : (q.filtered f).whereClause d = do return .text " WHERE " :: (← f.sql d (q.resolve [])) :=
    rfl
  rw [aggregateStatement, aggregateSql, rows]
  cases f.sql d (q.resolve []) with
  | error e => rfl
  | ok sql =>
    refine congrArg Except.ok ?_
    rw [List.append_nil]
    rfl

/-! ## Numbers of placeholders -/

theorem params_opening {q : Query} {sql : Sql} (h : q.opening = .ok sql) : sql.params = [] := by
  rw [opening, Except.bind_eq_ok] at h
  obtain ⟨joins, hjoins, h⟩ := h
  cases h
  rw [params_cons_text, (joins_eq_ok hjoins).2]
  exact q.params_joinClauses

theorem params_beforeGroups {q : Query} {d : Dialect} {sql : Sql} (h : (do
      let opening ← q.opening
      let rows ← q.whereClause d
      return opening ++ (rows ++ (← q.groupClause))) = Except.ok sql) :
    sql.params = q.storedOperands q.filter := by
  simp only [Except.bind_eq_ok] at h
  obtain ⟨opening, hopening, rows, hrows, groups, hgroups, h⟩ := h
  cases h
  have before : opening.params = [] := params_opening hopening
  obtain ⟨-, rfl⟩ := filterClause_eq_ok hrows
  have after : groups.params = [] := by
    rw [groupClause, Except.bind_eq_ok] at hgroups
    obtain ⟨columns, -, hgroups⟩ := hgroups
    cases hgroups
    exact params_listClause _ _
  simp [before, after]

/-! ## Statements of queries -/

theorem filtered_matching (q : Query) (d : Dialect) (r : Record) :
    WrittenAlike r " WHERE " (q.matchText d 1 r) ((q.filtered (.matching r)).selectStatement d)
      ((q.filtered (.comparing r)).selectStatement d) := by
  rw [selectStatement_filtered, selectStatement_filtered]
  refine placed_matching r fun sql opens => ?_
  rw [params_opening opens]
  rfl

theorem groupsFiltered_matching (q : Query) (d : Dialect) (r : Record) :
    WrittenAlike r " HAVING " (q.matchText d (1 + (q.storedOperands q.filter).length) r)
      ((q.groupsFiltered (.matching r)).selectStatement d)
      ((q.groupsFiltered (.comparing r)).selectStatement d) := by
  rw [selectStatement_groupsFiltered, selectStatement_groupsFiltered]
  refine placed_matching r fun sql opens => ?_
  rw [params_beforeGroups opens]

theorem aggregateStatement_matching (q : Query) (d : Dialect) (expression name : String)
    (r : Record) :
    WrittenAlike r " WHERE " (q.matchText d 1 r)
      ((q.filtered (.matching r)).aggregateStatement d expression name)
      ((q.filtered (.comparing r)).aggregateStatement d expression name) := by
  rw [aggregateStatement_filtered, aggregateStatement_filtered]
  refine placed_matching r fun sql opens => ?_
  cases opens
  rfl

end Query

/-! ## Pages -/

namespace Repository

variable {σ α : Type} {r : Repository σ α} {o : CursorPageable} {name : String}

/-- The order and the number of the rows of a page. -/
def pageEnd (o : CursorPageable) (ref : Reference) : Sql :=
  [.text (" ORDER BY " ++ ref.text ++ " ASC"),
    .text (" LIMIT " ++ toString (clampCount (max o.size 1 + 1)))]

/-- The query for the members in the order of a column, as many as are asked for with a page. -/
def inOrder (r : Repository σ α) (o : CursorPageable) (name : String) : Query :=
  (r.query.orderBy name .asc).limited (clampCount (max o.size 1 + 1))

theorem closing_inOrder (r : Repository σ α) (o : CursorPageable) (name : String) :
    (r.inOrder o name).closing = (r.query.resolve [] name).map (pageEnd o) := by
  have order : (r.inOrder o name).orderClause = (r.query.resolve [] name).map fun ref =>
      [.text (" ORDER BY " ++ ref.text ++ " ASC")] := by
    have column : (r.inOrder o name).orderClause = do
        let columns ← [(name, Direction.asc)].mapM fun column => do
          return (← r.query.resolve [] column.1).text ++ " " ++ column.2.word
        return Query.listClause " ORDER BY " columns := rfl
    rw [column]
    simp only [List.mapM_cons, List.mapM_nil]
    cases r.query.resolve [] name with
    | error e => rfl
    | ok ref =>
      refine congrArg Except.ok ?_
      show [Piece.text (" ORDER BY " ++ ", ".intercalate [ref.text ++ " " ++ "ASC"])] = _
      have word : ref.text ++ " " ++ "ASC" = ref.text ++ " ASC" := by
        rw [String.append_assoc]
        rfl
      rw [String.intercalate_singleton, word, ← String.append_assoc]
  rw [Query.closing, order]
  cases r.query.resolve [] name <;> rfl

/-- The statement of a page without a filter and a cursor has no clause for the wanted rows. -/
theorem selectStatement_inOrder (r : Repository σ α) (o : CursorPageable) (name : String)
    (d : Dialect) :
    (r.inOrder o name).selectStatement d =
      ((r.query.resolve [] name).map (pageEnd o)).map fun sql =>
        Sql.statement d (.text r.query.head :: sql) := by
  rw [← closing_inOrder, Query.selectStatement_eq]
  show ((r.inOrder o name).closing >>= fun sql => _) = _
  cases (r.inOrder o name).closing <;> rfl

/-- The statement of a page with the filter `f` and no cursor is that of a query filtered by the
comparisons with the fields, but for its end. -/
theorem selectStatement_inOrder_filtered (r : Repository σ α) (o : CursorPageable) (name : String)
    (d : Dialect) (f : Filter) :
    ((r.inOrder o name).filtered f).selectStatement d =
      placed d " WHERE " (.ok [.text r.query.head]) (f.sql d (r.query.resolve []))
        ((r.query.resolve [] name).map (pageEnd o)) := by
  rw [← closing_inOrder, Query.selectStatement_filtered]
  show placed d " WHERE " _ _ ((r.inOrder o name).closing >>= fun sql => pure sql) = _
  rw [bind_pure]
  rfl

theorem cursorQuery_first (first : o.cursor = none) :
    r.cursorQuery o name = if o.filter.isEmpty then r.inOrder o name
      else (r.inOrder o name).filtered (.comparing o.filter) := by
  have conditions : cursorConditions o name = o.filter.equations := by
    rw [cursorConditions, first]
    exact List.append_nil _
  have none : (cursorConditions o name).isEmpty = o.filter.isEmpty := by
    rw [conditions, Record.equations, List.isEmpty_map]
    rfl
  rw [← none, Filter.comparing, ← conditions]
  rfl

/-- A call for a page whose query has no statement sends nothing. -/
theorem findCursorPage_refused {e : Error} (known : r.ordering o = .ok name)
    (failed : (r.cursorQuery o name).selectStatement r.connection.dialect = .error e) (db : σ) :
    r.recorded.findCursorPage o (db, []) = (.error e, (db, [])) := by
  have known : r.recorded.ordering o = .ok name := known
  have failed : (r.recorded.cursorQuery o name).selectStatement r.recorded.connection.dialect =
      .error e := failed
  have rows : (r.recorded.cursorQuery o name).rows r.recorded.connection (db, []) =
      (.error e, (db, [])) := by
    unfold Query.rows
    rw [failed]
    rfl
  rw [findCursorPage_eq known]
  exact bind_error rows

theorem selectStatement_filtered_query (r : Repository σ α) (d : Dialect) (f : Filter) :
    (r.query.filtered f).selectStatement d =
      placed d " WHERE " (.ok [.text r.query.head]) (f.sql d (r.query.resolve [])) (.ok []) := by
  rw [Query.selectStatement_filtered]
  rfl

/-- The comparisons with no fields are always accepted. -/
theorem sql_comparing_empty {f : Record} (empty : f.isEmpty = true) (d : Dialect)
    (resolve : String → Except Error Reference) :
    (Filter.comparing f).sql d resolve = .ok Sql.always := by
  rw [Filter.sql_comparing, List.isEmpty_iff.1 empty]
  rfl

/-- A call for a page without a column to order by sends nothing. -/
theorem findCursorPage_unordered {e : Error} (unknown : r.ordering o = .error e) (db : σ) :
    r.recorded.findCursorPage o (db, []) = (.error e, (db, [])) := by
  unfold ordering at unknown
  cases named : o.orderBy with
  | some column =>
    rw [named] at unknown
    cases unknown
  | none =>
    rw [named] at unknown
    have column : (r.table.primary.map Column.name : DatabaseM (σ × List Statement) String)
        (db, []) = (.error e, (db, [])) := by
      rw [← unknown]
      rfl
    unfold findCursorPage
    rw [named]
    exact bind_error column

variable {d : Dialect}

/-- The filter is compiled before the order, so that its error is the one of the page. -/
theorem cursorQuery_refused {e : Error} (first : o.cursor = none)
    (failed : (r.query.filtered (.comparing o.filter)).selectStatement d = .error e) :
    (r.cursorQuery o name).selectStatement d = .error e := by
  rw [selectStatement_filtered_query] at failed
  rw [cursorQuery_first first]
  split
  · rename_i empty
    rw [sql_comparing_empty empty] at failed
    cases failed
  · rw [selectStatement_inOrder_filtered]
    cases accepted : (Filter.comparing o.filter).sql d (r.query.resolve []) with
    | ok sql =>
      rw [accepted] at failed
      cases failed
    | error e =>
      rw [accepted] at failed
      exact failed

theorem cursorQuery_unresolved {s : Statement} {e : Error} (first : o.cursor = none)
    (built : (r.query.filtered (.comparing o.filter)).selectStatement d = .ok s)
    (unresolved : r.query.resolve [] name = .error e) :
    (r.cursorQuery o name).selectStatement d = .error e := by
  rw [selectStatement_filtered_query] at built
  rw [cursorQuery_first first]
  split
  · rw [selectStatement_inOrder, unresolved]
    rfl
  · rw [selectStatement_inOrder_filtered, unresolved]
    cases accepted : (Filter.comparing o.filter).sql d (r.query.resolve []) with
    | ok sql => rfl
    | error e =>
      rw [accepted] at built
      cases built

/-- The page of a filter that compares with nothing has no clause for the wanted rows, and of any
other filter it has that clause before its end. -/
theorem cursorQuery_built {s : Statement} {ref : Reference} (first : o.cursor = none)
    (built : (r.query.filtered (.comparing o.filter)).selectStatement d = .ok s)
    (resolved : r.query.resolve [] name = .ok ref) :
    ∃ st, (r.cursorQuery o name).selectStatement d = .ok st ∧ st.params = s.params ∧
      (o.filter.isEmpty = false → st.sql = s.sql ++ " ORDER BY " ++ ref.text ++ " ASC LIMIT " ++
        toString (clampCount (max o.size 1 + 1))) := by
  rw [selectStatement_filtered_query] at built
  rw [cursorQuery_first first]
  cases empty : o.filter.isEmpty with
  | true =>
    rw [sql_comparing_empty empty, placed_ok] at built
    cases built
    have page : (r.inOrder o name).selectStatement d =
        .ok (Sql.statement d (.text r.query.head :: pageEnd o ref)) := by
      rw [selectStatement_inOrder, resolved]
      rfl
    exact ⟨_, page, rfl, nofun⟩
  | false =>
    cases accepted : (Filter.comparing o.filter).sql d (r.query.resolve []) with
    | error e =>
      rw [accepted] at built
      cases built
    | ok sql =>
      rw [accepted, placed_ok] at built
      cases built
      have page : ((r.inOrder o name).filtered (.comparing o.filter)).selectStatement d =
          placed d " WHERE " (.ok [.text r.query.head]) (.ok sql) (.ok (pageEnd o ref)) := by
        rw [selectStatement_inOrder_filtered, resolved, accepted]
        rfl
      rw [placed_ok] at page
      refine ⟨_, page, rfl, fun _ => ?_⟩
      simp only [pageEnd, textFrom, String.append_empty, String.append_assoc,
        String.append_right_inj]
      exact String.append_assoc.symm

/-- What is sent for a page without a cursor, compared with a query that is filtered by
`Filter.comparing`. -/
structure SendsFiltered (r : Repository σ α) (o : CursorPageable) : Prop where
  /-- If there is no column that orders the members, nothing is sent. -/
  unordered : ∀ e, r.ordering o = .error e →
    ∀ db, r.recorded.findCursorPage o (db, []) = (.error e, (db, []))
  /-- If the query fails, the call fails with the same error and sends nothing. -/
  refused : ∀ name e, r.ordering o = .ok name →
    (r.query.filtered (.comparing o.filter)).selectStatement r.connection.dialect = .error e →
    ∀ db, r.recorded.findCursorPage o (db, []) = (.error e, (db, []))
  /-- If only the column that orders the members is refused, nothing is sent, either. -/
  unresolved : ∀ name s e, r.ordering o = .ok name →
    (r.query.filtered (.comparing o.filter)).selectStatement r.connection.dialect = .ok s →
    r.query.resolve [] name = .error e →
    ∀ db, r.recorded.findCursorPage o (db, []) = (.error e, (db, []))
  /-- Otherwise one statement is sent. Its parameters are those of the query, and what follows the
  clause for the wanted rows is the order and the number of rows. -/
  sent : ∀ name s ref, r.ordering o = .ok name →
    (r.query.filtered (.comparing o.filter)).selectStatement r.connection.dialect = .ok s →
    r.query.resolve [] name = .ok ref →
    ∃ st, (∀ db, (r.recorded.findCursorPage o (db, [])).2.2 = [st]) ∧ st.params = s.params ∧
      (o.filter.isEmpty = false → st.sql = s.sql ++ " ORDER BY " ++ ref.text ++ " ASC LIMIT " ++
        toString (clampCount (max o.size 1 + 1)))

theorem sendsFiltered (r : Repository σ α) (first : o.cursor = none) : r.SendsFiltered o where
  unordered _ unknown db := findCursorPage_unordered unknown db
  refused _ _ known failed db := findCursorPage_refused known (cursorQuery_refused first failed) db
  unresolved _ _ _ known built unresolved db :=
    findCursorPage_refused known (cursorQuery_unresolved first built unresolved) db
  sent _ _ _ known built resolved := by
    obtain ⟨st, page, params, text⟩ := cursorQuery_built first built resolved
    exact ⟨st, asked_findCursorPage known page, params, text⟩

end Repository

/-- Filtering rows or groups by a record `r` is filtering by the comparisons with its fields: the
same records are refused, with the same errors, and otherwise the parameters and the text are the
same up to parentheses. A call for a first page sends the same parameters and the same clause, too,
which is left out where there is nothing to compare. -/
theorem matching_agrees {σ α : Type} (repository : Repository σ α) (q : Query) (d : Dialect)
    (r : Record) :
    WrittenAlike r " WHERE " (q.matchText d 1 r) ((q.filtered (.matching r)).selectStatement d)
        ((q.filtered (.comparing r)).selectStatement d) ∧
      (∀ expression name, WrittenAlike r " WHERE " (q.matchText d 1 r)
        ((q.filtered (.matching r)).aggregateStatement d expression name)
        ((q.filtered (.comparing r)).aggregateStatement d expression name)) ∧
      WrittenAlike r " HAVING " (q.matchText d (1 + (q.storedOperands q.filter).length) r)
        ((q.groupsFiltered (.matching r)).selectStatement d)
        ((q.groupsFiltered (.comparing r)).selectStatement d) ∧
      ∀ o : CursorPageable, repository.SendsFiltered { o with filter := r, cursor := none } :=
  ⟨q.filtered_matching d r, fun expression name => q.aggregateStatement_matching d expression name r,
    q.groupsFiltered_matching d r, fun _ => repository.sendsFiltered rfl⟩

namespace Guild

def members : Table where
  name := "members"
  columns := [.primaryGenerated "id" .increment, { name := "active", type := .boolean }]

/-- The members with their teams. -/
def teamed : Query where
  table := members
  rename := some "m"
  joins := [⟨.left, "teams", "t", "t.id = m.team_id"⟩]

def repository : Repository Unit Record where
  connection := ⟨{ all _ := return .bare [], run _ := return {} }, .sqlite⟩
  registry := ⟨[(⟨1, "Member"⟩, members)]⟩
  entity := ⟨⟨1, "Member"⟩, members, id, .ok⟩
  table := members
  owner := .dataSource

/-- The active members of open teams. -/
def wanted : Record := .ofList [("active", .bool true), ("t.kind", .text "open")]

theorem wanted_matching_agrees :
    (teamed.filtered (.matching wanted)).selectStatement .postgres =
      .ok ⟨"SELECT * FROM members m LEFT JOIN teams t ON t.id = m.team_id " ++
        "WHERE m.active = $1 AND t.kind = $2", [.int 1, .text "open"]⟩ ∧
    WrittenAlike wanted " WHERE " "m.active = $1 AND t.kind = $2"
      ((teamed.filtered (.matching wanted)).selectStatement .postgres)
      ((teamed.filtered (.comparing wanted)).selectStatement .postgres) ∧
    ∃ st, (∀ db, (repository.recorded.findCursorPage { size := 20, filter := wanted } (db, [])).2.2 = [st]) ∧
      st.params = [.int 1, .text "open"] ∧
      st.sql = "SELECT * FROM members WHERE (active = ? AND t.kind = ?) ORDER BY id ASC LIMIT 21" := by
  obtain ⟨rows, -, -, page⟩ := matching_agrees repository teamed .postgres wanted
  obtain ⟨st, sends, params, text⟩ := (page { size := 20 }).sent "id" _ _ rfl rfl rfl
  exact ⟨rfl, rows, st, sends, params, text rfl⟩

end Guild

end EntityStore
