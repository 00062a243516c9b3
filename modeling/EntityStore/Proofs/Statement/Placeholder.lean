import EntityStore.Proofs.Statement.Spacing
import EntityStore.Table.Row

/-!
# Placeholders and parameters

The placeholders of a statement, read from left to right, are as many as its parameters, and where
they are numbered they are numbered in this order. The parameters are the stored forms of what was
handed over, in the order in which it stands in the statement.
-/

namespace EntityStore

open Sql

/-- The placeholders of `s` are in step with its parameters, which are the `values`. -/
structure Statement.Aligned (d : Dialect) (s : Statement) (values : List Value) : Prop where
  params : s.params = values
  /-- Without numbers there is a question mark for each parameter. -/
  marks : d.family ≠ .postgres →
    placeholders s.sql.toList = List.replicate values.length "?"
  /-- With numbers, the placeholders count the parameters. -/
  numbers : d.family = .postgres →
    placeholders s.sql.toList = (List.range' 1 values.length).map fun k => "$" ++ toString k

theorem Sql.Spaced.aligned {sql : Sql} (h : Spaced sql) {values : List Value}
    (hvalues : Sql.params sql = values) (d : Dialect) : (sql.statement d).Aligned d values := by
  have marks := placeholders_textFrom h d 1
  rw [hvalues] at marks
  refine ⟨hvalues, ?_, ?_⟩
  · intro unnumbered
    have question : ∀ number, d.placeholder number = "?" := by
      intro number
      cases d with
      | postgres => exact absurd rfl unnumbered
      | _ => rfl
    have same : d.placeholder = fun _ => "?" := funext question
    rw [Sql.statement, marks, same, List.map_const', List.length_range']
  · intro numbered
    have same : d.placeholder = fun k => "$" ++ toString k := by
      cases d with
      | postgres => rfl
      | _ => cases numbered
    rw [Sql.statement, marks, same]

/-! ## Statements that change rows -/

namespace Table

/-- The stored forms of the fields of `row`, in order. -/
def storedValues (t : Table) (row : Record) : List Value :=
  row.fields.map fun field => toStorage (t.column? field.1) field.2

/-- No name that `t` declares has a mark. -/
structure Unmarked (t : Table) : Prop where
  name : Sql.Unmarked t.name
  columns : ∀ c ∈ t.columns, Sql.Unmarked c.name

theorem map_snd_storedFields (t : Table) (row : Record) :
    (t.storedFields row).map Prod.snd = t.storedValues row := by
  rw [storedFields, storedValues, List.map_map]
  rfl

theorem map_fst_storedFields (t : Table) (row : Record) :
    (t.storedFields row).map Prod.fst = row.names := by
  rw [storedFields, Record.names, List.map_map]
  rfl

theorem column_eq_ok {t : Table} {name : String} {c : Column} (h : t.column name = .ok c) :
    c ∈ t.columns ∧ c.name = name := by
  unfold column at h
  split at h
  · rename_i found hfound
    cases h
    exact ⟨List.mem_of_find?_eq_some hfound, by simpa using List.find?_some hfound⟩
  · cases h

theorem checkNames_eq_ok {t : Table} {names : List String} (h : t.checkNames names = .ok ()) :
    ∀ name ∈ names, ∃ c ∈ t.columns, c.name = name := by
  induction names with
  | nil =>
    intro name hname
    cases hname
  | cons first rest ih =>
    rw [checkNames, Except.bind_eq_ok] at h
    obtain ⟨c, hc, hrest⟩ := h
    intro name hname
    rcases List.mem_cons.1 hname with rfl | hname
    · exact ⟨c, column_eq_ok hc⟩
    · exact ih hrest name hname

theorem Unmarked.names {t : Table} (h : t.Unmarked) {names : List String}
    (checked : t.checkNames names = .ok ()) : ∀ name ∈ names, Sql.Unmarked name := by
  intro name hname
  obtain ⟨c, hc, rfl⟩ := checkNames_eq_ok checked name hname
  exact h.columns c hc

end Table

/-! ## The parts of statements that change rows -/

theorem params_insertRow (table : String) (fields : List (String × Value)) :
    Sql.params (insertRow table fields) = fields.map Prod.snd := by
  have values : Sql.params (Sql.joined ", " (fields.map fun field => [.bound field.2])) =
      fields.map Prod.snd := by
    rw [params_joined, List.flatMap_map, List.map_eq_flatMap]
    rfl
  simp [insertRow, values]

theorem params_equations (between : String) (fields : List (String × Value)) :
    Sql.params (equations between fields) = fields.map Prod.snd := by
  rw [equations, params_joined, List.flatMap_map, List.map_eq_flatMap]
  rfl

section

variable {fields : List (String × Value)} (names : ∀ name ∈ fields.map Prod.fst, Sql.Unmarked name)

include names

theorem spaced_insertRow {table : String} (htable : Sql.Unmarked table) :
    Spaced (insertRow table fields) := by
  have head : Sql.Unmarked ("INSERT INTO " ++ table ++ " (" ++ ", ".intercalate (fields.map Prod.fst) ++
      ") VALUES (") := by
    have columns := unmarked_intercalate (show Sql.Unmarked ", " by decide) names
    simp only [unmarked_append]
    exact ⟨⟨⟨⟨by decide, htable⟩, by decide⟩, columns⟩, by decide⟩
  have places : Spaced (Sql.joined ", " (fields.map fun field => [.bound field.2])) := by
    have values := Condition.spaced_places (fields.map Prod.snd)
    rw [List.map_map] at values
    exact values
  have opened : Spaced ([.text ("INSERT INTO " ++ table ++ " (" ++
      ", ".intercalate (fields.map Prod.fst) ++ ") VALUES (")] ++
      Sql.joined ", " (fields.map fun field => [.bound field.2])) := ⟨head, places⟩
  have closing : Spaced [.text ")"] := ⟨by decide, trivial⟩
  exact opened.append closing (startsApart_text (by decide) [])

theorem spaced_equations {between : String} (unmarked : Sql.Unmarked between)
    (begins : BeginsApart between) : Spaced (equations between fields) := by
  refine Spaced.joined unmarked begins ?_
  intro part hpart
  obtain ⟨field, hfield, rfl⟩ := List.mem_map.1 hpart
  have name := names field.1 (List.mem_map_of_mem hfield)
  exact ⟨unmarked_append.2 ⟨name, by decide⟩, startsApart_nil, trivial⟩

end

theorem Dialect.beginsApart_onConflict (d : Dialect) (columns : List String) (primary : String) :
    BeginsApart (d.onConflict columns primary) := by
  have head : BeginsApart (d.conflictHead primary) := by
    have conflict : ∀ word, BeginsApart word → BeginsApart (word ++ primary ++ ") DO ") :=
      fun word begins => (begins.append _).append _
    cases d with
    | mysql => exact (by decide : BeginsApart " ON DUPLICATE KEY ")
    | postgres => exact conflict " ON CONFLICT (" (by decide)
    | _ => exact conflict " ON CONFLICT(" (by decide)
  unfold Dialect.onConflict
  split
  · exact head.append _
  · exact (head.append _).append _
  · exact (head.append _).append _

theorem Dialect.unmarked_onConflict (d : Dialect) {columns : List String} {primary : String}
    (hcolumns : ∀ name ∈ columns, Sql.Unmarked name) (hprimary : Sql.Unmarked primary) :
    Sql.Unmarked (d.onConflict columns primary) := by
  have head : Sql.Unmarked (d.conflictHead primary) := by
    unfold Dialect.conflictHead
    split
    · simp only [unmarked_append]
      exact ⟨⟨by decide, hprimary⟩, by decide⟩
    · simp only [unmarked_append]
      exact ⟨⟨by decide, hprimary⟩, by decide⟩
    · decide
  have inserted : ∀ column, Sql.Unmarked column → Sql.Unmarked (d.insertedValue column) := by
    intro column h
    unfold Dialect.insertedValue
    split
    · exact unmarked_append.2 ⟨by decide, h⟩
    · exact unmarked_append.2 ⟨by decide, h⟩
    · simp only [unmarked_append]
      exact ⟨⟨by decide, h⟩, by decide⟩
  have updates : ∀ updates, d.conflictUpdates? columns primary = some updates →
      ∀ s ∈ updates, Sql.Unmarked s := by
    intro updates h s hs
    unfold Dialect.conflictUpdates? at h
    split at h
    · cases h
      obtain rfl := List.mem_singleton.1 hs
      simp only [unmarked_append]
      exact ⟨⟨hprimary, by decide⟩, hprimary⟩
    · cases h
    · rename_i others _ heq _
      cases h
      obtain ⟨column, hcolumn, rfl⟩ := List.mem_map.1 hs
      have name := hcolumns column (List.mem_filter.1 hcolumn).1
      simp only [unmarked_append]
      exact ⟨⟨name, by decide⟩, inserted column name⟩
  unfold Dialect.onConflict
  split
  · exact unmarked_append.2 ⟨head, by decide⟩
  · rename_i list hlist _
    simp only [unmarked_append]
    exact ⟨⟨head, by decide⟩, unmarked_intercalate (by decide) (updates _ hlist)⟩
  · rename_i list hlist _
    simp only [unmarked_append]
    exact ⟨⟨head, by decide⟩, unmarked_intercalate (by decide) (updates _ hlist)⟩

/-! ## The statements -/

namespace Table

variable {t : Table} (h : t.Unmarked) (d : Dialect)

include h

theorem Unmarked.storedFields {row : Record} (checked : t.checkNames row.names = .ok ()) :
    ∀ name ∈ (t.storedFields row).map Prod.fst, Sql.Unmarked name := by
  rw [map_fst_storedFields]
  exact h.names checked

theorem insertStatement_aligned {row : Record} (names : ∀ name ∈ row.names, Sql.Unmarked name) :
    (t.insertStatement d row).Aligned d (t.storedValues row) := by
  unfold insertStatement
  split
  · rename_i empty
    have text : Sql.Unmarked (d.insertDefaults t.name) := by
      unfold Dialect.insertDefaults
      split
      · simp only [unmarked_append]
        exact ⟨⟨by decide, h.name⟩, by decide⟩
      · simp only [unmarked_append]
        exact ⟨⟨by decide, h.name⟩, by decide⟩
      · simp only [unmarked_append]
        exact ⟨⟨by decide, h.name⟩, by decide⟩
    have fields : row.fields = [] := List.isEmpty_iff.1 empty
    have spaced : Spaced [.text (d.insertDefaults t.name)] := ⟨text, trivial⟩
    have plain : Statement.plain (d.insertDefaults t.name) =
        Sql.statement d [.text (d.insertDefaults t.name)] := by
      simp [Statement.plain, Sql.statement, textFrom]
    rw [plain]
    exact spaced.aligned (by simp [storedValues, fields]) d
  · rw [← map_fst_storedFields t] at names
    refine (spaced_insertRow names h.name).aligned ?_ d
    rw [params_insertRow, map_snd_storedFields]

theorem insertStatements_aligned {rows : List Record} {statements : List Statement}
    (built : t.insertStatements d rows = .ok statements) :
    List.Forall₂ (fun row s => s.Aligned d (t.storedValues row)) rows statements := by
  rw [insertStatements, Except.bind_eq_ok] at built
  obtain ⟨_, checked, built⟩ := built
  cases built
  rw [List.forall₂_map_right_iff, List.forall₂_same]
  intro row hrow
  refine insertStatement_aligned h d fun name hname => h.names checked name ?_
  exact List.mem_flatMap_of_mem hrow hname

theorem updateStatement_aligned {u : Update} {s : Statement}
    (built : t.updateStatement d u = .ok s) :
    s.Aligned d (t.storedValues u.values ++ t.storedValues u.criteria) := by
  simp only [updateStatement, Except.bind_eq_ok] at built
  obtain ⟨_, checkedValues, _, checkedCriteria, built⟩ := built
  cases built
  have head : Sql.Unmarked ("UPDATE " ++ t.name ++ " SET ") := by
    simp only [unmarked_append]
    exact ⟨⟨by decide, h.name⟩, by decide⟩
  have values := spaced_equations (h.storedFields checkedValues) (show Sql.Unmarked ", " by decide)
    (by decide)
  have criteria := spaced_equations (h.storedFields checkedCriteria)
    (show Sql.Unmarked " AND " by decide) (by decide)
  have changed : Spaced ([.text ("UPDATE " ++ t.name ++ " SET ")] ++
      equations ", " (t.storedFields u.values)) := ⟨head, values⟩
  split
  · rename_i empty
    have none : u.criteria.fields = [] := List.isEmpty_iff.1 empty
    rw [List.append_nil]
    refine changed.aligned ?_ d
    simp [params_equations, map_snd_storedFields, storedValues, none]
  · have rows : Spaced (.text " WHERE " :: equations " AND " (t.storedFields u.criteria)) :=
      ⟨by decide, criteria⟩
    refine (changed.append rows (startsApart_text (by decide) _)).aligned ?_ d
    simp [params_equations, map_snd_storedFields]

theorem upsertStatement_aligned {primary : Column} (hprimary : primary ∈ t.columns) {row : Record}
    {s : Statement} (built : t.upsertStatement d primary row = .ok s) :
    s.Aligned d (t.storedValues row) := by
  rw [upsertStatement, Except.bind_eq_ok] at built
  obtain ⟨_, checked, built⟩ := built
  cases built
  have names := h.storedFields checked
  have conflict := d.unmarked_onConflict names (h.columns primary hprimary)
  have clause : Spaced [.text (d.onConflict ((t.storedFields row).map Prod.fst) primary.name)] :=
    ⟨conflict, trivial⟩
  refine ((spaced_insertRow names h.name).append clause
    (startsApart_text (d.beginsApart_onConflict _ _) [])).aligned ?_ d
  simp [params_insertRow, map_snd_storedFields]

theorem removeStatement_aligned {primary : Column} (hprimary : primary ∈ t.columns) (id : Value) :
    (t.removeStatement d primary id).Aligned d [toStorage (some primary) id] := by
  have head : Sql.Unmarked ("DELETE FROM " ++ t.name ++ " WHERE " ++ primary.name ++ " = ") := by
    simp only [unmarked_append]
    exact ⟨⟨⟨⟨by decide, h.name⟩, by decide⟩, h.columns primary hprimary⟩, by decide⟩
  have spaced : Spaced [.text ("DELETE FROM " ++ t.name ++ " WHERE " ++ primary.name ++ " = "),
    .bound (primary.toStorage id)] := ⟨head, startsApart_nil, trivial⟩
  exact spaced.aligned rfl d

end Table

/-- Every statement that is built has as many placeholders as parameters, in the same order, and its
parameters are the stored forms of what was handed over, in the order of the statement: in a query
the wanted rows come before the wanted groups, and in an update the new values before the criteria.
This holds if no text that is taken as it is has a mark in it. -/
theorem placeholders_aligned {q : Query} (hq : q.Unmarked) {t : Table} (ht : t.Unmarked)
    (d : Dialect) :
    (∀ s, q.selectStatement d = .ok s →
      s.Aligned d (q.storedOperands q.filter ++ q.storedOperands q.having)) ∧
    (∀ expression name s, Sql.Unmarked expression → Sql.Unmarked name →
      q.aggregateStatement d expression name = .ok s → s.Aligned d (q.storedOperands q.filter)) ∧
    (∀ rows statements, t.insertStatements d rows = .ok statements →
      List.Forall₂ (fun row s => s.Aligned d (t.storedValues row)) rows statements) ∧
    (∀ updates statements, t.updateStatements d updates = .ok statements →
      List.Forall₂ (fun u s => s.Aligned d (t.storedValues u.values ++ t.storedValues u.criteria))
        updates statements) ∧
    (∀ primary ∈ t.columns, ∀ row s, t.upsertStatement d primary row = .ok s →
      s.Aligned d (t.storedValues row)) ∧
    (∀ primary ∈ t.columns, ∀ id,
      (t.removeStatement d primary id).Aligned d [toStorage (some primary) id]) := by
  refine ⟨?_, ?_, ?_, ?_, ?_, ?_⟩
  · intro s built
    simp only [Query.selectStatement, Except.bind_eq_ok] at built
    obtain ⟨sql, hsql, built⟩ := built
    cases built
    have spaced := hq.spaced_select hsql
    obtain ⟨_, rfl⟩ := Query.selectSql_eq_ok hsql
    exact spaced.aligned (by simp) d
  · intro expression name s hexpression hname built
    simp only [Query.aggregateStatement, Except.bind_eq_ok] at built
    obtain ⟨sql, hsql, built⟩ := built
    cases built
    obtain ⟨valid, rfl⟩ := Query.aggregateSql_eq_ok hsql
    have head : Sql.Unmarked ("SELECT " ++ expression ++ " AS " ++ name ++ " FROM " ++ q.tableText) := by
      simp only [unmarked_append]
      exact ⟨⟨⟨⟨⟨by decide, hexpression⟩, by decide⟩, hname⟩, by decide⟩, hq.tableText⟩
    have rows := (hq.spaced_clause d " WHERE " (by decide) (by decide) q.filter valid).1
    have spaced : Spaced (.text ("SELECT " ++ expression ++ " AS " ++ name ++ " FROM " ++
      q.tableText) :: q.clauseInTerms d " WHERE " q.filter) := ⟨head, rows⟩
    exact spaced.aligned (by simp) d
  · intro rows statements built
    exact Table.insertStatements_aligned ht d built
  · intro updates statements built
    refine (Except.mapM_eq_ok built).imp fun u s hs => ?_
    exact Table.updateStatement_aligned ht d hs
  · intro primary hprimary row s built
    exact Table.upsertStatement_aligned ht d hprimary built
  · intro primary hprimary id
    exact Table.removeStatement_aligned ht d hprimary id

def persons : Table where
  name := "users"
  columns := [{ name := "name", type := .text }, { name := "active", type := .boolean }]

/-- The active persons, by name, of whom another table knows. -/
def knownPersons : Query where
  table := persons
  rename := some "u"
  filter := some (.condition (.both (.equal "active" (.bool true)) (.equal "k.source" (.text "a"))))
  joins := [⟨.left, "known", "k", "k.name = u.name"⟩]
  groups := ["u.name"]
  having := some (.condition (.oneOf "name" [.text "Ann", .text "Bob"]))
  limit := some 10

theorem persons_placeholders_aligned :
    knownPersons.Unmarked ∧ persons.Unmarked ∧
    (∃ s, knownPersons.selectStatement .postgres = .ok s ∧
      s.Aligned .postgres [.int 1, .text "a", .text "Ann", .text "Bob"]) ∧
    (∃ s, persons.updateStatements .postgres [⟨.ofList [("name", .text "Ann")],
        .ofList [("active", .bool false)]⟩] = .ok [s] ∧
      s.Aligned .postgres [.int 0, .text "Ann"]) := by
  have hq : knownPersons.Unmarked := ⟨by decide, by decide, by decide, by decide⟩
  have ht : persons.Unmarked := ⟨by decide, by decide⟩
  have aligned := placeholders_aligned hq ht .postgres
  refine ⟨hq, ht, ⟨_, rfl, aligned.1 _ rfl⟩, ⟨_, rfl, ?_⟩⟩
  cases aligned.2.2.2.1 [⟨.ofList [("name", .text "Ann")], .ofList [("active", .bool false)]⟩] _ rfl with
  | cons first _ => exact first

end EntityStore
