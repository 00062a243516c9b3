import EntityStore.Proofs.Query.Refusal
import EntityStore.Proofs.Statement.Qualifier

/-!
# Totals and the joins of a query

Aggregates are formed with the filter of a query, but without its joins. So the statement of an
aggregate introduces the qualifier of the query's own table, and none of those of joined tables.
-/

namespace EntityStore

open Sql

namespace Query

variable {q : Query}

/-! ## Names that a query introduces -/

/-- A `table`, perhaps in a schema, is referred to by the name `x`. -/
def Named (table x : String) : Prop := x = table ∨ ∃ schema, table = schema ++ "." ++ x

/-- A table that is in no schema is referred to by its name only. -/
theorem named_iff_of_plain {table : String} (plain : '.' ∉ table.toList) (x : String) :
    Named table x ↔ x = table := by
  constructor
  · rintro (same | ⟨schema, rfl⟩)
    · exact same
    · exact absurd (by simp) plain
  · exact .inl

/-- The query introduces the name `x` for its table or for one that it joins. -/
def Introduces (q : Query) (x : String) : Prop := Named q.root x ∨ ∃ j ∈ q.joins, Named j.name x

/-- Every qualifier in the text of the wanted rows is introduced by the query. -/
def WellScoped (q : Query) (d : Dialect) : Prop :=
  ∀ rows, q.whereClause d = .ok rows → ∀ x ∈ qualifiers (textFrom d 1 rows), q.Introduces x

/-- The qualifiers that the filter of the wanted rows uses. -/
def rowQualifiers (q : Query) : List String :=
  (q.filter.elim [] Filter.written).flatMap fun name => (qualifier? name.toList).toList

/-- The query of which an aggregate is the statement: one `expression` over the wanted rows of the
table alone. -/
def aggregated (q : Query) (expression name : String) : Query :=
  { table := q.table, rename := q.rename, selected := [expression ++ " AS " ++ name],
    filter := q.filter }

theorem aggregateStatement_eq (q : Query) (d : Dialect) (expression name : String) :
    q.aggregateStatement d expression name = (q.aggregated expression name).selectStatement d := by
  have table : (q.aggregated expression name).tableText = q.tableText := rfl
  have rows : (q.aggregated expression name).whereClause d = q.whereClause d := rfl
  rw [aggregateStatement, aggregateSql, selectStatement, selectSql, table, rows]
  cases q.whereClause d with
  | error e => rfl
  | ok rows =>
    simp [aggregated, groupClause, orderClause, filterClause, listClause, numberClause,
      String.append_assoc]

/-- The text of the wanted rows has the qualifiers that the filter uses, and that of the table of
the query besides them at most. So a query introduces all of them if and only if it introduces those
that the filter uses. -/
theorem wellScoped_iff (rename : ∀ name ∈ q.rename, Identifier.isValid name false = true)
    {d : Dialect} {rows : Sql} (accepted : q.whereClause d = .ok rows) :
    q.WellScoped d ↔ ∀ x ∈ q.rowQualifiers, q.Introduces x := by
  have own : q.Introduces q.root := .inl (.inl rfl)
  obtain ⟨valid, rfl⟩ := filterClause_eq_ok accepted
  have text : Mentions d (q.clauseInTerms d " WHERE " q.filter)
      ((q.filter.elim [] Filter.written).flatMap fun name =>
        (qualifier? (q.columnText name).toList).toList) := by
    cases filter : q.filter with
    | none => exact fun _ => (by decide : qualifiers "" = [])
    | some f =>
      exact .after_text (by decide) (by decide) (mentions_sqlInTerms rename d (valid f filter))
  -- the qualifiers of the text are those of the names as they are written
  rw [rowQualifiers, ← forall_qualifier_columnText own, ← text 1]
  constructor
  · intro introduced
    exact introduced _ accepted
  · intro each rows again
    cases accepted.symm.trans again
    exact each

/-- The stored forms of operands depend on the table and on the name under which it is used. -/
theorem storedOperands_congr (q q' : Query) (table : q.table = q'.table) (root : q.root = q'.root)
    (filter : Option Filter) : q.storedOperands filter = q'.storedOperands filter := by
  have column : ∀ name, q.columnOf? name = q'.columnOf? name := by
    intro name
    rw [columnOf?, columnOf?, table, root]
  rw [storedOperands, storedOperands]
  simp only [column]

/-- The values that the statement of a query binds: those of the wanted rows come before those of
the wanted groups. -/
theorem params_selectStatement {d : Dialect} {s : Statement} (built : q.selectStatement d = .ok s) :
    s.params = q.storedOperands q.filter ++ q.storedOperands q.having := by
  simp only [selectStatement, Except.bind_eq_ok] at built
  obtain ⟨sql, hsql, built⟩ := built
  obtain ⟨-, rfl⟩ := selectSql_eq_ok hsql
  cases built
  simp [Sql.statement]

/-- A query without joins introduces its table only. -/
theorem introduces_iff_of_no_joins (alone : q.joins = []) (x : String) :
    q.Introduces x ↔ Named q.root x := by
  simp [Introduces, alone]

/-- An aggregate over the rows of a query binds the values of the wanted rows, whether the table is
used under a name or not. -/
theorem aggregateStatement_params {q' : Query} (table : q.table = q'.table)
    (root : q.root = q'.root) (filter : q.filter = q'.filter) {d : Dialect} {s : Statement}
    (built : q.selectStatement d = .ok s) (expression name : String) :
    ∃ a, q'.aggregateStatement d expression name = .ok a ∧
      s.params = a.params ++ q.storedOperands q.having := by
  obtain ⟨a, aggregates⟩ := aggregateStatement_accepted table root filter built expression name
  refine ⟨a, aggregates, ?_⟩
  rw [aggregateStatement_eq] at aggregates
  have none : (q'.aggregated expression name).storedOperands
      (q'.aggregated expression name).having = [] := rfl
  rw [params_selectStatement built, params_selectStatement aggregates, none, List.append_nil,
    storedOperands_congr q (q'.aggregated expression name) table root, filter]
  rfl

/-- Where a query has no joins, its filter may use no qualifier but that of its table. -/
theorem wellScoped_iff_of_no_joins (alone : q.joins = [])
    (rename : ∀ name ∈ q.rename, Identifier.isValid name false = true) {d : Dialect} {rows : Sql}
    (accepted : q.whereClause d = .ok rows) :
    q.WellScoped d ↔ ∀ x ∈ q.rowQualifiers, Named q.root x := by
  simp only [wellScoped_iff rename accepted, introduces_iff_of_no_joins alone]

end Query

/-- A filter is written alike in the statement of a query and in that of an aggregate, and it binds
the same values, but the aggregate does without the joins. So the query is well scoped if and only
if the filter uses no qualifier but those of its table and of the joined ones, and the aggregate if
and only if it uses that of the table alone. This holds of the queries that find members of an
entity, too, and of the statement that counts them. -/
theorem aggregates_wellScoped_iff {d : Dialect} :
    (∀ (q : Query) (s : Statement), (∀ name ∈ q.rename, Identifier.isValid name false = true) →
      q.selectStatement d = .ok s →
      (q.WellScoped d ↔ ∀ x ∈ q.rowQualifiers, q.Introduces x) ∧
      ∀ expression name, ∃ a, q.aggregateStatement d expression name = .ok a ∧
        (q.aggregated expression name).selectStatement d = .ok a ∧
        s.params = a.params ++ q.storedOperands q.having ∧
        ((q.aggregated expression name).WellScoped d ↔
          ∀ x ∈ q.rowQualifiers, Query.Named q.root x)) ∧
    (∀ {σ α : Type} (r : Repository σ α) (o : FindOptions) (q : Query) (s : Statement),
      (o.relations ≠ [] → Identifier.isValid r.table.name false = true) →
      r.findQuery o = .ok q → q.selectStatement d = .ok s →
      (q.WellScoped d ↔ ∀ x ∈ q.rowQualifiers, q.Introduces x) ∧
      ∃ a, (r.counted o.filter).countStatement d = .ok a ∧ s.params = a.params ∧
        ((r.counted o.filter).WellScoped d ↔
          ∀ x ∈ q.rowQualifiers, Query.Named r.table.name x)) := by
  constructor
  · intro q s rename built
    obtain ⟨rows, accepted⟩ := Query.whereClause_accepted built
    refine ⟨Query.wellScoped_iff rename accepted, fun expression name => ?_⟩
    obtain ⟨a, aggregates, params⟩ :=
      Query.aggregateStatement_params rfl rfl rfl built expression name
    have statement := aggregates
    rw [Query.aggregateStatement_eq] at statement
    exact ⟨a, aggregates, statement, params,
      Query.wellScoped_iff_of_no_joins (q := q.aggregated expression name) rfl rename accepted⟩
  · intro σ α r o q s named found built
    obtain ⟨rows, accepted⟩ := Query.whereClause_accepted built
    obtain ⟨selected, joins, rfl⟩ := Repository.findQuery_eq_ok found
    have rename : ∀ name ∈ (if o.relations.isEmpty then none else some r.table.name),
        Identifier.isValid name false = true := by
      cases relations : o.relations with
      | nil => rintro name ⟨⟩
      | cons property rest =>
        rintro name ⟨⟩
        exact named (by simp [relations])
    refine ⟨Query.wellScoped_iff rename accepted, ?_⟩
    have total : ∃ a, (r.counted o.filter).countStatement d = .ok a ∧
        s.params = a.params ++ [] := by
      refine Query.aggregateStatement_params ?table ?root ?filter built "COUNT(*)" "count"
      case table => rfl
      case root => cases o.relations <;> rfl
      case filter => rfl
    obtain ⟨a, counts, params⟩ := total
    have statement := counts
    rw [Query.countStatement, Query.aggregateStatement_eq] at statement
    obtain ⟨counted, acceptedCount⟩ := Query.whereClause_accepted statement
    refine ⟨a, counts, by rw [params, List.append_nil], ?_⟩
    exact Query.wellScoped_iff_of_no_joins (q := r.counted o.filter) rfl (by rintro name ⟨⟩)
      acceptedCount

namespace Library

def posts : Table where
  name := "posts"
  columns := [
    { name := "id", type := .integer, primary := true }, { name := "title", type := .text },
    { name := "authorId", type := .integer }]

def authors : Table where
  name := "authors"
  columns := [
    { name := "id", type := .integer, primary := true }, { name := "name", type := .text }]
  relations := [
    { property := "posts", kind := .oneToMany, target := ⟨2, "Post"⟩, inverseSide := some "author" }]

def repository : Repository Unit Record where
  connection := ⟨{ all := fun _ => return .bare [], run := fun _ => return {} }, .sqlite⟩
  registry := ⟨[(⟨1, "Author"⟩, authors), (⟨2, "Post"⟩, posts)]⟩
  entity := ⟨⟨1, "Author"⟩, authors, id, .ok⟩
  table := authors
  owner := .dataSource

/-- Authors of some name, with their posts. -/
def called : FindOptions where
  filter := some (.condition (.both (.equal "name" (.text "Ann")) (.isNotNull "authors.id")))
  relations := ["posts"]

/-- Authors of some name, joined by hand with their posts. -/
def joined : Query :=
  (({ table := authors : Query }.renamed "a").join .left "posts" "p" "p.authorId = a.id").filtered
    (.condition (.both (.equal "name" (.text "Ann")) (.isNotNull "a.id")))

theorem called_aggregates_wellScoped :
    ((∀ name ∈ joined.rename, Identifier.isValid name false = true) ∧
      ∃ s, joined.selectStatement .postgres = .ok s ∧ joined.WellScoped .postgres ∧
        (joined.aggregated "SUM(id)" "value").WellScoped .postgres) ∧
    (called.relations ≠ [] → Identifier.isValid repository.table.name false = true) ∧
    ∃ q s, repository.findQuery called = .ok q ∧ q.selectStatement .postgres = .ok s ∧
      q.WellScoped .postgres ∧ (repository.counted called.filter).WellScoped .postgres := by
  have rename : ∀ name ∈ joined.rename, Identifier.isValid name false = true := by decide
  have built : joined.selectStatement .postgres = .ok
      ⟨"SELECT * FROM authors a LEFT JOIN posts p ON p.authorId = a.id" ++
        " WHERE (a.name = $1 AND a.id IS NOT NULL)", [.text "Ann"]⟩ := by
    rfl
  obtain ⟨selects, aggregates⟩ := aggregates_wellScoped_iff.1 joined _ rename built
  obtain ⟨_, _, _, _, sums⟩ := aggregates "SUM(id)" "value"
  have named : called.relations ≠ [] → Identifier.isValid repository.table.name false = true := by
    decide
  obtain ⟨q, found, s, statement, own⟩ : ∃ q, repository.findQuery called = .ok q ∧
      ∃ s, q.selectStatement .postgres = .ok s ∧
        q.root = "authors" ∧ ∀ x ∈ q.rowQualifiers, x = "authors" :=
    ⟨_, rfl, _, rfl, by decide⟩
  obtain ⟨finds, _, _, _, counts⟩ := aggregates_wellScoped_iff.2 repository called q s named found
    statement
  have written : ∀ x ∈ joined.rowQualifiers, x = joined.root := by decide
  refine ⟨⟨rename, _, built, ?_, ?_⟩, named, q, s, found, statement, ?_, ?_⟩
  · exact selects.2 fun x hx => .inl (.inl (written x hx))
  · exact sums.2 fun x hx => .inl (written x hx)
  · exact finds.2 fun x hx => .inl (.inl ((own.2 x hx).trans own.1.symm))
  · exact counts.2 fun x hx => .inl (own.2 x hx)

/-- Authors of posts with a title, with their posts. -/
def titled : FindOptions where
  filter := some (.condition (.equal "posts.title" (.text "Dune")))
  relations := ["posts"]

/-- The members are found, and counting them refers to a table that the statement does not read. -/
theorem titled_count_out_of_scope :
    ∃ q, repository.findQuery titled = .ok q ∧
      q.selectStatement .sqlite = .ok
        ⟨"SELECT authors.*, posts.* FROM authors authors LEFT JOIN posts posts" ++
          " ON posts.authorId = authors.id WHERE posts.title = ?", [.text "Dune"]⟩ ∧
      q.WellScoped .sqlite ∧
      (repository.counted titled.filter).countStatement .sqlite = .ok
        ⟨"SELECT COUNT(*) AS count FROM authors WHERE posts.title = ?", [.text "Dune"]⟩ ∧
      ¬ (repository.counted titled.filter).WellScoped .sqlite := by
  refine ⟨_, rfl, rfl, ?_, rfl, ?_⟩
  · intro rows accepted x hx
    cases accepted
    have join : x = "posts" := by
      revert x
      decide
    exact .inr ⟨_, List.mem_singleton_self _, .inl join⟩
  · intro scope
    rcases scope _ rfl "posts" (by decide) with own | ⟨j, hj, -⟩
    · exact absurd ((Query.named_iff_of_plain (by decide) _).1 own) (by decide)
    · cases hj

end Library

end EntityStore
