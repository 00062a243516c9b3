import EntityStore.Proofs.Condition.Reading
import EntityStore.Proofs.Statement.Clauses

/-!
# Conditions in statements that read

The filters of a query stand in its statement as texts that mean what the filters mean. The name
under which a query uses its table is written before every column of it, and it is not checked, so
this needs a name that reads as one.
-/

namespace EntityStore

open Sql

namespace Condition

/-- A condition means the same in the terms of `q` and in the terms of the database. -/
theorem truth_inTerms (q : Query) (d : Dialect) (compares : Comparison → Value → Value → Truth)
    (row : String → Value) (c : Condition) :
    (c.inTerms q).truth (.inDatabase d compares row) = c.truth (q.meaning d compares row) := by
  rw [inTerms, truth_replaced]
  rfl

end Condition

theorem Filter.truth_matching (m : Meaning) (r : Record) :
    (Filter.matching r).truth m = .all (r.equations.map (Condition.truth m)) := by
  rw [truth, Record.equations, List.map_map]
  rfl

namespace Query

/-- A name is written as a name if the table is used under one. -/
theorem isName_columnText {q : Query} (rename : ∀ table ∈ q.rename, isName table.toList = true)
    {name : String} (h : isName name.toList = true) : isName (q.columnText name).toList = true := by
  unfold columnText
  split
  · rename_i table used
    split
    · have qualified := isName_append (rename table used) h
      simpa using qualified
    · exact h
  · exact h

variable {q : Query} (rename : ∀ table ∈ q.rename, isName table.toList = true)

include rename

theorem readsBack_inTerms (d : Dialect) (c : Condition)
    (names : ∀ name ∈ c.columns, isName name.toList = true) : (c.inTerms q).ReadsBack d := by
  refine Condition.readsBack d _ ?_
  intro text htext
  rw [Condition.inTerms, Condition.columns_replaced] at htext
  obtain ⟨name, hname, rfl⟩ := List.mem_map.1 htext
  exact isName_columnText rename (names name hname)

/-- The text of `f` reads as tokens that are a predicate, whatever comes after them but a further
joint, and the predicate says of every row what `f` says. -/
theorem reads_sqlInTerms (d : Dialect) (f : Filter)
    (names : ∀ name ∈ f.columns, isName name.toList = true) :
    ∃ ts p, Reads d (f.sqlInTerms d q) ts ∧
      (∀ after fuel, (∀ t ∈ after.head?, t.isAnd = false ∧ t.isOr = false) → ts.length ≤ fuel →
        disjunction (operand fuel) fuel (ts ++ after) = some (p, after)) ∧
      ∀ compares row, p.truth compares row = f.truth (q.meaning d compares row) := by
  cases f with
  | condition c =>
    obtain ⟨ts, p, reads, parses, agrees⟩ := readsBack_inTerms rename d c names
    refine ⟨ts, p, reads, fun after fuel ends enough => ?_, ?_⟩
    · exact Condition.disjunction_operand parses ends enough
    · intro compares row
      rw [agrees, Condition.truth_inTerms, Filter.truth]
  | matching r =>
    cases fields : r.equations with
    | nil =>
      obtain ⟨reads, parses⟩ := Condition.reads_constant (s := "1 = 1") (a := 1) (b := 1) d rfl
      have always : Filter.sqlInTerms d q (.matching r) = [.text "1 = 1"] := by
        simp [Filter.sqlInTerms, fields, Sql.always]
      rw [always]
      refine ⟨_, .same 1 1, reads, fun after fuel ends enough => ?_, ?_⟩
      · exact Condition.disjunction_operand parses ends enough
      · intro compares row
        have none : r.fields = [] := by simpa [Record.equations] using fields
        simp [Filter.truth, none, Predicate.truth, Truth.ofBool]
    | cons c conditions =>
      have each : ∀ o ∈ c.inTerms q :: conditions.map (Condition.inTerms q), o.ReadsBack d := by
        rw [← List.map_cons, ← fields]
        intro o ho
        obtain ⟨source, hsource, rfl⟩ := List.mem_map.1 ho
        refine readsBack_inTerms rename d source fun name hname => names name ?_
        exact List.mem_flatMap_of_mem hsource hname
      obtain ⟨part, parts, reads, parses, agrees⟩ :=
        Condition.reads_joined each tokens?_and rfl (by decide) (by decide)
      have joined : Filter.sqlInTerms d q (.matching r) = Sql.joined " AND "
          (Condition.sqlOfEach d (c.inTerms q :: conditions.map (Condition.inTerms q))) := by
        simp [Filter.sqlInTerms, fields]
      rw [joined]
      refine ⟨_, .joinAll .both part.2 (parts.map Prod.snd), reads, ?_, ?_⟩
      · intro after fuel ends enough
        exact disjunction_conjunction part parts parses ends enough
      · intro compares row
        rw [Predicate.truth_joinAll_both, agrees, Filter.truth_matching, fields]
        simp [Condition.truth_inTerms, Function.comp_def]

/-- The text of `f` is read back wherever it stands in a statement. -/
theorem read?_sqlInTerms (d : Dialect) (f : Filter)
    (names : ∀ name ∈ f.columns, isName name.toList = true) (before after : List Value) :
    ∃ p, Predicate.read? (textFrom d (before.length + 1) (f.sqlInTerms d q))
        (before ++ q.storedOperands (some f) ++ after) before.length = some p ∧
      ∀ compares row, p.truth compares row = f.truth (q.meaning d compares row) := by
  obtain ⟨ts, p, reads, parses, agrees⟩ := reads_sqlInTerms rename d f names
  obtain ⟨raw, tokens, filled⟩ := reads before after
  refine ⟨p, ?_, agrees⟩
  have whole := filled []
  rw [List.append_nil, params_sqlInTerms] at whole
  have parsed := parses [] ts.length (by simp) le_rfl
  rw [List.append_nil] at parsed
  rw [Predicate.read?, tokens]
  simp only [Option.bind_eq_bind, Option.bind_some, whole, fill?, Option.map_some, List.append_nil,
    predicate?, parsed]

end Query

/-! ## The filters of a statement -/

namespace Query

/-- A fragment of a statement that was built with `params` means what a filter means, the text
before it having `taken` a number of them; where there is no filter there is no fragment. -/
def Means (q : Query) (d : Dialect) (params : List Value) (taken : Nat) :
    Option Filter → Option String → Prop
  | none, none => True
  | some f, some fragment => ∃ p, Predicate.read? fragment params taken = some p ∧
      ∀ compares row, p.truth compares row = f.truth (q.meaning d compares row)
  | _, _ => False

/-- The text of a clause around a fragment. -/
def clauseText (word : String) : Option String → String
  | none => ""
  | some fragment => word ++ fragment

theorem means_clauseInTerms {q : Query} (rename : ∀ table ∈ q.rename, isName table.toList = true)
    (d : Dialect) (word : String) (filter : Option Filter)
    (names : ∀ f ∈ filter, ∀ name ∈ f.columns, isName name.toList = true)
    (before after : List Value) :
    ∃ fragment, textFrom d (before.length + 1) (q.clauseInTerms d word filter) =
        clauseText word fragment ∧
      q.Means d (before ++ q.storedOperands filter ++ after) before.length filter fragment := by
  cases filter with
  | none => exact ⟨none, rfl, trivial⟩
  | some f =>
    exact ⟨some _, rfl, read?_sqlInTerms rename d f (names f rfl) before after⟩

/-- The filters of a query are read back from its statements as predicates that say of every row
what the filters say, whatever the comparisons mean: from the statement of the query, in which the
wanted rows come before the wanted groups, and from that of an aggregate. Conditions themselves are
conjunctions, disjunctions and negations of what they are put together from; without parts, the
first hold and the others do not. -/
theorem conditions_read_back {q : Query} {d : Dialect}
    (rename : ∀ table ∈ q.rename, isName table.toList = true)
    (free : ∀ f, f ∈ q.filter ∨ f ∈ q.having → ∀ name ∈ f.columns, FreeOfKeywords name) :
    (∀ s, q.selectStatement d = .ok s → ∃ rows groups,
      s.sql = q.head ++ textFrom d 1 q.joinClauses ++ clauseText " WHERE " rows ++
        textFrom d 1 q.groupText ++ clauseText " HAVING " groups ++ textFrom d 1 q.orderText ∧
      q.Means d s.params 0 q.filter rows ∧
      q.Means d s.params (q.storedOperands q.filter).length q.having groups) ∧
    (∀ expression name s, q.aggregateStatement d expression name = .ok s → ∃ rows,
      s.sql = "SELECT " ++ expression ++ " AS " ++ name ++ " FROM " ++ q.tableText ++
        clauseText " WHERE " rows ∧
      q.Means d s.params 0 q.filter rows) ∧
    (∀ m column a b, (Condition.all []).truth m = .yes ∧ (Condition.any []).truth m = .no ∧
      (Condition.oneOf column []).truth m = .no ∧
      (Condition.both a b).truth m = (a.truth m).and (b.truth m) ∧
      (Condition.either a b).truth m = (a.truth m).or (b.truth m) ∧
      (Condition.not a).truth m = (a.truth m).not) := by
  have names : ∀ f, f ∈ q.filter ∨ f ∈ q.having →
      (∀ name ∈ f.columns, Identifier.isValid name false = true) →
      ∀ name ∈ f.columns, isName name.toList = true := by
    intro f hf valid name hname
    exact (isName_iff name).2 ⟨valid name hname, free f hf name hname⟩
  refine ⟨?_, ?_, ?_⟩
  · intro s h
    simp only [selectStatement, Except.bind_eq_ok] at h
    obtain ⟨sql, hsql, h⟩ := h
    obtain ⟨valid, rfl⟩ := selectSql_eq_ok hsql
    cases h
    obtain ⟨rows, rowsText, rowsMean⟩ := means_clauseInTerms rename d " WHERE " q.filter
      (fun f hf => names f (Or.inl hf) (valid.filters f (Or.inl hf))) [] (q.storedOperands q.having)
    obtain ⟨groups, groupsText, groupsMean⟩ := means_clauseInTerms rename d " HAVING " q.having
      (fun f hf => names f (Or.inr hf) (valid.filters f (Or.inr hf))) (q.storedOperands q.filter) []
    refine ⟨rows, groups, ?_, ?_, ?_⟩
    · have start : 1 + (q.storedOperands q.filter).length =
          (q.storedOperands q.filter).length + 1 := by
        omega
      have groupNumber := textFrom_of_params_eq_nil (d := d) q.params_groupText
        ((q.storedOperands q.filter).length + 1) 1
      have orderNumber := textFrom_of_params_eq_nil (d := d) q.params_orderText
        ((q.storedOperands q.filter).length + 1 + (q.storedOperands q.having).length) 1
      rw [List.length_nil, Nat.zero_add] at rowsText
      simp only [Sql.statement, textFrom, textFrom_append, params_joinClauses, params_clauseInTerms,
        params_groupText, List.length_nil, Nat.add_zero, start, rowsText, groupsText, groupNumber,
        orderNumber, String.append_assoc]
    · simpa [Sql.statement] using rowsMean
    · simpa [Sql.statement] using groupsMean
  · intro expression name s h
    simp only [aggregateStatement, Except.bind_eq_ok] at h
    obtain ⟨sql, hsql, h⟩ := h
    obtain ⟨valid, rfl⟩ := aggregateSql_eq_ok hsql
    cases h
    obtain ⟨rows, rowsText, rowsMean⟩ := means_clauseInTerms rename d " WHERE " q.filter
      (fun f hf => names f (Or.inl hf) (valid f hf)) [] []
    refine ⟨rows, ?_, ?_⟩
    · simp only [Sql.statement, textFrom, ← rowsText]
      simp [String.append_assoc]
    · simpa [Sql.statement] using rowsMean
  · intro m column a b
    refine ⟨rfl, rfl, rfl, Condition.truth_both m a b, Condition.truth_either m a b, rfl⟩

/-- The ages that occur among persons who are neither minors nor on an empty list of names. -/
def adults : Query where
  table := {
    name := "users"
    columns := [{ name := "name", type := .text }, { name := "age", type := .integer }] }
  rename := some "u"
  filter := some (.condition (.not (.any [.between "age" (.int 0) (.int 17), .oneOf "name" []])))
  groups := ["age"]
  having := some (.condition (.compare .gt "u.age" (.int 20)))

theorem adults_conditions_read_back :
    (∀ table ∈ adults.rename, isName table.toList = true) ∧
    (∀ f, f ∈ adults.filter ∨ f ∈ adults.having → ∀ name ∈ f.columns, FreeOfKeywords name) ∧
    ∃ s rows groups, adults.selectStatement .postgres = .ok s ∧
      adults.Means .postgres s.params 0 adults.filter (some rows) ∧
      adults.Means .postgres s.params 2 adults.having (some groups) := by
  have rename : ∀ table ∈ adults.rename, isName table.toList = true := by decide
  have free : ∀ f, f ∈ adults.filter ∨ f ∈ adults.having →
      ∀ name ∈ f.columns, FreeOfKeywords name := by
    rintro f (hf | hf)
    · obtain rfl := Option.some.inj hf
      decide
    · obtain rfl := Option.some.inj hf
      decide
  have built : adults.selectStatement .postgres = .ok
      ⟨"SELECT * FROM users u WHERE NOT (u.age BETWEEN $1 AND $2 OR 1 = 0)" ++
        " GROUP BY u.age HAVING u.age > $3", [.int 0, .int 17, .int 20]⟩ := by
    rfl
  obtain ⟨rows, groups, _, rowsMean, groupsMean⟩ := (conditions_read_back rename free).1 _ built
  cases rows with
  | none => exact rowsMean.elim
  | some rows =>
    cases groups with
    | none => exact groupsMean.elim
    | some groups => exact ⟨rename, free, _, rows, groups, built, rowsMean, groupsMean⟩

/-- The rows of persons with a name, where the table is used under a name that is none. -/
def misnamed : Query where
  table := { name := "users", columns := [{ name := "name", type := .text }] }
  rename := some "1 = 1 OR u"
  filter := some (.condition (.equal "name" (.text "Ann")))

/-- The name under which a query uses its table is not checked: a condition that is written with it
may hold of every row. -/
theorem misnamed_condition_misread :
    (∀ f, f ∈ misnamed.filter ∨ f ∈ misnamed.having → ∀ name ∈ f.columns, FreeOfKeywords name) ∧
    misnamed.selectStatement .sqlite = .ok
      ⟨"SELECT * FROM users 1 = 1 OR u WHERE 1 = 1 OR u.name = ?", [.text "Ann"]⟩ ∧
    ¬ misnamed.Means .sqlite [.text "Ann"] 0 misnamed.filter (some "1 = 1 OR u.name = ?") := by
  refine ⟨?_, by rfl, ?_⟩
  · rintro f (hf | hf)
    · obtain rfl := Option.some.inj hf
      decide
    · cases hf
  · rintro ⟨p, read, agrees⟩
    have always : Predicate.read? "1 = 1 OR u.name = ?" [.text "Ann"] 0 =
        some (.either (.same 1 1) (.compare .eq "u.name" (.text "Ann"))) := by
      rfl
    obtain rfl := Option.some.inj (always.symm.trans read)
    have differ := agrees (fun _ _ _ => .no) fun _ => .null
    exact absurd differ (by decide)

end Query

end EntityStore
