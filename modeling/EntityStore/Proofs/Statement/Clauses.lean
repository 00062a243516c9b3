import EntityStore.Proofs.Condition.Stored
import EntityStore.Query.Select

/-!
# The clauses of a statement that reads

A statement of a query is its head, the joins, the wanted rows, the groups, the wanted groups, the
order and the bounds, in this order. Only the two clauses with a filter have bound values: the
operands of the filter in their stored forms.
-/

namespace EntityStore

namespace Sql

@[simp] theorem params_cons_text (s : String) (sql : Sql) : params (.text s :: sql) = params sql :=
  rfl

@[simp] theorem params_cons_bound (v : Value) (sql : Sql) :
    params (.bound v :: sql) = v :: params sql := rfl

@[simp] theorem params_nil : params [] = [] := rfl

/-- A text without places for values does not depend on where the numbers of placeholders start. -/
theorem textFrom_of_params_eq_nil {d : Dialect} {sql : Sql} (h : params sql = []) (m n : Nat) :
    textFrom d m sql = textFrom d n sql := by
  induction sql with
  | nil => rfl
  | cons piece rest ih =>
    cases piece with
    | text s => rw [textFrom, textFrom, ih h]
    | bound v => cases h

theorem params_joined (between : String) (parts : List Sql) :
    params (joined between parts) = parts.flatMap params := by
  induction parts with
  | nil => rfl
  | cons part rest ih =>
    cases rest with
    | nil => simp [joined]
    | cons next rest =>
      simp only [joined, List.intercalate_cons_cons, params_append] at ih ⊢
      simp [ih]

end Sql

/-! ## The values of conditions -/

namespace Condition

/-- The bound values of `c` are its operands, in reading order. -/
theorem params_sql (d : Dialect) (c : Condition) :
    Sql.params (c.sql d) = c.operands.map Prod.snd := by
  induction c with
  | compare comparison column operand => rfl
  | oneOf column operands =>
    cases operands with
    | nil => rfl
    | cons v vs =>
      have values := Sql.params_joined ", " ((v :: vs).map fun v => [.bound v])
      simp only [sql, Sql.params_append, values]
      simp [operands, leaves, leafOperands, List.flatMap_map, List.flatMap_singleton',
        Function.comp_def]
  | between column least greatest => rfl
  | isNull column => rfl
  | isNotNull column => rfl
  | all conditions ih =>
    cases conditions with
    | nil => rfl
    | cons c rest =>
      simp only [sql, Sql.params_append, sqlOfEach_eq_map, Sql.params_joined, operands_all,
        List.map_flatMap, List.flatMap_map]
      simpa using List.flatMap_congr ih
  | any conditions ih =>
    cases conditions with
    | nil => rfl
    | cons c rest =>
      simp only [sql, Sql.params_append, sqlOfEach_eq_map, Sql.params_joined, operands_any,
        List.map_flatMap, List.flatMap_map]
      simpa using List.flatMap_congr ih
  | not c ih =>
    rw [operands_not, ← ih, sql]
    split <;> simp

end Condition

namespace Query

/-- The stored forms of the operands of `filter`, in reading order. -/
def storedOperands (q : Query) (filter : Option Filter) : List Value :=
  (filter.elim [] Filter.operands).map fun operand => toStorage (q.columnOf? operand.1) operand.2

theorem params_inTerms (q : Query) (d : Dialect) (c : Condition) :
    Sql.params ((c.inTerms q).sql d) =
      c.operands.map fun operand => toStorage (q.columnOf? operand.1) operand.2 := by
  rw [Condition.params_sql, Condition.inTerms, Condition.operands_replaced, List.map_map]
  rfl

/-- The bound values of `f` are its operands in their stored forms. -/
theorem params_sqlInTerms (q : Query) (d : Dialect) (f : Filter) :
    Sql.params (f.sqlInTerms d q) = q.storedOperands (some f) := by
  cases f with
  | condition c => exact params_inTerms q d c
  | matching r =>
    rw [Filter.sqlInTerms]
    split
    · rename_i empty
      rw [List.isEmpty_iff] at empty
      simp [storedOperands, Filter.operands, empty, Sql.always]
    · rw [Sql.params_joined, Condition.sqlOfEach_eq_map, List.map_map, List.flatMap_map]
      simp only [storedOperands, Filter.operands, Option.elim_some, List.map_flatMap]
      exact List.flatMap_congr fun c _ => params_inTerms q d c

/-- The pieces of a clause that begins with `word`, and goes on with a filter in the terms of
`q`. -/
def clauseInTerms (q : Query) (d : Dialect) (word : String) : Option Filter → Sql
  | none => []
  | some f => .text word :: f.sqlInTerms d q

theorem filterClause_eq_ok {q : Query} {d : Dialect} {word : String} {names : List String}
    {filter : Option Filter} {sql : Sql} (h : q.filterClause d word names filter = .ok sql) :
    (∀ f ∈ filter, ∀ name ∈ f.columns, Identifier.isValid name false = true) ∧
      sql = q.clauseInTerms d word filter := by
  cases filter with
  | none =>
    cases h
    simp [clauseInTerms]
  | some f =>
    simp only [filterClause, Except.bind_eq_ok] at h
    obtain ⟨fragment, hfragment, h⟩ := h
    obtain ⟨valid, rfl⟩ := Filter.sql_eq_ok hfragment
    cases h
    exact ⟨by simpa using valid, rfl⟩

@[simp] theorem params_clauseInTerms (q : Query) (d : Dialect) (word : String)
    (filter : Option Filter) :
    Sql.params (q.clauseInTerms d word filter) = q.storedOperands filter := by
  cases filter with
  | none => rfl
  | some f => exact params_sqlInTerms q d f

@[simp] theorem params_listClause (word : String) (items : List String) :
    Sql.params (listClause word items) = [] := by
  unfold listClause
  split <;> rfl

@[simp] theorem params_numberClause (word : String) (n : Option Nat) :
    Sql.params (numberClause word n) = [] := by
  cases n <;> rfl

/-! ## The whole statement -/

/-- What a statement of a query begins with. -/
def head (q : Query) : String :=
  "SELECT " ++ (if q.selected.isEmpty then "*" else ", ".intercalate q.selected) ++ " FROM " ++
    q.tableText

/-- What comes before the wanted rows. -/
def opening (q : Query) : Except Error Sql := do
  let joins ← q.joins.mapM Join.sql
  return .text q.head :: joins.flatten

/-- What comes after the wanted groups. -/
def closing (q : Query) : Except Error Sql := do
  let order ← q.orderClause
  return order ++ numberClause " LIMIT " q.limit ++ numberClause " OFFSET " q.offset

/-- A statement is put together from what stands before, between and after its filters. -/
theorem selectStatement_eq (q : Query) (d : Dialect) :
    q.selectStatement d = do
      let opening ← q.opening
      let rows ← q.whereClause d
      let groups ← q.groupClause
      let having ← q.filterClause d " HAVING " q.selectNames q.having
      let closing ← q.closing
      return Sql.statement d (opening ++ (rows ++ (groups ++ (having ++ closing)))) := by
  simp only [selectStatement, selectSql, opening, closing, bind_assoc, pure_bind, List.append_assoc,
    List.cons_append, List.nil_append]
  rfl

def joinText (j : Join) : String :=
  " " ++ j.kind.word ++ " JOIN " ++ j.table ++ " " ++ j.name ++ " ON " ++ j.condition

/-- The clauses of the joins. -/
def joinClauses (q : Query) : Sql := q.joins.map fun j => .text (joinText j)

/-- The clauses between the filter of the rows and that of the groups. -/
def groupText (q : Query) : Sql := listClause " GROUP BY " (q.groups.map q.columnText)

/-- The clauses after the filters. -/
def orderText (q : Query) : Sql :=
  listClause " ORDER BY " (q.order.map fun column => q.columnText column.1 ++ " " ++ column.2.word) ++
    (numberClause " LIMIT " q.limit ++ numberClause " OFFSET " q.offset)

@[simp] theorem params_joinClauses (q : Query) : Sql.params q.joinClauses = [] := by
  unfold joinClauses
  induction q.joins with
  | nil => rfl
  | cons j rest ih => exact ih

@[simp] theorem params_groupText (q : Query) : Sql.params q.groupText = [] :=
  params_listClause _ _

@[simp] theorem params_orderText (q : Query) : Sql.params q.orderText = [] := by
  simp [orderText]

theorem checkIdentifier_eq_ok {role : IdentifierRole} {text : String} {u : Unit}
    (h : checkIdentifier role text = .ok u) : Identifier.isValid text false = true := by
  unfold checkIdentifier at h
  split at h
  · assumption
  · cases h

theorem joins_eq_ok {joins : List Join} {sql : List Sql} (h : joins.mapM Join.sql = .ok sql) :
    (∀ j ∈ joins, Identifier.isValid j.table false = true ∧ Identifier.isValid j.name false = true) ∧
      sql.flatten = joins.map fun j => .text (joinText j) := by
  induction Except.mapM_eq_ok h with
  | nil => simp
  | @cons j part joins parts hj _ ih =>
    rw [List.mapM_cons, Except.bind_eq_ok] at h
    obtain ⟨_, _, h⟩ := h
    obtain ⟨others, hothers, h⟩ := Except.bind_eq_ok.1 h
    cases h
    obtain ⟨valid, texts⟩ := ih hothers
    simp only [Join.sql, Except.bind_eq_ok] at hj
    obtain ⟨_, table, _, name, hj⟩ := hj
    cases hj
    refine ⟨?_, by simp [texts, joinText]⟩
    intro other hother
    rcases List.mem_cons.1 hother with rfl | hother
    · exact ⟨checkIdentifier_eq_ok table, checkIdentifier_eq_ok name⟩
    · exact valid other hother

theorem resolved_eq_ok {α : Type} {q : Query} {names : List String} (name : α → String)
    (text : α → String → String) {items : List α} {texts : List String}
    (h : (items.mapM fun item => do return text item (← q.resolve names (name item)).text) =
      .ok texts) :
    (∀ item ∈ items, Identifier.isValid (name item) false = true) ∧
      texts = items.map fun item => text item (q.columnText (name item)) := by
  induction items generalizing texts with
  | nil =>
    cases h
    simp
  | cons item items ih =>
    simp only [List.mapM_cons, Except.bind_eq_ok] at h
    obtain ⟨first, ⟨r, hr, hfirst⟩, others, hothers, h⟩ := h
    obtain ⟨valid, rfl⟩ := Query.resolve_eq_ok hr
    obtain ⟨validOthers, rfl⟩ := ih hothers
    cases hfirst
    cases h
    refine ⟨?_, rfl⟩
    intro other hother
    rcases List.mem_cons.1 hother with rfl | hother
    · exact valid
    · exact validOthers other hother

/-- Every name that `q` uses is an identifier. -/
structure Valid (q : Query) : Prop where
  joins : ∀ j ∈ q.joins,
    Identifier.isValid j.table false = true ∧ Identifier.isValid j.name false = true
  groups : ∀ name ∈ q.groups, Identifier.isValid name false = true
  order : ∀ column ∈ q.order, Identifier.isValid column.1 false = true
  filters : ∀ f, f ∈ q.filter ∨ f ∈ q.having →
    ∀ name ∈ f.columns, Identifier.isValid name false = true

/-- A query that is accepted names identifiers only, and this is its statement. -/
theorem selectSql_eq_ok {q : Query} {d : Dialect} {sql : Sql} (h : q.selectSql d = .ok sql) :
    q.Valid ∧ sql = .text q.head :: (q.joinClauses ++ (q.clauseInTerms d " WHERE " q.filter ++
      (q.groupText ++ (q.clauseInTerms d " HAVING " q.having ++ q.orderText)))) := by
  simp only [selectSql, Except.bind_eq_ok] at h
  obtain ⟨joins, hjoins, rows, hrows, groups, hgroups, having, hhaving, order, horder, h⟩ := h
  simp only [groupClause, Except.bind_eq_ok] at hgroups
  simp only [orderClause, Except.bind_eq_ok] at horder
  obtain ⟨groupTexts, hgroupTexts, hgroups⟩ := hgroups
  obtain ⟨orderTexts, horderTexts, horder⟩ := horder
  obtain ⟨validJoins, joinTexts⟩ := joins_eq_ok hjoins
  obtain ⟨validRows, rfl⟩ := filterClause_eq_ok hrows
  obtain ⟨validGroups, rfl⟩ := resolved_eq_ok id (fun _ text => text) hgroupTexts
  obtain ⟨validHaving, rfl⟩ := filterClause_eq_ok hhaving
  obtain ⟨validOrder, rfl⟩ := resolved_eq_ok Prod.fst
    (fun (column : String × Direction) text => text ++ " " ++ column.2.word) horderTexts
  cases hgroups
  cases horder
  cases h
  constructor
  · refine ⟨validJoins, validGroups, validOrder, ?_⟩
    rintro f (hf | hf)
    · exact validRows f hf
    · exact validHaving f hf
  · rw [joinTexts]
    simp [head, joinClauses, groupText, orderText]

/-- An aggregate of a query that is accepted names identifiers only in its filter, and this is its
statement. -/
theorem aggregateSql_eq_ok {q : Query} {d : Dialect} {expression name : String} {sql : Sql}
    (h : q.aggregateSql d expression name = .ok sql) :
    (∀ f ∈ q.filter, ∀ column ∈ f.columns, Identifier.isValid column false = true) ∧
      sql = .text ("SELECT " ++ expression ++ " AS " ++ name ++ " FROM " ++ q.tableText) ::
        q.clauseInTerms d " WHERE " q.filter := by
  simp only [aggregateSql, Except.bind_eq_ok] at h
  obtain ⟨rows, hrows, h⟩ := h
  obtain ⟨valid, rfl⟩ := filterClause_eq_ok hrows
  cases h
  exact ⟨valid, rfl⟩

end Query

end EntityStore
