import EntityStore.Proofs.Statement.Placeholder
import EntityStore.Proofs.Statement.Row

/-!
# Statements written in one pass

A compiler writes the text of a statement and collects its parameters in one pass, and it counts
what it has collected to number the placeholders; the statements of a table count by themselves.
Whatever counts, the statements are those that are put together from pieces.
-/

namespace EntityStore

open Sql

/-! ## The compiler -/

/-- A step of the compiler, which has collected a list of parameters and may fail. -/
abbrev Compiler (α : Type) := StateT (List Value) (Except Error) α

namespace Compiler

/-- Collect the parameter `v`, and write the placeholder with the number of the parameters so
far. -/
def bind (d : Dialect) (v : Value) : Compiler String := do
  modify fun params => params ++ [v]
  return d.placeholder (← get).length

/-- The statement with the `text` that a compiler writes, and with the parameters that it has
collected. -/
def statement (text : Compiler String) : Except Error Statement := do
  let (sql, params) ← text.run []
  return ⟨sql, params⟩

end Compiler

namespace Condition

mutual

def compile (d : Dialect) (resolve : String → Except Error Reference) :
    Condition → Compiler String
  | .compare comparison column operand => do
    let r ← resolve column
    let place ← Compiler.bind d (toStorage r.column operand)
    return r.text ++ " " ++ comparison.sign d ++ " " ++ place
  | .oneOf column operands => do
    let r ← resolve column
    if operands.isEmpty then return "1 = 0"
    let places ← operands.mapM fun v => Compiler.bind d (toStorage r.column v)
    return r.text ++ " IN (" ++ ", ".intercalate places ++ ")"
  | .between column least greatest => do
    let r ← resolve column
    let low ← Compiler.bind d (toStorage r.column least)
    let high ← Compiler.bind d (toStorage r.column greatest)
    return r.text ++ " BETWEEN " ++ low ++ " AND " ++ high
  | .isNull column => do return (← resolve column).text ++ " IS NULL"
  | .isNotNull column => do return (← resolve column).text ++ " IS NOT NULL"
  | .all conditions => do
    if conditions.isEmpty then return "1 = 1"
    return "(" ++ " AND ".intercalate (← compileEach d resolve conditions) ++ ")"
  | .any conditions => do
    if conditions.isEmpty then return "1 = 0"
    return "(" ++ " OR ".intercalate (← compileEach d resolve conditions) ++ ")"
  | .not condition => do
    let inner ← compile d resolve condition
    return if condition.isGrouped then "NOT " ++ inner else "NOT (" ++ inner ++ ")"

def compileEach (d : Dialect) (resolve : String → Except Error Reference) :
    List Condition → Compiler (List String)
  | [] => return []
  | condition :: rest => do
    let first ← compile d resolve condition
    return first :: (← compileEach d resolve rest)

end

end Condition

/-- Write the fields of a record, each as the equation of a column and a value. -/
def compileFields (d : Dialect) (resolve : String → Except Error Reference) :
    List (String × Value) → Compiler (List String)
  | [] => return []
  | (column, value) :: rest => do
    let r ← resolve column
    let place ← Compiler.bind d (toStorage r.column value)
    return (r.text ++ " = " ++ place) :: (← compileFields d resolve rest)

def Filter.compile (d : Dialect) (resolve : String → Except Error Reference) :
    Filter → Compiler String
  | .matching r => do
    let parts ← compileFields d resolve r.fields
    return if parts.isEmpty then "1 = 1" else " AND ".intercalate parts
  | .condition c => c.compile d resolve

/-! ## What the compiler writes -/

namespace Sql

/-- The text of pieces after some `params` have been collected, and all parameters after it. -/
def rendered (d : Dialect) (params : List Value) (sql : Sql) : String × List Value :=
  (textFrom d (params.length + 1) sql, params ++ Sql.params sql)

/-- The texts of several parts, one after another, and all parameters after them. -/
def renderedEach (d : Dialect) (params : List Value) (parts : List Sql) : List String × List Value :=
  (texts d (params.length + 1) parts, params ++ parts.flatMap Sql.params)

variable {d : Dialect}

@[simp] theorem rendered_nil (params : List Value) : rendered d params [] = ("", params) := by
  simp [rendered, textFrom]

@[simp] theorem rendered_text (params : List Value) (s : String) (rest : Sql) :
    rendered d params (.text s :: rest) =
      (s ++ (rendered d params rest).1, (rendered d params rest).2) := rfl

@[simp] theorem rendered_bound (params : List Value) (v : Value) (rest : Sql) :
    rendered d params (.bound v :: rest) =
      (d.placeholder (params.length + 1) ++ (rendered d (params ++ [v]) rest).1,
        (rendered d (params ++ [v]) rest).2) := by
  simp [rendered, textFrom]

/-- What is written after `a` counts on from what has been collected with it. -/
theorem rendered_append (params : List Value) (a b : Sql) :
    rendered d params (a ++ b) =
      ((rendered d params a).1 ++ (rendered d (rendered d params a).2 b).1,
        (rendered d (rendered d params a).2 b).2) := by
  simp [rendered, textFrom_append, Nat.add_right_comm]

theorem renderedEach_cons (params : List Value) (part : Sql) (rest : List Sql) :
    renderedEach d params (part :: rest) =
      ((rendered d params part).1 :: (renderedEach d (rendered d params part).2 rest).1,
        (renderedEach d (rendered d params part).2 rest).2) := by
  simp [renderedEach, rendered, texts, Nat.add_right_comm]

theorem rendered_joined (params : List Value) (between : String) (parts : List Sql) :
    rendered d params (joined between parts) =
      (between.intercalate (renderedEach d params parts).1, (renderedEach d params parts).2) := by
  rw [rendered, textFrom_joined, params_joined, renderedEach]

end Sql

namespace Compiler

variable {d : Dialect} {resolve : String → Except Error Reference}

/-- The `compiler` writes the `pieces`, whatever it has collected before, and fails where there are
none. -/
def Writes (d : Dialect) (compiler : Compiler String) (pieces : Except Error Sql) : Prop :=
  ∀ params, compiler.run params = pieces.map (rendered d params)

/-- The `compiler` writes the `parts`, one after another. -/
def WritesEach (d : Dialect) (compiler : Compiler (List String)) (parts : Except Error (List Sql)) :
    Prop :=
  ∀ params, compiler.run params = parts.map (renderedEach d params)

@[simp] theorem bind_run (d : Dialect) (v : Value) (params : List Value) :
    (bind d v).run params = .ok (d.placeholder (params.length + 1), params ++ [v]) := by
  show Except.ok (d.placeholder (params ++ [v]).length, params ++ [v]) = _
  rw [List.length_append, List.length_singleton]

theorem Writes.text (d : Dialect) (s : String) : Writes d (pure s) (.ok [.text s]) := by
  intro params
  show Except.ok (s, params) = .ok (rendered d params [.text s])
  simp

theorem Writes.place (d : Dialect) (v : Value) : Writes d (bind d v) (.ok [.bound v]) := by
  intro params
  rw [bind_run]
  show _ = Except.ok (rendered d params [.bound v])
  simp

/-- What only decides how to go on collects nothing. -/
theorem Writes.lift {α β : Type} {x : Except Error α} {next : α → Compiler String}
    {stored : α → Except Error β} {sql : β → Sql}
    (h : ∀ a, Writes d (next a) ((stored a).map sql)) :
    Writes d ((x : Compiler α) >>= next) ((x >>= stored).map sql) := by
  intro params
  cases x with
  | error e => rfl
  | ok a => exact h a params

/-- What is written after something else counts on from it. -/
theorem Writes.append {first second : Compiler String} {a b : Except Error Sql}
    (ha : Writes d first a) (hb : Writes d second b) :
    Writes d (do return (← first) ++ (← second)) (do return (← a) ++ (← b)) := by
  intro params
  rw [StateT.run_bind, ha]
  cases a with
  | error e => rfl
  | ok a =>
    show ((second >>= fun text => pure ((rendered d params a).1 ++ text) : Compiler String).run
      (rendered d params a).2) = _
    rw [StateT.run_bind, hb]
    cases b with
    | error e => rfl
    | ok b => exact congrArg Except.ok (rendered_append params a b).symm

theorem WritesEach.nil : WritesEach d (pure []) (.ok []) := by
  intro params
  show Except.ok ([], params) = Except.ok ([], params ++ [])
  rw [List.append_nil]

theorem WritesEach.cons {first : Compiler String} {others : Compiler (List String)}
    {a : Except Error Sql} {b : Except Error (List Sql)} (ha : Writes d first a)
    (hb : WritesEach d others b) :
    WritesEach d (do return (← first) :: (← others)) (do return (← a) :: (← b)) := by
  intro params
  rw [StateT.run_bind, ha]
  cases a with
  | error e => rfl
  | ok a =>
    show ((others >>= fun texts => pure ((rendered d params a).1 :: texts) :
      Compiler (List String)).run (rendered d params a).2) = _
    rw [StateT.run_bind, hb]
    cases b with
    | error e => rfl
    | ok b => exact congrArg Except.ok (renderedEach_cons params a b).symm

/-- Parts are joined after all of them are written. -/
theorem WritesEach.joined {others : Compiler (List String)} {parts : Except Error (List Sql)}
    (h : WritesEach d others parts) (between : String) :
    Writes d (do return between.intercalate (← others)) (parts.map (Sql.joined between)) := by
  intro params
  rw [StateT.run_bind, h]
  cases parts with
  | error e => rfl
  | ok parts => exact congrArg Except.ok (rendered_joined params between parts).symm

theorem WritesEach.places (d : Dialect) (operands : List Value) :
    WritesEach d (operands.mapM (bind d)) (.ok (operands.map fun v => [.bound v])) := by
  induction operands with
  | nil => exact .nil
  | cons v rest ih =>
    rw [List.mapM_cons]
    exact .cons (.place d v) ih

end Compiler

namespace Condition

open Compiler

variable {d : Dialect} {resolve : String → Except Error Reference}

theorem compileEach_writes {conditions : List Condition}
    (each : ∀ c ∈ conditions, Writes d (c.compile d resolve)
      ((c.inStorage resolve).map (sql d))) :
    WritesEach d (compileEach d resolve conditions)
      ((allInStorage resolve conditions).map (sqlOfEach d)) := by
  induction conditions with
  | nil => exact .nil
  | cons c rest ih =>
    have whole := WritesEach.cons (each c (List.mem_cons_self ..))
      (ih fun c hc => each c (List.mem_cons_of_mem _ hc))
    intro params
    rw [compileEach, whole params, allInStorage]
    cases c.inStorage resolve with
    | error e => rfl
    | ok first => cases allInStorage resolve rest <;> rfl

/-- What is written between the texts `before` and `after`. -/
theorem between_writes {compiler : Compiler String} {pieces : Except Error Sql}
    (h : Writes d compiler pieces) (before after : String) :
    Writes d (do return before ++ (← compiler) ++ after)
      (pieces.map fun sql => [.text before] ++ sql ++ [.text after]) := by
  intro params
  rw [StateT.run_bind, h]
  cases pieces with
  | error e => rfl
  | ok sql =>
    show Except.ok (before ++ (rendered d params sql).1 ++ after, (rendered d params sql).2) =
      Except.ok (rendered d params ([.text before] ++ sql ++ [.text after]))
    simp [rendered_append, String.append_assoc]

/-- What is written for several conditions in parentheses, of which there is at least one. -/
theorem grouped_writes {c : Condition} {rest : List Condition}
    (each : ∀ o ∈ c :: rest, Writes d (o.compile d resolve) ((o.inStorage resolve).map (sql d)))
    {between : String} {make : List Condition → Condition}
    (grouped : ∀ first others, (make (first :: others)).sql d =
      [.text "("] ++ Sql.joined between (sqlOfEach d (first :: others)) ++ [.text ")"]) :
    Writes d (do return "(" ++ between.intercalate (← compileEach d resolve (c :: rest)) ++ ")")
      ((do return make (← allInStorage resolve (c :: rest)) : Except Error Condition).map (sql d)) := by
  have whole := between_writes ((compileEach_writes each).joined between) "(" ")"
  rw [bind_assoc] at whole
  intro params
  refine (whole params).trans ?_
  rw [allInStorage]
  cases c.inStorage resolve with
  | error e => rfl
  | ok first =>
    cases allInStorage resolve rest with
    | error e => rfl
    | ok others => exact congrArg (fun sql => Except.ok (rendered d params sql)) (grouped first others).symm

theorem isGrouped_inStorage {c stored : Condition} (h : c.inStorage resolve = .ok stored) :
    stored.isGrouped = c.isGrouped := by
  cases c with
  | all conditions | any conditions =>
    cases conditions with
    | nil =>
      cases h
      rfl
    | cons c rest =>
      simp only [inStorage, allInStorage, Except.bind_eq_ok] at h
      obtain ⟨_, ⟨first, -, others, -, many⟩, h⟩ := h
      cases many
      cases h
      rfl
  | _ =>
    simp only [inStorage, Except.bind_eq_ok] at h
    obtain ⟨_, -, h⟩ := h
    cases h
    rfl

theorem compile_writes (c : Condition) :
    Writes d (c.compile d resolve) ((c.inStorage resolve).map (sql d)) := by
  induction c with
  | compare comparison column operand =>
    rw [compile, inStorage]
    refine Writes.lift fun r => ?_
    exact (Writes.text d (r.text ++ " " ++ comparison.sign d ++ " ")).append
      (Writes.place d (toStorage r.column operand))
  | oneOf column operands =>
    rw [compile, inStorage]
    refine Writes.lift fun r => ?_
    cases operands with
    | nil => exact Writes.text d "1 = 0"
    | cons v vs =>
      have places := WritesEach.places d ((v :: vs).map (toStorage r.column))
      rw [List.mapM_map] at places
      have whole := between_writes (places.joined ", ") (r.text ++ " IN (") ")"
      rw [bind_assoc] at whole
      exact whole
  | between column least greatest =>
    rw [compile, inStorage]
    refine Writes.lift fun r => ?_
    have low := (Writes.text d (r.text ++ " BETWEEN ")).append
      (Writes.place d (toStorage r.column least))
    exact (low.append (Writes.text d " AND ")).append
      (Writes.place d (toStorage r.column greatest))
  | isNull column =>
    rw [compile, inStorage]
    exact Writes.lift fun r => Writes.text d (r.text ++ " IS NULL")
  | isNotNull column =>
    rw [compile, inStorage]
    exact Writes.lift fun r => Writes.text d (r.text ++ " IS NOT NULL")
  | all conditions ih =>
    cases conditions with
    | nil => exact Writes.text d "1 = 1"
    | cons c rest =>
      rw [compile, inStorage]
      exact grouped_writes ih fun first others => rfl
  | any conditions ih =>
    cases conditions with
    | nil => exact Writes.text d "1 = 0"
    | cons c rest =>
      rw [compile, inStorage]
      exact grouped_writes ih fun first others => rfl
  | not condition ih =>
    intro params
    rw [compile, StateT.run_bind, ih, inStorage]
    cases stored : condition.inStorage resolve with
    | error e => rfl
    | ok stored' =>
      have same := isGrouped_inStorage stored
      show Except.ok (if condition.isGrouped then "NOT " ++ (rendered d params (stored'.sql d)).1
        else "NOT (" ++ (rendered d params (stored'.sql d)).1 ++ ")", (rendered d params (stored'.sql d)).2) =
        Except.ok (rendered d params ((Condition.not stored').sql d))
      rw [sql, same]
      split <;> simp [rendered_append, String.append_assoc]

end Condition

open Compiler

theorem compileFields_writes {d : Dialect} {resolve : String → Except Error Reference}
    (fields : List (String × Value)) :
    WritesEach d (compileFields d resolve fields) ((fieldsInStorage resolve fields).map fun stored =>
      stored.map fun field => [.text (field.1 ++ " = "), .bound field.2]) := by
  induction fields with
  | nil => exact .nil
  | cons field rest ih =>
    obtain ⟨column, value⟩ := field
    rw [compileFields, fieldsInStorage]
    cases resolve column with
    | error e => exact fun params => rfl
    | ok r =>
      have equation := (Writes.text d (r.text ++ " = ")).append
        (Writes.place d (toStorage r.column value))
      have whole := WritesEach.cons equation ih
      intro params
      refine (whole params).trans ?_
      cases fieldsInStorage resolve rest <;> rfl

theorem Filter.compile_writes {d : Dialect} {resolve : String → Except Error Reference}
    (f : Filter) : Writes d (f.compile d resolve) (f.sql d resolve) := by
  cases f with
  | condition c =>
    intro params
    rw [Filter.compile, Filter.sql, Condition.compile_writes c params]
    cases c.inStorage resolve <;> rfl
  | matching r =>
    intro params
    rw [Filter.compile, StateT.run_bind, compileFields_writes, Filter.sql]
    cases fieldsInStorage resolve r.fields with
    | error e => rfl
    | ok stored =>
      cases stored with
      | nil =>
        show Except.ok ("1 = 1", params ++ []) = Except.ok (rendered d params always)
        simp [always]
      | cons field rest =>
        show _ = Except.ok (rendered d params (equations " AND " (field :: rest)))
        rw [equations, rendered_joined]
        rfl

/-! ## Queries -/

/-- The text of pieces among which there are no places. -/
def Sql.plain : Sql → String
  | [] => ""
  | .text s :: rest => s ++ plain rest
  | .bound _ :: rest => plain rest

namespace Compiler

def concat : List (Compiler String) → Compiler String
  | [] => return ""
  | first :: rest => do return (← first) ++ (← concat rest)

/-- Write a `clause` without places. -/
def plain (clause : Except Error Sql) : Compiler String := do return (← clause).plain

end Compiler

namespace Query

variable (q : Query) (d : Dialect)

/-- Write a clause with a filter, if there is one. -/
def compileClause (word : String) (names : List String) : Option Filter → Compiler String
  | none => return ""
  | some f => do return word ++ (← f.compile d (q.resolve names))

/-- Write the statement of a query. -/
def compileSelect : Compiler String :=
  let columns := if q.selected.isEmpty then "*" else ", ".intercalate q.selected
  .concat [return "SELECT " ++ columns ++ " FROM " ++ q.tableText,
    .plain (do return (← q.joins.mapM Join.sql).flatten),
    q.compileClause d " WHERE " [] q.filter,
    .plain q.groupClause,
    q.compileClause d " HAVING " q.selectNames q.having,
    .plain q.orderClause,
    .plain (return numberClause " LIMIT " q.limit ++ numberClause " OFFSET " q.offset)]

/-- Write the statement that reads one `expression` over all rows, under a `name`. -/
def compileAggregate (expression name : String) : Compiler String :=
  .concat [return "SELECT " ++ expression ++ " AS " ++ name ++ " FROM " ++ q.tableText,
    q.compileClause d " WHERE " [] q.filter]

end Query

theorem Sql.rendered_plain {d : Dialect} {sql : Sql} (h : Sql.params sql = []) (params : List Value) :
    rendered d params sql = (sql.plain, params) := by
  induction sql with
  | nil => simp [Sql.plain]
  | cons piece rest ih =>
    cases piece with
    | text s => simp [Sql.plain, ih h]
    | bound v => cases h

namespace Compiler

variable {d : Dialect}

theorem Writes.plain {clause : Except Error Sql} (h : ∀ sql, clause = .ok sql → Sql.params sql = []) :
    Writes d (plain clause) clause := by
  intro params
  cases clause with
  | error e => rfl
  | ok sql => exact congrArg Except.ok (rendered_plain (h sql rfl) params).symm

/-- Parts that are written one after another are put together one after another. -/
theorem Writes.concat {compilers : List (Compiler String)} {parts : List (Except Error Sql)}
    (each : List.Forall₂ (Writes d) compilers parts) :
    Writes d (concat compilers)
      (parts.foldr (fun part rest => do return (← part) ++ (← rest)) (pure [])) := by
  induction each with
  | nil =>
    intro params
    show Except.ok ("", params) = Except.ok (rendered d params [])
    rw [rendered_nil]
  | cons first _ ih => exact first.append ih

/-- What has been collected at the end are the parameters of the statement. -/
theorem Writes.statement_eq {compiler : Compiler String} {pieces : Except Error Sql}
    (h : Writes d compiler pieces) : compiler.statement = pieces.map (Sql.statement d) := by
  unfold Compiler.statement
  rw [h]
  cases pieces with
  | error e => rfl
  | ok sql => rfl

end Compiler

namespace Query

variable (q : Query) (d : Dialect)

theorem compileClause_writes (word : String) (names : List String) (filter : Option Filter) :
    Writes d (q.compileClause d word names filter) (q.filterClause d word names filter) := by
  cases filter with
  | none =>
    intro params
    show Except.ok ("", params) = Except.ok (rendered d params [])
    rw [rendered_nil]
  | some f =>
    have inner : Writes d (f.compile d (q.resolve names)) (f.sql d (q.resolve names)) :=
      f.compile_writes
    have whole := (Writes.text d word).append inner
    intro params
    refine (whole params).trans ?_
    rw [filterClause]
    cases f.sql d (q.resolve names) <;> rfl

theorem params_clause {clause : Except Error (List String)} {word : String} {sql : Sql}
    (h : (do return listClause word (← clause)) = Except.ok sql) : Sql.params sql = [] := by
  obtain ⟨items, -, h⟩ := Except.bind_eq_ok.1 h
  cases h
  exact params_listClause word items

theorem compileSelect_writes : Writes d (q.compileSelect d) (q.selectSql d) := by
  have joins : Writes d (.plain (do return (← q.joins.mapM Join.sql).flatten))
      (do return (← q.joins.mapM Join.sql).flatten) := by
    refine .plain fun sql h => ?_
    obtain ⟨parts, hparts, h⟩ := Except.bind_eq_ok.1 h
    cases h
    rw [(joins_eq_ok hparts).2]
    exact q.params_joinClauses
  have bounds : Writes d
      (.plain (pure (numberClause " LIMIT " q.limit ++ numberClause " OFFSET " q.offset)))
      (pure (numberClause " LIMIT " q.limit ++ numberClause " OFFSET " q.offset)) := by
    refine .plain fun sql h => ?_
    cases h
    simp
  have groups : Writes d (.plain q.groupClause) q.groupClause := .plain fun sql => params_clause
  have order : Writes d (.plain q.orderClause) q.orderClause := .plain fun sql => params_clause
  have parts := Writes.concat (.cons (.text d q.head) (.cons joins
    (.cons (q.compileClause_writes d " WHERE " [] q.filter) (.cons groups
    (.cons (q.compileClause_writes d " HAVING " q.selectNames q.having)
    (.cons order (.cons bounds .nil)))))))
  intro params
  refine (parts params).trans (congrArg (Except.map (rendered d params)) ?_)
  simp only [List.foldr_cons, List.foldr_nil, selectSql, whereClause, bind_assoc, pure_bind]
  show (q.joins.mapM Join.sql >>= fun joins => _) = _
  refine bind_congr fun joins => ?_
  simp only [List.append_assoc, List.cons_append, List.nil_append, List.append_nil]
  rfl

theorem compileSelect_eq : (q.compileSelect d).statement = q.selectStatement d := by
  rw [(q.compileSelect_writes d).statement_eq, selectStatement]
  cases q.selectSql d <;> rfl

theorem compileAggregate_eq (expression name : String) :
    (q.compileAggregate d expression name).statement = q.aggregateStatement d expression name := by
  have parts := Writes.concat (.cons (.text d ("SELECT " ++ expression ++ " AS " ++ name ++ " FROM " ++
    q.tableText)) (.cons (q.compileClause_writes d " WHERE " [] q.filter) .nil))
  refine parts.statement_eq.trans ?_
  simp only [List.foldr_cons, List.foldr_nil, aggregateStatement, aggregateSql, whereClause]
  cases q.filterClause d " WHERE " [] q.filter with
  | error e => rfl
  | ok rows =>
    show Except.ok (Sql.statement d (_ :: (rows ++ []))) = _
    rw [List.append_nil]
    rfl

end Query

/-! ## Statements that change rows -/

namespace Table

variable (t : Table) (d : Dialect)

/-- The statement that inserts `row`, with a placeholder for each of its columns. -/
def insertCounted (row : Record) : Statement :=
  if row.isEmpty then .plain (d.insertDefaults t.name)
  else ⟨d.insertText t.name row.names, t.storedValues row⟩

/-- The statement that inserts or updates `row`, with a placeholder for each of its columns. -/
def upsertCounted (primary : Column) (row : Record) : Except Error Statement := do
  t.checkNames row.names
  return ⟨d.insertText t.name row.names ++ d.onConflict row.names primary.name, t.storedValues row⟩

/-- The statement that removes the row with the primary key `id`, by its first placeholder. -/
def removeCounted (primary : Column) (id : Value) : Statement :=
  ⟨"DELETE FROM " ++ t.name ++ " WHERE " ++ primary.name ++ " = " ++ d.placeholder 1,
    [primary.toStorage id]⟩

/-- The equations of an update, while an index is counted up beside the parameters. -/
def equate : List (String × Value) → StateT (Nat × List Value) (Except Error) (List String)
  | [] => return []
  | (name, value) :: rest => do
    let column ← t.column name
    modify fun (index, params) => (index + 1, params ++ [column.toStorage value])
    let (index, _) ← get
    return (name ++ " = " ++ d.placeholder index) :: (← equate rest)

/-- The statement of an update. The criteria count on from the new values. -/
def updateCounted (u : Update) : Except Error Statement := do
  let (sets, state) ← (t.equate d u.values.fields).run (0, [])
  let (filters, _, params) ← (t.equate d u.criteria.fields).run state
  let rows := if filters.isEmpty then "" else " WHERE " ++ " AND ".intercalate filters
  return ⟨"UPDATE " ++ t.name ++ " SET " ++ ", ".intercalate sets ++ rows, params⟩

variable {t d}

theorem insertCounted_eq (row : Record) : t.insertCounted d row = t.insertStatement d row := by
  unfold insertCounted insertStatement Sql.statement
  rw [textFrom_insertRow, params_insertRow, map_fst_storedFields, map_snd_storedFields]

theorem upsertCounted_eq (primary : Column) (row : Record) :
    t.upsertCounted d primary row = t.upsertStatement d primary row := by
  unfold upsertCounted upsertStatement Sql.statement upsertRow
  rw [textFrom_append, textFrom_insertRow, params_append, params_insertRow, map_fst_storedFields,
    map_snd_storedFields]
  simp [textFrom]

theorem removeCounted_eq (primary : Column) (id : Value) :
    t.removeCounted d primary id = t.removeStatement d primary id := by
  simp [removeCounted, removeStatement, Sql.statement, textFrom]

theorem column?_eq_some {name : String} {c : Column} (h : t.column name = .ok c) :
    t.column? name = some c := by
  unfold Table.column at h
  split at h
  · rename_i declared
    cases h
    exact declared
  · cases h

/-- The index is the number of parameters, before and after. -/
theorem equate_run (row : Record) (params : List Value) :
    (t.equate d row.fields).run (params.length, params) = (t.checkNames row.names).map fun _ =>
      (d.equated (params.length + 1) row.names, (params ++ t.storedValues row).length,
        params ++ t.storedValues row) := by
  unfold Record.names storedValues
  induction row.fields generalizing params with
  | nil =>
    show Except.ok ([], params.length, params) = Except.ok ([], (params ++ []).length, params ++ [])
    rw [List.append_nil]
  | cons field rest ih =>
    obtain ⟨name, value⟩ := field
    rw [equate, List.map_cons, checkNames]
    cases found : t.column name with
    | error e => rfl
    | ok column =>
      have stored : toStorage (t.column? name) value = column.toStorage value := by
        rw [column?_eq_some found]
        rfl
      have following := ih (params ++ [column.toStorage value])
      rw [List.length_append, List.length_singleton] at following
      show (t.equate d rest >>= fun others => pure ((name ++ " = " ++ d.placeholder
        (params.length + 1)) :: others) : StateT (Nat × List Value) (Except Error) _).run
          (params.length + 1, params ++ [column.toStorage value]) = _
      rw [StateT.run_bind, following]
      show ((t.checkNames (rest.map Prod.fst)).map _ >>= _) = (t.checkNames (rest.map Prod.fst)).map _
      cases t.checkNames (rest.map Prod.fst) with
      | error e => rfl
      | ok _ =>
        show Except.ok _ = Except.ok _
        simp [stored, Dialect.equated, List.zipIdx_cons]

theorem updateCounted_eq (u : Update) : t.updateCounted d u = t.updateStatement d u := by
  have values := equate_run (t := t) (d := d) u.values []
  have criteria := equate_run (t := t) (d := d) u.criteria (t.storedValues u.values)
  have counted : (t.storedValues u.values).length = u.values.names.length := by
    simp [storedValues, Record.names]
  rw [updateStatement_eq, updateCounted]
  rw [List.length_nil] at values
  rw [values]
  cases t.checkNames u.values.names with
  | error e => rfl
  | ok _ =>
    show (t.equate d u.criteria.fields).run ((t.storedValues u.values).length,
      t.storedValues u.values) >>= _ = _
    rw [criteria]
    show ((t.checkNames u.criteria.names).map _ >>= _) = (t.checkNames u.criteria.names >>= _)
    cases t.checkNames u.criteria.names with
    | error e => rfl
    | ok _ =>
      show Except.ok _ = Except.ok _
      simp [Dialect.updateText, Dialect.equated, counted]

end Table

end EntityStore
