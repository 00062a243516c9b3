import EntityStore.Proofs.Statement.Clauses

/-!
# The shape of a statement

What is left of conditions, queries and statements when their values are taken away. A query is
turned into a statement in the same way whether its values are taken away before or afterwards, so
the text of the statement is a function of the shape of the query.
-/

namespace EntityStore

namespace Except

variable {ε α β γ δ : Type}

/-- Two steps agree in what is seen of them if the first ones agree in what the second ones need. -/
theorem map_bind_congr {x x' : Except ε α} {f f' : α → Except ε β} {g : α → γ} {h : β → δ}
    (first : x.map g = x'.map g) (second : ∀ a a', g a = g a' → (f a).map h = (f' a').map h) :
    (x >>= f).map h = (x' >>= f').map h := by
  cases x with
  | ok a =>
    cases x' with
    | ok a' => exact second a a' (Except.ok.inj first)
    | error e => cases first
  | error e =>
    cases x' with
    | ok a' => cases first
    | error e' =>
      cases first
      rfl

theorem map_bind_same {x : Except ε α} {f f' : α → Except ε β} {h : β → δ}
    (second : ∀ a, (f a).map h = (f' a).map h) : (x >>= f).map h = (x >>= f').map h := by
  refine map_bind_congr (g := id) rfl ?_
  rintro a _ rfl
  exact second a

theorem map_mapM_congr {f : α → Except ε β} {h : β → δ} {as as' : List α}
    (each : List.Forall₂ (fun a a' => (f a).map h = (f a').map h) as as') :
    (as.mapM f).map (List.map h) = (as'.mapM f).map (List.map h) := by
  induction each with
  | nil => rfl
  | cons first _ ih =>
    rw [List.mapM_cons, List.mapM_cons]
    refine map_bind_congr first fun b b' same => map_bind_congr ih fun bs bs' others => ?_
    show Except.ok (h b :: bs.map h) = Except.ok (h b' :: bs'.map h)
    rw [same, others]

end Except

namespace Sql

/-- A piece without the value that is bound to it. -/
def blank : Piece → Piece
  | .text s => .text s
  | .bound _ => .bound .null

/-- A statement without its values; their places stay. -/
def shape (sql : Sql) : Sql := sql.map blank

@[simp] theorem shape_nil : shape [] = [] := rfl

@[simp] theorem shape_text (s : String) (sql : Sql) : shape (.text s :: sql) = .text s :: shape sql :=
  rfl

@[simp] theorem shape_bound (v : Value) (sql : Sql) :
    shape (.bound v :: sql) = .bound .null :: shape sql := rfl

@[simp] theorem shape_append (a b : Sql) : shape (a ++ b) = shape a ++ shape b := List.map_append

@[simp] theorem shape_joined (between : String) (parts : List Sql) :
    shape (joined between parts) = joined between (parts.map shape) := by
  induction parts with
  | nil => rfl
  | cons part rest ih =>
    cases rest with
    | nil => simp [joined]
    | cons next rest =>
      simp only [joined, List.map_cons, List.intercalate_cons_cons, shape_append] at ih ⊢
      rw [ih]
      rfl

theorem textFrom_shape (d : Dialect) (number : Nat) (sql : Sql) :
    textFrom d number sql.shape = textFrom d number sql := by
  induction sql generalizing number with
  | nil => rfl
  | cons piece rest ih =>
    cases piece with
    | text s => exact congrArg (s ++ ·) (ih number)
    | bound v => exact congrArg (d.placeholder number ++ ·) (ih (number + 1))

theorem length_params_shape (sql : Sql) : (params sql.shape).length = (params sql).length := by
  induction sql with
  | nil => rfl
  | cons piece rest ih =>
    cases piece with
    | text s => exact ih
    | bound v => exact congrArg (· + 1) ih

end Sql

/-- What is seen of a statement apart from its values: its text, and their number. -/
def Statement.face (st : Statement) : String × Nat := (st.sql, st.params.length)

/-- The `face` of a statement is a function of its `shape`. -/
theorem Sql.face_eq_of_shape {d : Dialect} {sql sql' : Sql} (same : sql.shape = sql'.shape) :
    (sql.statement d).face = (sql'.statement d).face := by
  have text : textFrom d 1 sql = textFrom d 1 sql' := by
    rw [← textFrom_shape, same, textFrom_shape]
  have number : (params sql).length = (params sql').length := by
    rw [← length_params_shape, same, length_params_shape]
  exact Prod.ext text number

theorem Sql.map_face_eq {d : Dialect} {x x' : Except Error Sql}
    (same : x.map shape = x'.map shape) :
    (x >>= fun sql => pure (sql.statement d)).map Statement.face =
      (x' >>= fun sql => pure (sql.statement d)).map Statement.face :=
  Except.map_bind_congr same fun _ _ shapes => congrArg Except.ok (face_eq_of_shape shapes)

/-! ## Conditions -/

namespace Condition

/-- The condition `c` without its operands. -/
def erased (c : Condition) : Condition := c.replaced id fun _ _ => .null

@[simp] theorem erased_all (conditions : List Condition) :
    (Condition.all conditions).erased = .all (conditions.map erased) := by
  rw [erased, replaced, replacedEach_eq_map]
  rfl

@[simp] theorem erased_any (conditions : List Condition) :
    (Condition.any conditions).erased = .any (conditions.map erased) := by
  rw [erased, replaced, replacedEach_eq_map]
  rfl

@[simp] theorem erased_not (c : Condition) : (Condition.not c).erased = .not c.erased := rfl

theorem isGrouped_erased (c : Condition) : c.erased.isGrouped = c.isGrouped := by
  cases c with
  | all conditions | any conditions => simp [isGrouped]
  | _ => rfl

theorem shape_joined_each {d : Dialect} {conditions : List Condition}
    (each : ∀ c ∈ conditions, (c.sql d).shape = c.erased.sql d) (between : String) :
    (Sql.joined between (sqlOfEach d conditions)).shape =
      Sql.joined between (sqlOfEach d (conditions.map erased)) := by
  rw [sqlOfEach_eq_map, sqlOfEach_eq_map, Sql.shape_joined, List.map_map, List.map_map]
  exact congrArg (Sql.joined between) (List.map_congr_left each)

/-- The shape of the text of `c` is the text of `c` without its operands. -/
theorem shape_sql (d : Dialect) (c : Condition) : (c.sql d).shape = c.erased.sql d := by
  induction c with
  | oneOf column operands =>
    cases operands with
    | nil => rfl
    | cons v vs =>
      simp only [sql, erased, replaced, List.map_cons, Sql.shape_append, Sql.shape_joined,
        List.map_map]
      rfl
  | all conditions ih =>
    cases conditions with
    | nil => rfl
    | cons c rest =>
      rw [erased_all, List.map_cons, sql, sql, ← List.map_cons, Sql.shape_append, Sql.shape_append,
        shape_joined_each ih]
      · rfl
      · exact List.cons_ne_nil _ _
      · exact List.cons_ne_nil _ _
  | any conditions ih =>
    cases conditions with
    | nil => rfl
    | cons c rest =>
      rw [erased_any, List.map_cons, sql, sql, ← List.map_cons, Sql.shape_append, Sql.shape_append,
        shape_joined_each ih]
      · rfl
      · exact List.cons_ne_nil _ _
      · exact List.cons_ne_nil _ _
  | not c ih =>
    rw [erased_not, sql, sql, isGrouped_erased]
    split
    · rw [Sql.shape_text, ih]
    · rw [Sql.shape_append, Sql.shape_append, ih]
      rfl
  | _ => rfl

section

variable (resolve : String → Except Error Reference)

theorem erased_allInStorage {conditions : List Condition}
    (each : ∀ c ∈ conditions,
      (c.erased.inStorage resolve).map erased = (c.inStorage resolve).map erased) :
    (allInStorage resolve (conditions.map erased)).map (List.map erased) =
      (allInStorage resolve conditions).map (List.map erased) := by
  induction conditions with
  | nil => rfl
  | cons c rest ih =>
    have others := ih fun c hc => each c (List.mem_cons_of_mem _ hc)
    refine Except.map_bind_congr (each c List.mem_cons_self) fun first first' same =>
      Except.map_bind_congr others fun rest rest' same' => ?_
    show Except.ok (first.erased :: rest.map erased) = Except.ok (first'.erased :: rest'.map erased)
    rw [same, same']

/-- Whether `c` can be put into the terms of the database, and what it looks like there, does not
depend on its operands. -/
theorem erased_inStorage (c : Condition) :
    (c.erased.inStorage resolve).map erased = (c.inStorage resolve).map erased := by
  induction c with
  | oneOf column operands =>
    refine Except.map_bind_same fun r => congrArg Except.ok ?_
    simp only [erased, replaced, List.map_map]
    rfl
  | all conditions ih =>
    rw [erased_all]
    refine Except.map_bind_congr (erased_allInStorage resolve ih) fun stored stored' same => ?_
    show Except.ok (Condition.all stored).erased = Except.ok (Condition.all stored').erased
    rw [erased_all, erased_all, same]
  | any conditions ih =>
    rw [erased_any]
    refine Except.map_bind_congr (erased_allInStorage resolve ih) fun stored stored' same => ?_
    show Except.ok (Condition.any stored).erased = Except.ok (Condition.any stored').erased
    rw [erased_any, erased_any, same]
  | not c ih =>
    refine Except.map_bind_congr ih fun stored stored' same => ?_
    show Except.ok (Condition.not stored).erased = Except.ok (Condition.not stored').erased
    rw [erased_not, erased_not, same]
  | _ => exact Except.map_bind_same fun r => rfl

end

/-- Conditions that differ in their operands have texts that differ in their values. -/
theorem shape_sql_congr {d : Dialect} {c c' : Condition} (same : c.erased = c'.erased) :
    (c.sql d).shape = (c'.sql d).shape := by
  rw [shape_sql, shape_sql, same]

end Condition

/-! ## Queries -/

/-- A filter without its operands. -/
def Filter.erased : Filter → Filter
  | .matching r => .matching (r.mapValues fun _ _ => .null)
  | .condition c => .condition c.erased

theorem Filter.shape_sql (d : Dialect) (resolve : String → Except Error Reference) (f : Filter) :
    (f.erased.sql d resolve).map Sql.shape = (f.sql d resolve).map Sql.shape := by
  cases f with
  | matching r =>
    have equations : ((r.mapValues fun _ _ => .null).fields.map fun field =>
        Condition.equal field.1 field.2) =
        (r.fields.map fun field => Condition.equal field.1 field.2).map Condition.erased := by
      simp only [Record.mapValues, List.map_map]
      rfl
    have stored := Condition.erased_allInStorage resolve
      fun c (_ : c ∈ r.fields.map fun field => Condition.equal field.1 field.2) =>
        Condition.erased_inStorage resolve c
    rw [← equations] at stored
    rw [Filter.erased, Filter.sql_matching, Filter.sql_matching]
    refine Except.map_bind_congr stored fun each each' same => congrArg Except.ok ?_
    have empty : each.isEmpty = each'.isEmpty := by
      rw [← List.isEmpty_map (f := Condition.erased), same, List.isEmpty_map]
    rw [empty]
    split
    · rfl
    · have shapes := congrArg (List.map (Condition.sql d)) same
      simp only [List.map_map, Function.comp_def, ← Condition.shape_sql] at shapes
      simp only [Sql.shape_joined, Condition.sqlOfEach_eq_map, List.map_map, Function.comp_def, shapes]
  | condition c =>
    exact Except.map_bind_congr (Condition.erased_inStorage resolve c)
      fun _ _ same => congrArg Except.ok (Condition.shape_sql_congr same)

namespace Query

/-- The query `q` without the operands of its filters. -/
def erased (q : Query) : Query :=
  { q with filter := q.filter.map Filter.erased, having := q.having.map Filter.erased }

theorem shape_filterClause (q : Query) (d : Dialect) (word : String) (names : List String)
    (filter : Option Filter) :
    (q.erased.filterClause d word names (filter.map Filter.erased)).map Sql.shape =
      (q.filterClause d word names filter).map Sql.shape := by
  cases filter with
  | none => rfl
  | some f =>
    refine Except.map_bind_congr (Filter.shape_sql d (q.resolve names) f) fun _ _ same => ?_
    exact congrArg (fun shape => Except.ok (Piece.text word :: shape)) same

theorem shape_selectSql (q : Query) (d : Dialect) :
    (q.erased.selectSql d).map Sql.shape = (q.selectSql d).map Sql.shape := by
  refine Except.map_bind_same fun joins => ?_
  refine Except.map_bind_congr (q.shape_filterClause d " WHERE " [] q.filter) fun rows rows' same => ?_
  refine Except.map_bind_same fun groups => ?_
  refine Except.map_bind_congr (q.shape_filterClause d " HAVING " q.selectNames q.having)
    fun having having' same' => ?_
  refine Except.map_bind_same fun order => congrArg Except.ok ?_
  simp only [Sql.shape_append, same, same']
  rfl

theorem shape_aggregateSql (q : Query) (d : Dialect) (expression name : String) :
    (q.erased.aggregateSql d expression name).map Sql.shape =
      (q.aggregateSql d expression name).map Sql.shape := by
  refine Except.map_bind_congr (q.shape_filterClause d " WHERE " [] q.filter) fun rows rows' same => ?_
  refine congrArg Except.ok ?_
  simp only [Sql.shape_text, same]
  rfl

variable {q q' : Query}

/-- Queries that differ in the operands of their filters have the same statement but for its values,
or fail with the same error. -/
theorem face_selectStatement (same : q.erased = q'.erased) (d : Dialect) :
    (q.selectStatement d).map Statement.face = (q'.selectStatement d).map Statement.face := by
  refine Sql.map_face_eq ?_
  rw [← shape_selectSql, same, shape_selectSql]

theorem face_aggregateStatement (same : q.erased = q'.erased) (d : Dialect)
    (expression name : String) :
    (q.aggregateStatement d expression name).map Statement.face =
      (q'.aggregateStatement d expression name).map Statement.face := by
  refine Sql.map_face_eq ?_
  rw [← shape_aggregateSql, same, shape_aggregateSql]

end Query

end EntityStore
