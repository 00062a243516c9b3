import EntityStore.Proofs.Condition.Truth
import EntityStore.Proofs.Result
import Mathlib.Data.List.Basic

/-!
# Conditions in the terms of the database

What becomes of a condition when its columns are replaced by the texts that refer to them and its
operands by their stored forms. Where this succeeds it is a plain replacement, leaf by leaf, so what
a condition says, which columns it names and which operands it has can be followed through it.
-/

namespace EntityStore

namespace Condition

/-! ## The leaves of a condition -/

mutual

/-- In reading order. -/
def leaves : Condition → List Condition
  | .all conditions | .any conditions => leavesOfEach conditions
  | .not condition => leaves condition
  | leaf => [leaf]

def leavesOfEach : List Condition → List Condition
  | [] => []
  | condition :: rest => leaves condition ++ leavesOfEach rest

end

@[simp] theorem leavesOfEach_eq_flatMap (conditions : List Condition) :
    leavesOfEach conditions = conditions.flatMap leaves := by
  induction conditions with
  | nil => rfl
  | cons condition rest ih => rw [leavesOfEach, ih, List.flatMap_cons]

/-- The columns that `c` names, in reading order. -/
def columns (c : Condition) : List String := c.leaves.filterMap column?

/-- The operands of a leaf, each with the column it is compared with. -/
def leafOperands : Condition → List (String × Value)
  | .compare _ column operand => [(column, operand)]
  | .oneOf column operands => operands.map fun v => (column, v)
  | .between column least greatest => [(column, least), (column, greatest)]
  | _ => []

/-- The operands of `c` in reading order, each with the column it is compared with. -/
def operands (c : Condition) : List (String × Value) := c.leaves.flatMap leafOperands

theorem columns_leaf {c : Condition} {name : String} (h : c.column? = some name) :
    c.columns = [name] := by
  cases c with
  | all | any | not => cases h
  | _ =>
    cases h
    rfl

/-- What holds of all `columns` of a leaf holds of the one that it names. -/
theorem of_columns_leaf {P : String → Prop} {c : Condition} {name : String}
    (h : ∀ n ∈ c.columns, P n) (hc : c.column? = some name) : P name := by
  refine h name ?_
  rw [columns_leaf hc]
  exact List.mem_singleton_self name

@[simp] theorem columns_all (conditions : List Condition) :
    (Condition.all conditions).columns = conditions.flatMap columns := by
  simp only [columns, leaves, leavesOfEach_eq_flatMap, List.filterMap_flatMap]
  rfl

@[simp] theorem columns_any (conditions : List Condition) :
    (Condition.any conditions).columns = conditions.flatMap columns := by
  simp only [columns, leaves, leavesOfEach_eq_flatMap, List.filterMap_flatMap]
  rfl

@[simp] theorem columns_not (c : Condition) : (Condition.not c).columns = c.columns := by
  simp [columns, leaves]

@[simp] theorem operands_all (conditions : List Condition) :
    (Condition.all conditions).operands = conditions.flatMap operands := by
  simp only [operands, leaves, leavesOfEach_eq_flatMap, List.flatMap_assoc]
  rfl

@[simp] theorem operands_any (conditions : List Condition) :
    (Condition.any conditions).operands = conditions.flatMap operands := by
  simp only [operands, leaves, leavesOfEach_eq_flatMap, List.flatMap_assoc]
  rfl

@[simp] theorem operands_not (c : Condition) : (Condition.not c).operands = c.operands := by
  simp [operands, leaves]

theorem sqlOfEach_eq_map (d : Dialect) (conditions : List Condition) :
    sqlOfEach d conditions = conditions.map (sql d) := by
  induction conditions with
  | nil => rfl
  | cons c rest ih => rw [sqlOfEach, ih, List.map_cons]

/-! ## Replacing names and operands -/

section

variable (text : String → String) (stored : String → Value → Value)

mutual

/-- The condition with its names replaced by `text` and its operands by `stored`, which depends on
the name that an operand is compared with. -/
def replaced : Condition → Condition
  | .compare comparison column operand => .compare comparison (text column) (stored column operand)
  | .oneOf column operands => .oneOf (text column) (operands.map (stored column))
  | .between column least greatest =>
    .between (text column) (stored column least) (stored column greatest)
  | .isNull column => .isNull (text column)
  | .isNotNull column => .isNotNull (text column)
  | .all conditions => .all (replacedEach conditions)
  | .any conditions => .any (replacedEach conditions)
  | .not condition => .not (replaced condition)

def replacedEach : List Condition → List Condition
  | [] => []
  | condition :: rest => replaced condition :: replacedEach rest

end

@[simp] theorem replacedEach_eq_map (conditions : List Condition) :
    replacedEach text stored conditions = conditions.map (replaced text stored) := by
  induction conditions with
  | nil => rfl
  | cons condition rest ih => rw [replacedEach, ih, List.map_cons]

theorem truth_replaced (m : Meaning) (c : Condition) :
    (c.replaced text stored).truth m =
      c.truth ⟨fun name => m.cell (text name), fun name v => m.stored (text name) (stored name v),
        m.compares⟩ := by
  induction c with
  | all conditions ih | any conditions ih =>
    simp only [replaced, truth, replacedEach_eq_map, truths_eq_map, List.map_map]
    congr 1
    exact List.map_congr_left ih
  | not c ih => simp only [replaced, truth, ih]
  | oneOf column operands =>
    simp only [replaced, truth, List.map_map]
    rfl
  | _ => rfl

theorem columns_replaced (c : Condition) :
    (c.replaced text stored).columns = c.columns.map text := by
  induction c with
  | all conditions ih | any conditions ih =>
    simp only [replaced, replacedEach_eq_map, columns_all, columns_any, List.flatMap_map,
      List.map_flatMap]
    exact List.flatMap_congr ih
  | not c ih => simpa [replaced] using ih
  | _ => rfl

theorem operands_replaced (c : Condition) :
    (c.replaced text stored).operands =
      c.operands.map fun operand => (text operand.1, stored operand.1 operand.2) := by
  induction c with
  | all conditions ih | any conditions ih =>
    simp only [replaced, replacedEach_eq_map, operands_all, operands_any, List.flatMap_map,
      List.map_flatMap]
    exact List.flatMap_congr ih
  | not c ih => simpa [replaced] using ih
  | oneOf column values =>
    simp [replaced, operands, leaves, leafOperands]
  | _ => rfl

end

/-! ## Conditions of a query -/

section

variable (q : Query) {names : List String}

/-- The condition in the terms by which a statement of `q` refers to columns. -/
def inTerms (c : Condition) : Condition :=
  c.replaced q.columnText fun name => toStorage (q.columnOf? name)

variable {q}

theorem allInStorage_eq_ok {conditions stored : List Condition}
    (each : ∀ c ∈ conditions, ∀ s, c.inStorage (q.resolve names) = .ok s →
      (∀ name ∈ c.columns, Identifier.isValid name false = true) ∧ s = c.inTerms q)
    (h : allInStorage (q.resolve names) conditions = .ok stored) :
    (∀ name ∈ conditions.flatMap columns, Identifier.isValid name false = true) ∧
      stored = conditions.map (inTerms q) := by
  induction conditions generalizing stored with
  | nil =>
    cases h
    simp
  | cons c rest ih =>
    simp only [allInStorage, Except.bind_eq_ok] at h
    obtain ⟨first, hfirst, others, hothers, h⟩ := h
    obtain ⟨validFirst, rfl⟩ := each c (by simp) first hfirst
    obtain ⟨validOthers, rfl⟩ := ih (fun c hc => each c (List.mem_cons_of_mem _ hc)) hothers
    cases h
    refine ⟨?_, rfl⟩
    intro name hname
    rw [List.flatMap_cons, List.mem_append] at hname
    exact hname.elim (validFirst name) (validOthers name)

/-- A condition that is accepted names identifiers only, and it is put into the terms of `q` leaf by
leaf. -/
theorem inStorage_eq_ok (c : Condition) {s : Condition}
    (h : c.inStorage (q.resolve names) = .ok s) :
    (∀ name ∈ c.columns, Identifier.isValid name false = true) ∧ s = c.inTerms q := by
  induction c generalizing s with
  | all conditions ih | any conditions ih =>
    simp only [inStorage, Except.bind_eq_ok] at h
    obtain ⟨stored, hstored, h⟩ := h
    obtain ⟨valid, rfl⟩ := allInStorage_eq_ok (fun c hc s => ih c hc) hstored
    cases h
    refine ⟨by simpa using valid, ?_⟩
    simp only [inTerms, replaced, replacedEach_eq_map]
    rfl
  | not c ih =>
    simp only [inStorage, Except.bind_eq_ok] at h
    obtain ⟨stored, hstored, h⟩ := h
    obtain ⟨valid, rfl⟩ := ih hstored
    cases h
    exact ⟨by simpa using valid, rfl⟩
  | _ =>
    simp only [inStorage, Except.bind_eq_ok] at h
    obtain ⟨r, hr, h⟩ := h
    obtain ⟨valid, rfl⟩ := Query.resolve_eq_ok hr
    cases h
    refine ⟨?_, rfl⟩
    intro name hname
    rw [columns_leaf rfl, List.mem_singleton] at hname
    rw [hname]
    exact valid

end

end Condition

/-! ## Filters of a query -/

/-- The comparisons that `Filter.matching` comes to. -/
def Record.equations (r : Record) : List Condition :=
  r.fields.map fun field => .equal field.1 field.2

/-- The columns that a filter names, in reading order. -/
def Filter.columns : Filter → List String
  | .matching r => r.equations.flatMap Condition.columns
  | .condition c => c.columns

/-- The operands of a filter in reading order, each with the column it is compared with. -/
def Filter.operands : Filter → List (String × Value)
  | .matching r => r.equations.flatMap Condition.operands
  | .condition c => c.operands

/-- The pieces of a filter in the terms of `q`. -/
def Filter.sqlInTerms (d : Dialect) (q : Query) : Filter → Sql
  | .matching r =>
    if r.equations.isEmpty then Sql.always
    else Sql.joined " AND " (Condition.sqlOfEach d (r.equations.map (Condition.inTerms q)))
  | .condition c => (c.inTerms q).sql d

/-- The comparisons with the `fields` of a record are put into the terms of the database as the
fields are. -/
theorem allInStorage_fields (resolve : String → Except Error Reference)
    (fields : List (String × Value)) :
    Condition.allInStorage resolve (fields.map fun field => .equal field.1 field.2) =
      (fieldsInStorage resolve fields).map
        (List.map fun field => Condition.equal field.1 field.2) := by
  induction fields with
  | nil => rfl
  | cons field rest ih =>
    rw [List.map_cons, Condition.allInStorage, fieldsInStorage, ih]
    simp only [Condition.equal, Condition.inStorage]
    cases resolve field.1 with
    | error e => rfl
    | ok r => cases fieldsInStorage resolve rest <;> rfl

/-- The comparisons with `fields` are written as the equations of the fields. -/
theorem sqlOfEach_fields (d : Dialect) (fields : List (String × Value)) :
    Sql.joined " AND " (Condition.sqlOfEach d (fields.map fun field => .equal field.1 field.2)) =
      equations " AND " fields := by
  have sign : ∀ column : String, column ++ " " ++ Comparison.sign d .eq ++ " " = column ++ " = " := by
    intro column
    rw [String.append_assoc, String.append_assoc]
    rfl
  rw [equations, Condition.sqlOfEach_eq_map, List.map_map]
  refine congrArg _ (List.map_congr_left fun field _ => ?_)
  simp only [Function.comp_apply, Condition.equal, Condition.sql, sign]

/-- A record is matched by its `equations`, in order. -/
theorem Filter.sql_matching (d : Dialect) (resolve : String → Except Error Reference) (r : Record) :
    (Filter.matching r).sql d resolve = do
      let stored ← Condition.allInStorage resolve r.equations
      return if stored.isEmpty then Sql.always
        else Sql.joined " AND " (Condition.sqlOfEach d stored) := by
  rw [Record.equations, allInStorage_fields, Filter.sql]
  cases fieldsInStorage resolve r.fields with
  | error e => rfl
  | ok fields =>
    refine congrArg Except.ok ?_
    show _ = if (fields.map _).isEmpty then _ else _
    rw [List.isEmpty_map, sqlOfEach_fields]

/-- A filter that is accepted names identifiers only, and its pieces are those of its conditions in
the terms of `q`. -/
theorem Filter.sql_eq_ok {d : Dialect} {q : Query} {names : List String} {f : Filter} {sql : Sql}
    (h : f.sql d (q.resolve names) = .ok sql) :
    (∀ name ∈ f.columns, Identifier.isValid name false = true) ∧ sql = f.sqlInTerms d q := by
  cases f with
  | matching r =>
    rw [Filter.sql_matching, Except.bind_eq_ok] at h
    obtain ⟨stored, hstored, h⟩ := h
    obtain ⟨valid, rfl⟩ :=
      Condition.allInStorage_eq_ok (fun c _ s => Condition.inStorage_eq_ok c) hstored
    cases h
    refine ⟨valid, ?_⟩
    simp only [Filter.sqlInTerms, List.isEmpty_map, Record.equations]
  | condition c =>
    simp only [Filter.sql, Except.bind_eq_ok] at h
    obtain ⟨stored, hstored, h⟩ := h
    obtain ⟨valid, rfl⟩ := Condition.inStorage_eq_ok c hstored
    cases h
    exact ⟨valid, rfl⟩

end EntityStore
