import EntityStore.Proofs.Query.Inverse
import EntityStore.Registry
import Mathlib.Data.List.Nodup

/-!
# Columns named with their table

A query that uses its table under the table's own name may name a column with the table before it. A
name is cut at its first point. So this makes no difference if the name of the table has no point; with
one, as in `app.users`, what is named in this way is taken for a column of a joined table.
-/

namespace EntityStore

/-! ## Names -/

namespace Identifier

/-- Behind the name of a `table` a name is cut if there is no point before. -/
theorem qualifier?_qualified (table column : String) :
    ∃ qualifier rest, qualifier? (table ++ "." ++ column) = some (qualifier, rest) ∧
      (qualifier = table ↔ '.' ∉ table.toList) ∧ ('.' ∉ table.toList → rest = column) := by
  cases found : qualifier? (table ++ "." ++ column) with
  | none => exact absurd (by simp) (qualifier?_eq_none found)
  | some parts =>
    obtain ⟨qualifier, rest⟩ := parts
    have cut := qualifier?_eq_some found
    have own : '.' ∉ table.toList → qualifier = table ∧ rest = column :=
      fun plain => cut.unique ⟨rfl, plain⟩
    refine ⟨qualifier, rest, rfl, ⟨?_, fun plain => (own plain).1⟩, fun plain => (own plain).2⟩
    rintro rfl
    exact cut.2

end Identifier

namespace Query

variable {q : Query} {c : String}

theorem resolve_own (alone : q.rename = none) (plain : Identifier.IsPlain c) :
    q.resolve [] c = (q.table.column c).map fun column => ⟨c, some column⟩ := by
  have unqualified : Identifier.qualifier? c = none := by
    cases found : Identifier.qualifier? c with
    | none => rfl
    | some parts => exact absurd (Identifier.qualifier?_eq_some found).notPlain plain.2
  unfold resolve Table.column
  simp only [plain.1, unqualified, alone, Bool.not_true, Bool.false_eq_true, if_false,
    List.contains_nil]
  cases q.table.column? c <;> rfl

theorem resolve_qualified (named : Identifier.isValid q.table.name false = true)
    (plain : Identifier.IsPlain c) (undotted : '.' ∉ q.table.name.toList) :
    q.resolve [] (q.table.name ++ "." ++ c) =
      (q.table.column c).map fun column => ⟨q.table.name ++ "." ++ c, some column⟩ := by
  obtain ⟨qualifier, rest, cut, own, behind⟩ := Identifier.qualifier?_qualified q.table.name c
  rw [resolve_cut (Identifier.isValid_qualified named plain.1) cut, own.2 undotted, behind undotted,
    if_neg (by simp)]

variable (alone : q.rename = none) (named : Identifier.isValid q.table.name false = true)
  (plain : Identifier.IsPlain c)

include alone named plain

/-- A name that begins with a name of a table with a point is not checked. -/
theorem resolve_dotted (dotted : '.' ∈ q.table.name.toList) :
    q.resolve [] (q.table.name ++ "." ++ c) = .ok ⟨q.table.name ++ "." ++ c, none⟩ := by
  obtain ⟨qualifier, rest, cut, own, -⟩ := Identifier.qualifier?_qualified q.table.name c
  have foreign : qualifier ≠ q.table.name := fun same => own.1 same dotted
  have root : q.root = q.table.name := by rw [Query.root, alone, Option.getD_none]
  rw [resolve_cut (Identifier.isValid_qualified named plain.1) cut, root, if_pos ⟨foreign, foreign⟩]

/-- A column is found behind the name of its table if and only if that name has no point. -/
theorem resolve_qualified_iff :
    q.resolve [] (q.table.name ++ "." ++ c) =
        (q.table.column c).map (fun column => ⟨q.table.name ++ "." ++ c, some column⟩) ↔
      '.' ∉ q.table.name.toList := by
  refine ⟨fun same dotted => ?_, resolve_qualified named plain⟩
  rw [resolve_dotted alone named plain dotted] at same
  cases declared : q.table.column c with
  | ok column =>
    rw [declared] at same
    cases same
  | error e =>
    rw [declared] at same
    cases same

end Query

/-! ## Filters -/

namespace Condition

section

variable {resolve resolve' : String → Except Error Reference} {text : String → String}

/-- The condition with its columns named by `text`. -/
def renamed (text : String → String) (c : Condition) : Condition := c.replaced text fun _ v => v

theorem renamed_all (conditions : List Condition) :
    (Condition.all conditions).renamed text = .all (conditions.map (renamed text)) := by
  simp only [renamed, replaced, replacedEach_eq_map]
  rfl

theorem renamed_any (conditions : List Condition) :
    (Condition.any conditions).renamed text = .any (conditions.map (renamed text)) := by
  simp only [renamed, replaced, replacedEach_eq_map]
  rfl

theorem renamed_not (c : Condition) : (Condition.not c).renamed text = .not (c.renamed text) := rfl

theorem allInStorage_renamed {conditions : List Condition}
    (each : ∀ c ∈ conditions,
      (c.renamed text).inStorage resolve' = (c.inStorage resolve).map (renamed text)) :
    allInStorage resolve' (conditions.map (renamed text)) =
      (allInStorage resolve conditions).map (List.map (renamed text)) := by
  induction conditions with
  | nil => rfl
  | cons c rest ih =>
    have others := ih fun c hc => each c (List.mem_cons_of_mem _ hc)
    simp only [List.map_cons, allInStorage, each c List.mem_cons_self, others]
    cases c.inStorage resolve with
    | error e => rfl
    | ok first => cases allInStorage resolve rest <;> rfl

/-- Where other names lead to the same columns, a condition with the other names is put into the
terms of the database as the condition itself, with the texts of the other names. -/
theorem inStorage_renamed (c : Condition)
    (each : ∀ name ∈ c.columns, resolve' (text name) =
      (resolve name).map fun ref => ⟨text ref.text, ref.column⟩) :
    (c.renamed text).inStorage resolve' = (c.inStorage resolve).map (renamed text) := by
  induction c with
  | all conditions ih =>
    have parts := allInStorage_renamed fun c hc => ih c hc fun name hname =>
      each name (columns_all conditions ▸ List.mem_flatMap_of_mem hc hname)
    rw [renamed_all, inStorage, inStorage, parts]
    cases allInStorage resolve conditions with
    | error e => rfl
    | ok stored => exact congrArg Except.ok (renamed_all stored).symm
  | any conditions ih =>
    have parts := allInStorage_renamed fun c hc => ih c hc fun name hname =>
      each name (columns_any conditions ▸ List.mem_flatMap_of_mem hc hname)
    rw [renamed_any, inStorage, inStorage, parts]
    cases allInStorage resolve conditions with
    | error e => rfl
    | ok stored => exact congrArg Except.ok (renamed_any stored).symm
  | not c ih =>
    rw [renamed_not, inStorage, inStorage, ih (columns_not c ▸ each)]
    cases c.inStorage resolve <;> rfl
  | oneOf column operands =>
    have leaf := of_columns_leaf each rfl
    simp only [renamed, replaced, inStorage, leaf, List.map_id']
    cases resolve column with
    | error e => rfl
    | ok ref => exact congrArg Except.ok (by simp [renamed, replaced])
  | _ =>
    have leaf := of_columns_leaf each rfl
    simp only [renamed, replaced, inStorage, leaf]
    cases resolve _ <;> rfl

theorem column?_of_mem_leafOperands {c : Condition} {operand : String × Value}
    (h : operand ∈ leafOperands c) : c.column? = some operand.1 := by
  cases c with
  | compare | between =>
    simp only [leafOperands, List.mem_cons, List.not_mem_nil, or_false] at h
    rcases h with rfl | rfl <;> rfl
  | oneOf column operands =>
    obtain ⟨v, -, rfl⟩ := List.mem_map.1 h
    rfl
  | _ => cases h

/-- Every operand is compared with a column that the condition names. -/
theorem mem_columns_of_mem_operands {c : Condition} {operand : String × Value}
    (h : operand ∈ c.operands) : operand.1 ∈ c.columns := by
  obtain ⟨leaf, hleaf, h⟩ := List.mem_flatMap.1 h
  exact List.mem_filterMap.2 ⟨leaf, hleaf, column?_of_mem_leafOperands h⟩

theorem operands_renamed (c : Condition) :
    (c.renamed text).operands = c.operands.map fun operand => (text operand.1, operand.2) :=
  operands_replaced text (fun _ v => v) c

theorem params_renamed (d : Dialect) (c : Condition) :
    Sql.params ((c.renamed text).sql d) = Sql.params (c.sql d) := by
  rw [params_sql, params_sql, operands_renamed, List.map_map]
  rfl

end

end Condition

/-- The record with `table` before the names of its fields. -/
def Record.qualified (table : String) (r : Record) : Record where
  fields := r.fields.map fun field => (table ++ "." ++ field.1, field.2)
  distinct := by
    have injective : Function.Injective (table ++ "." ++ ·) := fun a b same => by
      simpa [← String.toList_inj] using same
    have names : (r.fields.map fun field => (table ++ "." ++ field.1, field.2)).map Prod.fst =
        (r.fields.map Prod.fst).map (table ++ "." ++ ·) := by
      rw [List.map_map, List.map_map]
      rfl
    rw [names]
    exact List.Nodup.map injective r.distinct

/-- The filter with `table` before the names of its columns. -/
def Filter.qualified (table : String) : Filter → Filter
  | .matching r => .matching (r.qualified table)
  | .condition c => .condition (c.renamed (table ++ "." ++ ·))

namespace Filter

variable {table : String} {resolve resolve' : String → Except Error Reference} {f : Filter}

theorem mem_columns_of_mem_operands {operand : String × Value} (h : operand ∈ f.operands) :
    operand.1 ∈ f.columns := by
  cases f with
  | condition c => exact Condition.mem_columns_of_mem_operands h
  | matching r =>
    obtain ⟨c, hc, h⟩ := List.mem_flatMap.1 h
    exact List.mem_flatMap_of_mem hc (Condition.mem_columns_of_mem_operands h)

theorem equations_qualified (r : Record) :
    (r.qualified table).equations = r.equations.map (Condition.renamed (table ++ "." ++ ·)) := by
  rw [Record.equations, Record.equations, List.map_map, Record.qualified, List.map_map]
  rfl

theorem columns_qualified (f : Filter) :
    (f.qualified table).columns = f.columns.map (table ++ "." ++ ·) := by
  cases f with
  | condition c => exact Condition.columns_replaced _ _ c
  | matching r =>
    show (r.qualified table).equations.flatMap _ = (r.equations.flatMap _).map _
    rw [equations_qualified, List.flatMap_map, List.map_flatMap]
    exact List.flatMap_congr fun c _ => Condition.columns_replaced _ _ c

theorem operands_qualified (f : Filter) :
    (f.qualified table).operands =
      f.operands.map fun operand => (table ++ "." ++ operand.1, operand.2) := by
  cases f with
  | condition c => exact Condition.operands_renamed c
  | matching r =>
    show (r.qualified table).equations.flatMap _ = (r.equations.flatMap _).map _
    rw [equations_qualified, List.flatMap_map, List.map_flatMap]
    exact List.flatMap_congr fun c _ => Condition.operands_renamed c

theorem params_matching (d : Dialect) (resolve : String → Except Error Reference) (r : Record) :
    ((matching r).sql d resolve).map Sql.params = (Condition.allInStorage resolve r.equations).map
      fun stored => stored.flatMap fun c => Sql.params (c.sql d) := by
  rw [sql_matching]
  cases Condition.allInStorage resolve r.equations with
  | error e => rfl
  | ok stored =>
    refine congrArg Except.ok ?_
    cases stored with
    | nil => rfl
    | cons c rest =>
      rw [if_neg (by simp), Sql.params_joined, Condition.sqlOfEach_eq_map, List.flatMap_map]

/-- Where the names with `table` before them lead to the same columns, a filter by them is accepted
as the one without it, with the same complaint if it is not, and binds the same values. -/
theorem params_qualified (d : Dialect)
    (each : ∀ name ∈ f.columns, resolve' (table ++ "." ++ name) =
      (resolve name).map fun ref => ⟨table ++ "." ++ ref.text, ref.column⟩) :
    ((f.qualified table).sql d resolve').map Sql.params = (f.sql d resolve).map Sql.params := by
  cases f with
  | condition c =>
    have stored : (c.renamed (table ++ "." ++ ·)).inStorage resolve' =
        (c.inStorage resolve).map (Condition.renamed (table ++ "." ++ ·)) :=
      Condition.inStorage_renamed c each
    simp only [qualified, sql, stored]
    cases c.inStorage resolve with
    | error e => rfl
    | ok s => exact congrArg Except.ok (Condition.params_renamed d s)
  | matching r =>
    have stored : Condition.allInStorage resolve' (r.qualified table).equations =
        (Condition.allInStorage resolve r.equations).map
          (List.map (Condition.renamed (table ++ "." ++ ·))) := by
      rw [equations_qualified]
      refine Condition.allInStorage_renamed fun c hc => Condition.inStorage_renamed c fun name hname => ?_
      exact each name (List.mem_flatMap_of_mem hc hname)
    rw [qualified, params_matching, params_matching, stored]
    cases Condition.allInStorage resolve r.equations with
    | error e => rfl
    | ok conditions =>
      refine congrArg Except.ok ?_
      show (conditions.map _).flatMap _ = conditions.flatMap _
      rw [List.flatMap_map]
      exact List.flatMap_congr fun c _ => Condition.params_renamed d c

end Filter

namespace Query

variable {q : Query} {f : Filter}

theorem params_whereClause (q : Query) (d : Dialect) (f : Filter) :
    ((q.filtered f).whereClause d).map Sql.params = (f.sql d (q.resolve [])).map Sql.params := by
  show (Except.map Sql.params (do return .text " WHERE " :: (← f.sql d (q.resolve [])))) = _
  cases f.sql d (q.resolve []) <;> rfl

/-- Values that are compared with columns of joined tables are bound as they are. -/
theorem params_unchecked (d : Dialect)
    (each : ∀ name ∈ f.columns, q.resolve [] name = .ok ⟨name, none⟩) :
    (f.sql d (q.resolve [])).map Sql.params = .ok (f.operands.map Prod.snd) := by
  have accepted : ∃ sql, f.sql d (q.resolve []) = .ok sql := by
    refine (q.checks_filter d false f).exists_ok_iff.2 ?_
    rw [List.forall_mem_map]
    intro name hname
    exact (q.checks_column false name).exists_ok_iff.1 ⟨_, each name hname⟩ _ List.mem_cons_self
  obtain ⟨sql, hsql⟩ := accepted
  have terms := (Filter.sql_eq_ok hsql).2
  have foreign : ∀ name ∈ f.columns, q.columnOf? name = none := fun name hname =>
    (congrArg Reference.column (resolve_eq_ok (each name hname)).2).symm
  rw [hsql, terms]
  refine congrArg Except.ok ?_
  rw [params_sqlInTerms]
  refine List.map_congr_left fun operand hoperand => ?_
  rw [foreign operand.1 (Filter.mem_columns_of_mem_operands hoperand)]
  rfl

end Query

/-- A column without qualifier is found if and only if the table declares it, and otherwise
complained about as unknown. Named with its table it is found in the same way, and the values that a
filter compares with it are stored in the same way, if and only if the name of the table has no
point. With one, the values are bound as they are, which makes no difference where that is their
stored form. -/
theorem qualified_agrees_iff {registry registered : Registry} {key : EntityKey} {q : Query}
    (accepted : registry.register key q.table = .ok registered) (alone : q.rename = none) :
    (∀ c, Identifier.IsPlain c →
      q.resolve [] c = (q.table.column c).map (fun column => ⟨c, some column⟩) ∧
      (q.resolve [] (q.table.name ++ "." ++ c) =
          (q.table.column c).map (fun column => ⟨q.table.name ++ "." ++ c, some column⟩) ↔
        '.' ∉ q.table.name.toList)) ∧
    ∀ (d : Dialect) (f : Filter), (∀ name ∈ f.columns, Identifier.IsPlain name) →
      (((q.filtered (f.qualified q.table.name)).whereClause d).map Sql.params =
          ((q.filtered f).whereClause d).map Sql.params ↔
        '.' ∉ q.table.name.toList ∨
          ((q.filtered f).whereClause d).map Sql.params = .ok (f.operands.map Prod.snd)) := by
  have named : Identifier.isValid q.table.name false = true := by
    unfold Registry.register at accepted
    split at accepted
    · assumption
    · cases accepted
  constructor
  · intro c plain
    exact ⟨Query.resolve_own alone plain, Query.resolve_qualified_iff alone named plain⟩
  · intro d f plain
    rw [Query.params_whereClause, Query.params_whereClause]
    by_cases dotted : '.' ∈ q.table.name.toList
    · -- no column is found, so both sides say that the values are bound as they are
      have unchecked : ∀ name ∈ (f.qualified q.table.name).columns,
          q.resolve [] name = .ok ⟨name, none⟩ := by
        rw [Filter.columns_qualified, List.forall_mem_map]
        exact fun name hname => Query.resolve_dotted alone named (plain name hname) dotted
      rw [Query.params_unchecked d unchecked, Filter.operands_qualified, List.map_map]
      constructor
      · intro same
        exact .inr same.symm
      · rintro (undotted | same)
        · exact absurd dotted undotted
        · exact same.symm
    · refine iff_of_true ?_ (.inl dotted)
      refine Filter.params_qualified d fun name hname => ?_
      rw [Query.resolve_qualified named (plain name hname) dotted,
        Query.resolve_own alone (plain name hname)]
      cases q.table.column name <;> rfl

namespace Accounts

def users (name : String) : Query where
  table := { name := name, columns := [{ name := "active", type := .boolean },
    { name := "email", type := .text }] }

/-- Active users with an address of one domain. -/
def wanted : Filter :=
  .condition (.all [.equal "active" (.bool true), .compare .like "email" (.text "%@example.org")])

theorem users_qualified_agrees :
    ∃ registered, Registry.empty.register ⟨1, "User"⟩ (users "users").table = .ok registered ∧
      (users "users").rename = none ∧ (∀ name ∈ wanted.columns, Identifier.IsPlain name) ∧
      (users "users").resolve [] "users.active" =
        .ok ⟨"users.active", some { name := "active", type := .boolean }⟩ ∧
      (((users "users").filtered (wanted.qualified "users")).whereClause .sqlite).map Sql.params =
        .ok [.int 1, .text "%@example.org"] := by
  have accepted : Registry.empty.register ⟨1, "User"⟩ (users "users").table =
      .ok (Registry.empty.addTable ⟨1, "User"⟩ (users "users").table) := rfl
  have plain : ∀ name ∈ wanted.columns, Identifier.IsPlain name := by decide
  have undotted : '.' ∉ (users "users").table.name.toList := by decide
  obtain ⟨names, filters⟩ := qualified_agrees_iff accepted rfl
  have active := (names "active" (by decide)).2.2 undotted
  have params := (filters .sqlite wanted plain).2 (.inl undotted)
  exact ⟨_, accepted, rfl, plain, active, params⟩

/-- The name of a table may have a point. A column that is named with it is not looked for, and what
is compared with it is bound as it is. -/
theorem dotted_users_disagree :
    (∃ registered, Registry.empty.register ⟨1, "User"⟩ (users "app.users").table = .ok registered) ∧
      (users "app.users").resolve [] "active" =
        .ok ⟨"active", some { name := "active", type := .boolean }⟩ ∧
      (users "app.users").resolve [] "app.users.active" = .ok ⟨"app.users.active", none⟩ ∧
      (users "app.users").resolve [] "salary" = .error (.unknownColumn "app.users" "salary") ∧
      (users "app.users").resolve [] "app.users.salary" = .ok ⟨"app.users.salary", none⟩ ∧
      (((users "app.users").filtered (.condition (.equal "app.users.active" (.bool true)))).whereClause
        .sqlite).map Sql.params = .ok [.bool true] ∧
      (((users "app.users").filtered (.condition (.equal "active" (.bool true)))).whereClause
        .sqlite).map Sql.params = .ok [.int 1] :=
  ⟨⟨_, rfl⟩, rfl, rfl, rfl, rfl, rfl, rfl⟩

end Accounts

end EntityStore
