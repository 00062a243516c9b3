import EntityStore.Proofs.Keyed
import EntityStore.Proofs.Statement.Placeholder
import EntityStore.Proofs.Statement.Row
import EntityStore.Proofs.Statement.Scanning

/-!
# Inserting or updating

The statement that inserts or updates a row differs among the dialects in its clause for a row that
is already there. It is read back without knowing for which dialect it was written: in all of them
it inserts the same columns, and every column but the key takes the value that was to be inserted.
-/

namespace EntityStore

open Sql

/-! ## Texts -/

/-- The assignment by which `column` takes the inserted value. -/
def Dialect.assignmentText (d : Dialect) (column : String) : String :=
  column ++ " = " ++ match d with
    | sqlite | d1 => "excluded." ++ column
    | postgres => "EXCLUDED." ++ column
    | mysql => "VALUES(" ++ column ++ ")"

/-- The clause for a row that is already there with the same `key`, and of which the `updated`
columns take the inserted values. -/
def Dialect.conflictText (d : Dialect) (key : String) (updated : List String) : String :=
  let assignments := ", ".intercalate (updated.map d.assignmentText)
  let action := if updated = [] then "NOTHING" else "UPDATE SET " ++ assignments
  match d with
  | sqlite | d1 => " ON CONFLICT(" ++ key ++ ") DO " ++ action
  | postgres => " ON CONFLICT (" ++ key ++ ") DO " ++ action
  | mysql => " ON DUPLICATE KEY UPDATE " ++
    if updated = [] then key ++ " = " ++ key else assignments

theorem Dialect.assignmentText_eq (d : Dialect) (column : String) :
    column ++ " = " ++ d.insertedValue column = d.assignmentText column := by
  cases d <;> rfl

theorem Dialect.onConflict_eq (d : Dialect) (columns : List String) (key : String) :
    d.onConflict columns key = d.conflictText key (columns.filter (· ≠ key)) := by
  unfold onConflict conflictUpdates?
  cases columns.filter (· ≠ key) with
  | nil =>
    cases d with
    | mysql =>
      show " ON DUPLICATE KEY " ++ "UPDATE " ++ ", ".intercalate [key ++ " = " ++ key] = _
      rw [String.intercalate_singleton]
      rfl
    | _ => rfl
  | cons c others =>
    simp only [assignmentText_eq]
    cases d with
    | mysql => rfl
    | _ => exact String.append_assoc

theorem textFrom_upsertRow (d : Dialect) (table : String) (fields : List (String × Value))
    (key : String) : textFrom d 1 (upsertRow d table fields key) =
      d.insertText table (fields.map Prod.fst) ++
        d.conflictText key ((fields.map Prod.fst).filter (· ≠ key)) := by
  rw [upsertRow, textFrom_append, textFrom_insertRow, Dialect.onConflict_eq]
  simp [textFrom]

theorem Dialect.upsert_eq (d : Dialect) (table : String) (columns : List String) (key : String) :
    d.upsert table columns key =
      d.insertText table columns ++ d.conflictText key (columns.filter (· ≠ key)) := by
  have names : (columns.map fun c => (c, Value.null)).map Prod.fst = columns := by
    simp [Function.comp_def]
  unfold upsert statement
  rw [textFrom_upsertRow, names]

/-- The statement by which a table `t` inserts or updates a `row` is the one of the dialect for the
names of the row, with the stored values of the row. -/
theorem Table.upsertStatement_eq_ok {t : Table} {d : Dialect} {primary : Column} {row : Record}
    {s : Statement} (built : t.upsertStatement d primary row = .ok s) :
    s = ⟨d.upsert t.name row.names primary.name, t.storedValues row⟩ := by
  rw [upsertStatement, Except.bind_eq_ok] at built
  obtain ⟨_, -, built⟩ := built
  cases built
  unfold statement
  rw [textFrom_upsertRow, map_fst_storedFields, Dialect.upsert_eq, upsertRow, params_append,
    params_insertRow, map_snd_storedFields]
  exact congrArg (Statement.mk _) (List.append_nil _)

/-! ## Reading -/

namespace Sql

/-- Where an assigned value comes from. -/
inductive Source where
  /-- The row that was to be inserted. -/
  | inserted (column : String)
  /-- The row that is already there. -/
  | present (column : String)

/-- What a statement that inserts or updates a row says. -/
structure Upsertion where
  table : String
  columns : List String
  places : List String
  /-- The column that tells which row is already there, if the statement names it. -/
  target : Option String
  assignments : List (String × Source)

/-- The value of `column` in the row that is already there once the statement has been run. -/
def Upsertion.after {α : Type} (u : Upsertion) (inserted present : String → α) (column : String) :
    α :=
  match u.assignments.lookup column with
  | some (.inserted c) => inserted c
  | some (.present c) => present c
  | none => present column

def readName? : List Lexeme → Option String
  | [.word cs] => some (String.ofList cs)
  | _ => none

/-- Read a list of names in parentheses, and what follows it. -/
def readNames? : List Lexeme → Option (List String × List Lexeme)
  | .opening :: ls => do
    let (items, rest) ← cut? 0 ls
    return (← items.mapM readName?, rest)
  | _ => none

/-- Read the value of an assignment: a column that is qualified, the argument of a function, or a
column by itself. -/
def readSource? : List Lexeme → Option Source
  | [.word cs] =>
    match cs.dropWhile (· ≠ '.') with
    | [] => some (.present (String.ofList cs))
    | _ :: column =>
      if (cs.takeWhile (· ≠ '.')).map Char.toLower = "excluded".toList then
        some (.inserted (String.ofList column))
      else none
  | [.word function, .opening, .word column, .closing] =>
    if function = "VALUES".toList then some (.inserted (String.ofList column)) else none
  | _ => none

def readAssignment? : List Lexeme → Option (String × Source)
  | .word column :: .word ['='] :: value =>
    (readSource? value).map (String.ofList column, ·)
  | _ => none

/-- Read assignments that go on up to the end. -/
def readAssignments? (ls : List Lexeme) : Option (List (String × Source)) :=
  match cut? 0 (ls ++ [.closing]) with
  | some (items, []) => items.mapM readAssignment?
  | _ => none

/-- Read the clause for a row that is already there: the column that tells which it is, and the
assignments. -/
def readConflict? (ls : List Lexeme) : Option (Option String × List (String × Source)) :=
  match after? ["ON", "DUPLICATE", "KEY", "UPDATE"] ls, after? ["ON", "CONFLICT"] ls with
  | some assignments, _ => (readAssignments? assignments).map (none, ·)
  | none, some (.opening :: .word key :: .closing :: action) =>
    if action = wordsOf ["DO", "NOTHING"] then some (some (String.ofList key), [])
    else ((after? ["DO", "UPDATE", "SET"] action).bind readAssignments?).map
      (some (String.ofList key), ·)
  | none, _ => none

def readUpsertion? (ls : List Lexeme) : Option Upsertion := do
  match ← after? ["INSERT", "INTO"] ls with
  | .word table :: rest =>
    let (columns, rest) ← readNames? rest
    let (places, rest) ← readNames? (← after? ["VALUES"] rest)
    let (target, assignments) ← readConflict? rest
    return ⟨String.ofList table, columns, places, target, assignments⟩
  | _ => none

theorem mapM_eq_some {α β : Type} {f : α → Option β} {as : List α} {bs : List β}
    (each : List.Forall₂ (fun a b => f a = some b) as bs) : as.mapM f = some bs := by
  induction each with
  | nil => rfl
  | cons first _ ih =>
    rw [List.mapM_cons, first, ih]
    rfl

/-! ## Names -/

theorem scan?_names {names : List String} (nonempty : names ≠ [])
    (unbroken : ∀ name ∈ names, Unbroken name.toList) :
    scan? (", ".intercalate names).toList = some ([Lexeme.comma].intercalate (nameParts names)) ∧
      ∀ rest, readNames? (.opening :: ([Lexeme.comma].intercalate (nameParts names) ++
        .closing :: rest)) = some (names, rest) := by
  have listed : nameParts names ≠ [] := mt List.map_eq_nil_iff.1 nonempty
  have whole : ∀ part ∈ nameParts names, Whole part :=
    List.forall_mem_map.2 fun name _ => passes_word 0 name.toList
  obtain ⟨scanned, cut⟩ := scan?_list listed (scan?_nameParts unbroken) whole
  have read : (nameParts names).mapM readName? = some names :=
    mapM_eq_some (List.forall₂_map_left_iff.2 (List.forall₂_same.2 fun name _ =>
      congrArg some String.ofList_toList))
  refine ⟨scanned, fun rest => ?_⟩
  rw [readNames?, cut]
  simp [read]

theorem unbroken_placeholder (d : Dialect) (n : Nat) : Unbroken (d.placeholder n).toList := by
  have numbered : Unbroken ("$" ++ toString n).toList := by
    rw [String.toList_append, Text.toList_toString]
    exact ⟨List.cons_ne_nil _ _, List.forall_mem_cons.2 ⟨by decide, (unbroken_digits n).2⟩⟩
  have mark : Unbroken "?".toList := by decide
  cases d with
  | postgres => exact numbered
  | _ => exact mark

/-! ## Assignments -/

/-- A column is read from its name behind the name of the row that was to be inserted. -/
theorem qualified_read (front : String) {column : String} (plain : Unbroken front.toList)
    (read : ∀ cs, readSource? [.word (front.toList ++ cs)] = some (.inserted (String.ofList cs)))
    (unbroken : Unbroken column.toList) :
    ∃ value, scan? (front ++ column).toList = some value ∧ Whole value ∧
      readSource? value = some (.inserted column) := by
  have together : Unbroken (front.toList ++ column.toList) :=
    ⟨List.append_ne_nil_of_left_ne_nil plain.1 _,
      List.forall_mem_append.2 ⟨plain.2, unbroken.2⟩⟩
  refine ⟨[.word (front.toList ++ column.toList)], ?_, passes_word 0 _, ?_⟩
  · rw [String.toList_append]
    exact scan?_word together
  · rw [read, String.ofList_toList]

theorem insertedValue_read (d : Dialect) {column : String} (unbroken : Unbroken column.toList) :
    ∃ value, scan? (d.insertedValue column).toList = some value ∧ Whole value ∧
      readSource? value = some (.inserted column) := by
  have argument : ∃ value, scan? ("VALUES(" ++ column ++ ")").toList = some value ∧ Whole value ∧
      readSource? value = some (.inserted column) := by
    have function : scan? "VALUES(".toList = some [.word "VALUES".toList, .opening] := by cbv
    have closing : scan? ")".toList = some [.closing] := scan?_single rfl
    refine ⟨[.word "VALUES".toList, .opening] ++ [.word column.toList] ++ [.closing], ?_, ?_, ?_⟩
    · rw [String.toList_append, String.toList_append]
      exact scan?_append (scan?_append function (scan?_word unbroken) (.inl rfl)) closing
        (.inr rfl)
    · exact (((passes_word 0 _).append (passes_opening 0)).append (passes_word 1 _)).append
        (passes_closing 0)
    · show some (Source.inserted (String.ofList column.toList)) = _
      rw [String.ofList_toList]
  cases d with
  | sqlite | d1 => exact qualified_read "excluded." (by decide) (fun _ => rfl) unbroken
  | postgres => exact qualified_read "EXCLUDED." (by decide) (fun _ => rfl) unbroken
  | mysql => exact argument

theorem separator_equals : Separator " = " [.word ['=']] := ⟨by decide, by cbv, rfl, rfl⟩

theorem assignmentText_read (d : Dialect) {column : String} (unbroken : Unbroken column.toList) :
    ∃ part, scan? (d.assignmentText column).toList = some part ∧ Whole part ∧
      readAssignment? part = some (column, .inserted column) := by
  obtain ⟨value, scanned, whole, read⟩ := insertedValue_read d unbroken
  refine ⟨[.word column.toList] ++ [.word ['=']] ++ value, ?_, ?_, ?_⟩
  · rw [← Dialect.assignmentText_eq, String.toList_append, String.toList_append]
    exact scan?_between separator_equals (scan?_word unbroken) scanned
  · exact ((passes_word 0 _).append (passes_word 0 _)).append whole
  · show (readSource? value).map (String.ofList column.toList, ·) = _
    rw [read, String.ofList_toList]
    rfl

theorem assignments_read (d : Dialect) {columns : List String} (nonempty : columns ≠ [])
    (unbroken : ∀ column ∈ columns, Unbroken column.toList) :
    ∃ ls, scan? (", ".intercalate (columns.map d.assignmentText)).toList = some ls ∧
      readAssignments? ls = some (columns.map fun column => (column, .inserted column)) := by
  have each := fun column member => assignmentText_read d (unbroken column member)
  choose! part scanned whole read using each
  have parts : columns.map part ≠ [] := mt List.map_eq_nil_iff.1 nonempty
  have texts : List.Forall₂ (fun text part => scan? text.toList = some part)
      (columns.map d.assignmentText) (columns.map part) :=
    List.forall₂_map_left_iff.2 (List.forall₂_map_right_iff.2 (List.forall₂_same.2 scanned))
  obtain ⟨list, cut⟩ := scan?_list parts texts (List.forall_mem_map.2 whole)
  refine ⟨_, list, ?_⟩
  rw [readAssignments?, cut]
  exact mapM_eq_some
    (List.forall₂_map_left_iff.2 (List.forall₂_map_right_iff.2 (List.forall₂_same.2 read)))

/-! ## Clauses -/

/-- What a statement does with a row that is already there, where it names the key. -/
theorem action_read (d : Dialect) {updated : List String}
    (unbroken : ∀ column ∈ updated, Unbroken column.toList) :
    ∃ ls, scan? (if updated = [] then "NOTHING"
        else "UPDATE SET " ++ ", ".intercalate (updated.map d.assignmentText)).toList = some ls ∧
      ∀ key, readConflict? (wordsOf ["ON", "CONFLICT"] ++ .opening :: .word key :: .closing ::
        .word "DO".toList :: ls) = some (some (String.ofList key),
          updated.map fun column => (column, .inserted column)) := by
  by_cases none : updated = []
  · rw [if_pos none, none]
    exact ⟨wordsOf ["NOTHING"], scan?_word (by decide), fun _ => rfl⟩
  · obtain ⟨ls, scanned, read⟩ := assignments_read d none unbroken
    have words : scan? "UPDATE SET ".toList = some (wordsOf ["UPDATE", "SET"]) := by cbv
    refine ⟨wordsOf ["UPDATE", "SET"] ++ ls, ?_, fun key => ?_⟩
    · rw [if_neg none, String.toList_append]
      exact scan?_append words scanned (.inl rfl)
    · show (((after? ["DO", "UPDATE", "SET"] (wordsOf ["DO", "UPDATE", "SET"] ++ ls)).bind
        readAssignments?).map _) = _
      rw [after?_append, Option.bind_some, read]
      rfl

end Sql

/-- The column by which a statement tells which row is already there. -/
def Dialect.target? (key : String) : Dialect → Option String
  | mysql => none
  | _ => some key

/-- The assignments of a statement of which the `updated` columns take the inserted values. If there
are none, the key keeps its value where an assignment has to be stated. -/
def Dialect.assignments (d : Dialect) (key : String) (updated : List String) :
    List (String × Source) :=
  if updated = [] ∧ d = mysql then [(key, .present key)]
  else updated.map fun column => (column, .inserted column)

theorem Dialect.assignments_of_ne {d : Dialect} (other : d ≠ mysql) (key : String)
    (updated : List String) :
    d.assignments key updated = updated.map fun column => (column, .inserted column) :=
  if_neg fun h => other h.2

namespace Sql

variable {key : String} {updated : List String} (unbroken : Unbroken key.toList)

include unbroken

theorem namedConflict_read (front : String) {d : Dialect}
    (opened : scan? front.toList = some (wordsOf ["ON", "CONFLICT"] ++ [.opening]))
    (ends : front.toList.getLast?.all separates = true)
    (columns : ∀ column ∈ updated, Unbroken column.toList) :
    ∃ ls, scan? (front ++ key ++ ") DO " ++ if updated = [] then "NOTHING"
        else "UPDATE SET " ++ ", ".intercalate (updated.map d.assignmentText)).toList = some ls ∧
      readConflict? ls =
        some (some key, updated.map fun column => (column, .inserted column)) := by
  obtain ⟨action, scanned, read⟩ := action_read d columns
  have closed : Separator ") DO " [.closing, .word "DO".toList] := ⟨by decide, by cbv, rfl, rfl⟩
  have named := scan?_append opened (scan?_word unbroken) (.inl ends)
  have whole := scan?_between closed named scanned
  refine ⟨_, ?_, (read key.toList).trans (by rw [String.ofList_toList])⟩
  rw [String.toList_append, String.toList_append, String.toList_append, whole]
  rfl

theorem readAssignments?_itself (point : '.' ∉ key.toList) :
    ∃ ls, scan? (key ++ " = " ++ key).toList = some ls ∧
      readAssignments? ls = some [(key, .present key)] := by
  have word := scan?_word unbroken
  have source : readSource? [.word key.toList] = some (.present key) := by
    have none : key.toList.dropWhile (· ≠ '.') = [] :=
      List.dropWhile_eq_nil_iff.2 fun c hc => decide_eq_true fun same => point (same ▸ hc)
    rw [readSource?, none]
    exact congrArg (some ∘ Source.present) String.ofList_toList
  refine ⟨[.word key.toList] ++ [.word ['=']] ++ [.word key.toList], ?_, ?_⟩
  · rw [String.toList_append, String.toList_append]
    exact scan?_between separator_equals word word
  · -- without a comma the parts are one assignment
    show [[Lexeme.word key.toList, .word ['='], .word key.toList]].mapM readAssignment? = _
    refine mapM_eq_some (.cons ?_ .nil)
    rw [readAssignment?, source, String.ofList_toList]
    rfl

end Sql

theorem Dialect.conflictText_starts (d : Dialect) (key : String) (updated : List String) :
    (d.conflictText key updated).toList.head?.all separates = true := by
  unfold conflictText
  cases d <;> simp [separates]

theorem Dialect.conflictText_read (d : Dialect) {key : String} {updated : List String}
    (unbroken : Unbroken key.toList) (point : '.' ∉ key.toList)
    (columns : ∀ column ∈ updated, Unbroken column.toList) :
    ∃ ls, scan? (d.conflictText key updated).toList = some ls ∧
      readConflict? ls = some (d.target? key, d.assignments key updated) := by
  cases d with
  | sqlite | d1 =>
    rw [assignments_of_ne (by decide)]
    exact namedConflict_read unbroken " ON CONFLICT(" (by cbv) (by decide) columns
  | postgres =>
    rw [assignments_of_ne (by decide)]
    exact namedConflict_read unbroken " ON CONFLICT (" (by cbv) (by decide) columns
  | mysql =>
    have clause : ∃ ls, scan? (if updated = [] then key ++ " = " ++ key
        else ", ".intercalate (updated.map mysql.assignmentText)).toList = some ls ∧
        readAssignments? ls = some (mysql.assignments key updated) := by
      by_cases none : updated = []
      · rw [if_pos none, assignments, if_pos ⟨none, rfl⟩]
        exact readAssignments?_itself unbroken point
      · rw [if_neg none, assignments, if_neg fun h => none h.1]
        exact assignments_read mysql none columns
    obtain ⟨ls, scanned, read⟩ := clause
    have words : scan? " ON DUPLICATE KEY UPDATE ".toList =
        some (wordsOf ["ON", "DUPLICATE", "KEY", "UPDATE"]) := by cbv
    refine ⟨wordsOf ["ON", "DUPLICATE", "KEY", "UPDATE"] ++ ls, ?_, ?_⟩
    · unfold conflictText
      rw [String.toList_append]
      exact scan?_append words scanned (.inl rfl)
    · simp only [readConflict?, after?_append, read]
      rfl

/-! ## Statements -/

namespace Sql

/-- The parts of a statement that inserts a row with the given `columns` into `table`, and what
follows them. -/
def insertion (table : String) (columns places : List String) (rest : List Lexeme) : List Lexeme :=
  wordsOf ["INSERT", "INTO"] ++ .word table.toList :: .opening ::
    ([Lexeme.comma].intercalate (nameParts columns) ++ .closing ::
      (wordsOf ["VALUES"] ++ .opening ::
        ([Lexeme.comma].intercalate (nameParts places) ++ .closing :: rest)))

variable {d : Dialect} {table : String} {columns : List String} (nonempty : columns ≠ [])
  (names : ∀ column ∈ columns, Unbroken column.toList)

include nonempty

theorem scan?_places : scan? (", ".intercalate (d.places 1 columns.length)).toList =
      some ([Lexeme.comma].intercalate (nameParts (d.places 1 columns.length))) ∧
    ∀ rest, readNames? (.opening :: ([Lexeme.comma].intercalate
      (nameParts (d.places 1 columns.length)) ++ .closing :: rest)) =
        some (d.places 1 columns.length, rest) := by
  refine scan?_names ?_ ?_
  · simpa [Dialect.places] using nonempty
  · exact List.forall_mem_map.2 fun n _ => unbroken_placeholder d n

include names

theorem scan?_insertText (name : Unbroken table.toList) :
    scan? (d.insertText table columns).toList =
      some (insertion table columns (d.places 1 columns.length) []) := by
  have head : scan? "INSERT INTO ".toList = some (wordsOf ["INSERT", "INTO"]) := by cbv
  have opening : Separator " (" [.opening] := ⟨by decide, by cbv, rfl, rfl⟩
  have between : Separator ") VALUES (" (.closing :: wordsOf ["VALUES"] ++ [.opening]) :=
    ⟨by decide, by cbv, rfl, rfl⟩
  have closing : scan? ")".toList = some [.closing] := scan?_single rfl
  have named := scan?_append head (scan?_word name) (.inl rfl)
  have filled := scan?_between opening named (scan?_names nonempty names).1
  have numbered := scan?_between between filled (scan?_places (d := d) nonempty).1
  have whole := scan?_append numbered closing (.inr rfl)
  unfold Dialect.insertText
  rw [String.toList_append, String.toList_append, String.toList_append, String.toList_append,
    String.toList_append, String.toList_append, whole]
  simp [insertion]

/-- A statement is read up to its clause for a row that is already there. -/
theorem readUpsertion?_insertion {rest : List Lexeme} {target : Option String}
    {assignments : List (String × Source)}
    (read : readConflict? rest = some (target, assignments)) :
    readUpsertion? (insertion table columns (d.places 1 columns.length) [] ++ rest) =
      some ⟨table, columns, d.places 1 columns.length, target, assignments⟩ := by
  have further : insertion table columns (d.places 1 columns.length) [] ++ rest =
      insertion table columns (d.places 1 columns.length) rest := by
    simp [insertion]
  rw [further, readUpsertion?, insertion, after?_append]
  simp [(scan?_names nonempty names).2, (scan?_places nonempty).2, after?_append, read]

end Sql

/-! ## Effects -/

theorem lookup_inserted (updated : List String) (c : String) :
    (updated.map fun column => (column, Source.inserted column)).lookup c =
      if c ∈ updated then some (.inserted c) else none := by
  induction updated with
  | nil => rfl
  | cons column rest ih =>
    rw [List.map_cons, lookup_entry, ih]
    by_cases first : c = column
    · simp [first]
    · simp [first]

/-- The assignments change the columns that take the inserted values and no other. -/
theorem Sql.Upsertion.after_eq {α : Type} {u : Upsertion} {d : Dialect} {key : String}
    {updated : List String} (assigns : u.assignments = d.assignments key updated)
    (inserted present : String → α) (c : String) :
    u.after inserted present c = if c ∈ updated then inserted c else present c := by
  rw [after, assigns, Dialect.assignments]
  by_cases kept : updated = [] ∧ d = .mysql
  · rw [if_pos kept, kept.1, lookup_entry]
    by_cases same : c = key
    · simp [same]
    · simp [same]
  · rw [if_neg kept, lookup_inserted]
    by_cases taken : c ∈ updated
    · simp [taken]
    · simp [taken]

/-- No column is left where `key` is the only one. -/
theorem others_eq_nil_iff {columns : List String} (nonempty : columns ≠ [])
    (distinct : columns.Nodup) (key : String) :
    columns.filter (· ≠ key) = [] ↔ columns = [key] := by
  rw [List.filter_eq_nil_iff]
  constructor
  · intro none
    cases columns with
    | nil => exact absurd rfl nonempty
    | cons c rest =>
      have only : ∀ x ∈ c :: rest, x = key := fun x member => by simpa using none x member
      have first : c = key := only c List.mem_cons_self
      have empty : rest = [] := List.eq_nil_iff_forall_not_mem.2 fun x member => by
        have same : x = key := only x (List.mem_cons_of_mem c member)
        exact (List.nodup_cons.1 distinct).1 (first.trans same.symm ▸ member)
      rw [first, empty]
  · rintro rfl
    simp

/-- In every dialect, the statement that inserts or updates a row inserts the `columns` in their
order, and every column but the `key` takes the inserted value, once and in its order. It is the
statement that a table of this name sends for a row of these columns. Read back, it changes the
`updated` columns of a row that is already there and no other. -/
theorem Dialect.upsert_updates_others {columns : List String} (nonempty : columns ≠ [])
    (distinct : columns.Nodup) (table key : String) :
    ∃ updated : List String,
      (updated.Sublist columns ∧ updated.Nodup ∧ (∀ c, c ∈ updated ↔ c ∈ columns ∧ c ≠ key) ∧
        (updated = [] ↔ columns = [key])) ∧
      ∀ d : Dialect,
        d.upsert table columns key = d.insertText table columns ++ d.conflictText key updated ∧
        (∀ (t : Table) (primary : Column) (row : Record) (s : Statement), t.name = table →
          primary.name = key → row.names = columns → t.upsertStatement d primary row = .ok s →
            s = ⟨d.upsert table columns key, t.storedValues row⟩) ∧
        ((∀ name ∈ table :: key :: columns, Unbroken name.toList) → '.' ∉ key.toList →
          ∃ u, (scan? (d.upsert table columns key).toList).bind readUpsertion? = some u ∧
            u.table = table ∧ u.columns = columns ∧ u.places = d.places 1 columns.length ∧
            u.target = d.target? key ∧ u.assignments = d.assignments key updated ∧
            ∀ (α : Type) (inserted present : String → α) (c : String),
              u.after inserted present c =
                if c ∈ columns ∧ c ≠ key then inserted c else present c) := by
  have others : ∀ c, c ∈ columns.filter (· ≠ key) ↔ c ∈ columns ∧ c ≠ key := fun c => by simp
  refine ⟨columns.filter (· ≠ key), ⟨List.filter_sublist, distinct.filter _, others,
    others_eq_nil_iff nonempty distinct key⟩, fun d => ⟨upsert_eq d table columns key, ?_, ?_⟩⟩
  · rintro t primary row s rfl rfl rfl built
    exact Table.upsertStatement_eq_ok built
  · intro unbroken point
    obtain ⟨name, unbroken⟩ := List.forall_mem_cons.1 unbroken
    obtain ⟨keyed, names⟩ := List.forall_mem_cons.1 unbroken
    obtain ⟨clause, scanned, read⟩ := d.conflictText_read keyed point
      fun c member => names c ((others c).1 member).1
    have parted : Parted (d.insertText table columns).toList
        (d.conflictText key (columns.filter (· ≠ key))).toList := .inr (d.conflictText_starts _ _)
    have whole := scan?_append (scan?_insertText (d := d) nonempty names name) scanned parted
    refine ⟨⟨table, columns, d.places 1 columns.length, d.target? key,
      d.assignments key (columns.filter (· ≠ key))⟩, ?_, rfl, rfl, rfl, rfl, rfl, ?_⟩
    · rw [upsert_eq, String.toList_append, whole]
      exact readUpsertion?_insertion nonempty names read
    · intro α inserted present c
      rw [Upsertion.after_eq (d := d) rfl]
      simp only [others]

namespace Roster

def columns : List String := ["name", "id", "mail"]

theorem columns_upserted :
    (columns ≠ [] ∧ columns.Nodup ∧ (∀ name ∈ "member" :: "id" :: columns, Unbroken name.toList) ∧
      '.' ∉ "id".toList) ∧
    Dialect.postgres.upsert "member" columns "id" =
      "INSERT INTO member (name, id, mail) VALUES ($1, $2, $3) ON CONFLICT (id) DO UPDATE SET " ++
        "name = EXCLUDED.name, mail = EXCLUDED.mail" ∧
    Dialect.mysql.upsert "member" ["id"] "id" =
      "INSERT INTO member (id) VALUES (?) ON DUPLICATE KEY UPDATE id = id" ∧
    ∀ d : Dialect, ∃ u,
      (scan? (d.upsert "member" columns "id").toList).bind readUpsertion? = some u ∧
        ∀ inserted present : String → Value, u.after inserted present "mail" = inserted "mail" ∧
          u.after inserted present "id" = present "id" := by
  have nonempty : columns ≠ [] := List.cons_ne_nil _ _
  have distinct : columns.Nodup := by decide
  have unbroken : ∀ name ∈ "member" :: "id" :: columns, Unbroken name.toList := by decide
  have point : '.' ∉ "id".toList := by decide
  refine ⟨⟨nonempty, distinct, unbroken, point⟩, by rfl, by rfl, fun d => ?_⟩
  obtain ⟨_, -, statements⟩ := Dialect.upsert_updates_others nonempty distinct "member" "id"
  obtain ⟨u, read, -, -, -, -, -, after⟩ := (statements d).2.2 unbroken point
  refine ⟨u, read, fun inserted present => ⟨?_, ?_⟩⟩
  · rw [after, if_pos (by decide)]
  · rw [after, if_neg (by decide)]

end Roster

end EntityStore
