import EntityStore.Proofs.Statement.Acceptance
import EntityStore.Proofs.Statement.Independence
import Mathlib.Data.List.Nodup

/-!
# Rows that were prepared

Before a row is inserted, each column fills in its own field and leaves the others as they are. So
where no name is declared twice, a prepared row has in each column what that column alone makes of
the value it was given, and all that is not declared stands in it as before. The first name that is
not declared is the same one before and after.
-/

namespace EntityStore

/-! ## What a column makes of its value -/

namespace Column

/-- What `c` leaves of the value that a row has for it: in place of a missing identifier the one
that was `drawn`, and nothing in place of a missing number that the database counts. -/
def filled (c : Column) (drawn : String) (given : Option Value) : Option Value :=
  let missing := (given.map Value.isNull).getD true
  match c.generation with
  | some .uuid => if missing then some (.text drawn) else given
  | some .increment => if missing then none else given
  | none => given

/-- Whether `c` leaves a field of `row` to the database: it holds `Value.null` for a number that the
database counts. -/
def leavesOut (c : Column) (row : Record) : Bool :=
  c.isIncrement && row.contains c.name && row.lacks c.name

/-- Whether `c` adds a field to `row`: there is none for an identifier that is drawn. -/
def adds (c : Column) (row : Record) : Bool := c.isUuid && !row.contains c.name

variable {c : Column} {drawn : String} {row row' : Record}

/-- A column fills in its own field only. -/
theorem get?_prepare (name : String) :
    (c.prepare drawn row).get? name =
      if name = c.name then c.filled drawn (row.get? name) else row.get? name := by
  unfold prepare filled Record.lacks
  cases c.generation with
  | none => exact (ite_self _).symm
  | some way =>
    cases way with
    | uuid =>
      by_cases own : name = c.name
      · subst own
        dsimp only
        split <;> simp [Record.get?_set]
      · dsimp only
        split <;> simp [Record.get?_set, own]
    | increment =>
      by_cases own : name = c.name
      · subst own
        cases given : row.get? c.name with
        | none => simp [Record.contains, given]
        | some v =>
          cases null : v.isNull <;> simp [Record.contains, given, null, Record.get?_erase]
      · dsimp only
        split <;> simp [Record.get?_erase, own]

theorem leavesOut_congr (same : row.get? c.name = row'.get? c.name) :
    c.leavesOut row = c.leavesOut row' := by
  simp only [leavesOut, Record.contains, Record.lacks, same]

theorem adds_congr (same : row.get? c.name = row'.get? c.name) : c.adds row = c.adds row' := by
  simp only [adds, Record.contains, same]

theorem leavesOut_eq_false (filled : c.generation = some .increment →
    ∀ value, row.get? c.name = some value → value.isNull = false) : c.leavesOut row = false := by
  unfold leavesOut isIncrement Record.contains Record.lacks
  by_cases counted : c.generation = some .increment
  · cases given : row.get? c.name with
    | none => simp
    | some value => simp [filled counted value given]
  · simp [counted]

theorem prepare_eq :
    c.prepare drawn row =
      if c.isUuid && row.lacks c.name then row.set c.name (.text drawn)
      else if c.leavesOut row then row.erase c.name else row := by
  unfold prepare leavesOut isIncrement isUuid
  cases c.generation with
  | none => rfl
  | some way => cases way <;> simp

theorem leavesOut_of_isUuid (drawing : c.isUuid = true) : c.leavesOut row = false := by
  have counted : c.isIncrement = false := by
    simp only [isUuid, beq_iff_eq] at drawing
    simp [isIncrement, drawing]
  simp [leavesOut, counted]

/-- A row lacks what is added to it. -/
theorem missing_of_adds (adds : c.adds row = true) : (c.isUuid && row.lacks c.name) = true := by
  simp only [Column.adds, Bool.and_eq_true, Bool.not_eq_true', Record.contains,
    Option.isSome_eq_false_iff, Option.isNone_iff_eq_none] at adds
  simp [Record.lacks, adds]

/-- A column takes its name away, or adds it at the end, or keeps all names. -/
theorem names_prepare :
    (c.prepare drawn row).names =
      (row.names.filter fun name => !(c.leavesOut row && name = c.name)) ++
        if c.adds row then [c.name] else [] := by
  rw [prepare_eq]
  split
  · rename_i missing
    have drawing : c.isUuid = true := (Bool.and_eq_true_iff.1 missing).1
    rw [Record.names_set, leavesOut_of_isUuid drawing, adds, drawing]
    simp only [← Record.contains_iff]
    cases row.contains c.name <;> simp
  · rename_i filled
    have kept : c.adds row = false := by
      rw [Bool.eq_false_iff]
      exact fun adds => filled (missing_of_adds adds)
    rw [kept]
    split
    · rename_i leaves
      rw [Record.names_erase, leaves]
      simp
    · rename_i stays
      simp [stays]

/-- A column that misses nothing in `row` changes nothing. -/
theorem prepare_eq_self (identified : c.isUuid = true → row.lacks c.name = false)
    (stays : c.leavesOut row = false) : c.prepare drawn row = row := by
  have filled : (c.isUuid && row.lacks c.name) = false := by
    cases drawing : c.isUuid with
    | true => exact identified drawing
    | false => rfl
  rw [prepare_eq, filled, stays]
  rfl

end Column

/-! ## The first name that is not declared -/

namespace Table

/-- The first of the `names` that is not a column. -/
def undeclared? (t : Table) (names : List String) : Option String :=
  names.find? fun name => (t.column? name).isNone

variable {t : Table}

theorem undeclared?_eq_none_iff (names : List String) :
    t.undeclared? names = none ↔ ∀ name ∈ names, t.Declares name := by
  simp only [undeclared?, List.find?_eq_none, declares_iff, Option.isNone_iff_eq_none,
    ← Option.isSome_iff_exists, Option.isSome_iff_ne_none, ne_eq]

/-- Checking `names` complains about the first one that is not declared. -/
theorem checkNames_eq (names : List String) :
    t.checkNames names =
      match t.undeclared? names with
      | some name => .error (.unknownColumn t.name name)
      | none => .ok () := by
  induction names with
  | nil => rfl
  | cons name rest ih =>
    unfold undeclared? at ih ⊢
    rw [checkNames, ih, List.find?_cons, column]
    cases t.column? name <;> rfl

theorem undeclared?_append (names names' : List String) :
    t.undeclared? (names ++ names') = (t.undeclared? names).or (t.undeclared? names') :=
  List.find?_append

theorem undeclared?_flatMap {ι : Type} (names : ι → List String) (things : List ι) :
    t.undeclared? (things.flatMap names) =
      things.findSome? fun thing => t.undeclared? (names thing) :=
  List.find?_flatMap

theorem undeclared?_prepare {c : Column} (declared : c ∈ t.columns) (drawn : String)
    (row : Record) :
    t.undeclared? (c.prepare drawn row).names = t.undeclared? row.names := by
  have known : (t.column? c.name).isNone = false := by
    obtain ⟨found, column⟩ := (t.declares_iff c.name).1 ⟨c, declared, rfl⟩
    rw [column, Option.isNone_some]
  unfold undeclared?
  have kept : (row.names.filter fun name => !(c.leavesOut row && name = c.name)).find?
      (fun name => (t.column? name).isNone) = row.names.find? fun name => (t.column? name).isNone := by
    rw [List.find?_filter]
    congr 1
    funext other
    by_cases own : other = c.name
    · simp [own, known]
    · cases t.column? other <;> simp [own]
  have adding : (if c.adds row then [c.name] else []).find?
      (fun name => (t.column? name).isNone) = none := by
    split <;> simp [known]
  rw [Column.names_prepare, List.find?_append, kept, adding, Option.or_none]

/-! ## Whole rows -/

variable (drawn : Nat → String) (row : Record)

/-- Preparing a row does not change what is complained about. -/
theorem undeclared?_prepareRow :
    t.undeclared? (t.prepareRow drawn row).names = t.undeclared? row.names := by
  unfold prepareRow
  refine List.foldlRecOn (motive := fun prepared : Record =>
    t.undeclared? prepared.names = t.undeclared? row.names) _ _ rfl ?_
  intro prepared same column declared
  rw [undeclared?_prepare (List.fst_mem_of_mem_zipIdx declared), same]

theorem undeclared?_prepareRows (rows : List Record) :
    t.undeclared? ((t.prepareRows drawn rows).flatMap Record.names) =
      t.undeclared? (rows.flatMap Record.names) := by
  rw [undeclared?_flatMap, undeclared?_flatMap, prepareRows]
  generalize 0 = start
  induction rows generalizing start with
  | nil => rfl
  | cons row rest ih =>
    rw [List.zipIdx_cons, List.map_cons, List.findSome?_cons, List.findSome?_cons, ih,
      undeclared?_prepareRow]

/-- Columns of other names leave a field as it is. -/
theorem get?_foldl_prepare {columns : List (Column × Nat)} {name : String}
    (others : ∀ column ∈ columns, column.1.name ≠ name) :
    (columns.foldl (fun row column => column.1.prepare (drawn column.2) row) row).get? name =
      row.get? name := by
  refine List.foldlRecOn (motive := fun prepared : Record =>
    prepared.get? name = row.get? name) _ _ rfl ?_
  intro prepared same column given
  rw [Column.get?_prepare, if_neg (others column given).symm, same]

theorem get?_prepareRow_undeclared {name : String} (undeclared : ¬ t.Declares name) :
    (t.prepareRow drawn row).get? name = row.get? name :=
  get?_foldl_prepare drawn row fun column given same =>
    undeclared ⟨column.1, List.fst_mem_of_mem_zipIdx given, same⟩

/-- Where no name is declared twice, `c` alone decides what a prepared row has in it. -/
theorem get?_prepareRow (distinct : (t.columns.map Column.name).Nodup) {c : Column} {place : Nat}
    (declared : (c, place) ∈ t.columns.zipIdx) :
    (t.prepareRow drawn row).get? c.name = c.filled (drawn place) (row.get? c.name) := by
  obtain ⟨before, after, split⟩ := List.append_of_mem declared
  have names : t.columns.map Column.name =
      before.map (fun column => column.1.name) ++
        c.name :: after.map fun column => column.1.name := by
    rw [← List.zipIdx_map_fst 0 t.columns, List.map_map, split, List.map_append, List.map_cons]
    rfl
  rw [names, List.nodup_middle, List.nodup_cons, List.mem_append, not_or] at distinct
  obtain ⟨⟨notBefore, notAfter⟩, -⟩ := distinct
  have earlier : ∀ column ∈ before, column.1.name ≠ c.name :=
    fun column given same => notBefore (List.mem_map.2 ⟨column, given, same⟩)
  have later : ∀ column ∈ after, column.1.name ≠ c.name :=
    fun column given same => notAfter (List.mem_map.2 ⟨column, given, same⟩)
  rw [prepareRow, split, List.foldl_append, List.foldl_cons, get?_foldl_prepare drawn _ later,
    Column.get?_prepare, if_pos rfl, get?_foldl_prepare drawn _ earlier]

variable {drawn} {row}

theorem exists_place {c : Column} (declared : c ∈ t.columns) :
    ∃ place, (c, place) ∈ t.columns.zipIdx := by
  obtain ⟨place, found⟩ := List.mem_iff_getElem?.1 declared
  exact ⟨place, List.mk_mem_zipIdx_iff_getElem?.2 found⟩

/-- A missing number is left out, so that the database counts it. -/
theorem get?_prepareRow_increment (distinct : (t.columns.map Column.name).Nodup) {c : Column}
    (declared : c ∈ t.columns) (counted : c.generation = some .increment) :
    (t.prepareRow drawn row).get? c.name = if row.lacks c.name then none else row.get? c.name := by
  obtain ⟨place, found⟩ := exists_place declared
  rw [get?_prepareRow _ _ distinct found, Column.filled, counted]
  rfl

/-- No identifier is missing. -/
theorem lacks_prepareRow_uuid (distinct : (t.columns.map Column.name).Nodup) {c : Column}
    (declared : c ∈ t.columns) (drawing : c.generation = some .uuid) :
    (t.prepareRow drawn row).lacks c.name = false := by
  obtain ⟨place, found⟩ := exists_place declared
  rw [Record.lacks, get?_prepareRow _ _ distinct found, Column.filled, drawing]
  dsimp only
  split
  · rfl
  · rename_i given
    simpa using given

/-- A `value` is kept, unless it is `Value.null` in a column that is made up. -/
theorem get?_prepareRow_given (distinct : (t.columns.map Column.name).Nodup) {name : String}
    {value : Value} (given : row.get? name = some value) :
    (t.prepareRow drawn row).get? name = some value ∨
      value.isNull = true ∧ ∃ c ∈ t.columns, c.name = name ∧ c.generation ≠ none := by
  by_cases declared : t.Declares name
  · obtain ⟨c, known, rfl⟩ := declared
    obtain ⟨place, found⟩ := exists_place known
    rw [get?_prepareRow _ _ distinct found, Column.filled, given]
    cases generation : c.generation with
    | none => exact .inl rfl
    | some way =>
      cases null : value.isNull with
      | true => exact .inr ⟨rfl, c, known, rfl, by rw [generation]; exact Option.some_ne_none _⟩
      | false => cases way <;> exact .inl (by simp [null])
  · rw [get?_prepareRow_undeclared drawn row declared]
    exact .inl given

end Table

end EntityStore
