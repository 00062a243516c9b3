import EntityStore.Proofs.Statement.Preparation

/-!
# What preparing a row leaves as it was

Preparing a row touches only what the table makes up. A missing number leaves its place, a missing
identifier is filled in at its place or goes to the end, in the order of the columns, and all other
fields stay where they are with the values that they have. A row that was prepared lacks nothing more,
so to prepare it again changes nothing.
-/

namespace EntityStore

/-! ## Names that leave and names that are added -/

/-- The fields of `row` that `columns` leave to the database. -/
def leftOut (columns : List Column) (row : Record) : List String :=
  (columns.filter fun c => c.leavesOut row).map Column.name

/-- The fields that `columns` add to `row`, in their order. -/
def added (columns : List Column) (row : Record) : List String :=
  (columns.filter fun c => c.adds row).map Column.name

/-- What is made of `row` before it is inserted. -/
structure Table.Fills (t : Table) (drawn : Nat → String) (row prepared : Record) : Prop where
  /-- No identifier is missing. -/
  identified : ∀ c ∈ t.columns, c.generation = some .uuid →
    ∃ value, prepared.get? c.name = some value ∧ value.isNull = false
  /-- No number is `Value.null`. -/
  counted : ∀ c ∈ t.columns, c.generation = some .increment →
    ∀ value, prepared.get? c.name = some value → value.isNull = false
  /-- A missing identifier is the one that was `drawn` for its column. -/
  drawnFor : ∀ c place, (c, place) ∈ t.columns.zipIdx → c.generation = some .uuid →
    row.lacks c.name = true → prepared.get? c.name = some (.text (drawn place))
  /-- What is not made up stays as it was. -/
  others : ∀ name, (∀ c ∈ t.columns, c.name = name → c.generation = none) →
    prepared.get? name = row.get? name
  /-- What was given stays as it was. -/
  given : ∀ name value, row.get? name = some value → value.isNull = false →
    prepared.get? name = some value
  /-- The fields that stay keep their order, and those that are added follow them. -/
  names : prepared.names =
    (row.names.filter fun name => name ∉ leftOut t.columns row) ++ added t.columns row

theorem leftOut_cons (c : Column) (columns : List Column) (row : Record) :
    leftOut (c :: columns) row =
      (if c.leavesOut row then [c.name] else []) ++ leftOut columns row := by
  unfold leftOut
  cases leaves : c.leavesOut row <;> simp [leaves]

theorem added_cons (c : Column) (columns : List Column) (row : Record) :
    added (c :: columns) row = (if c.adds row then [c.name] else []) ++ added columns row := by
  unfold added
  cases adds : c.adds row <;> simp [adds]

theorem mem_of_mem_leftOut {columns : List Column} {row : Record} {name : String}
    (h : name ∈ leftOut columns row) : ∃ c ∈ columns, c.leavesOut row = true ∧ c.name = name := by
  obtain ⟨c, among, named⟩ := List.mem_map.1 h
  exact ⟨c, (List.mem_filter.1 among).1, (List.mem_filter.1 among).2, named⟩

/-! ## All columns -/

/-- What `columns` leave out and add depends on their own fields only. -/
theorem leftOut_congr {columns : List Column} {row row' : Record}
    (same : ∀ c ∈ columns, row.get? c.name = row'.get? c.name) :
    leftOut columns row = leftOut columns row' := by
  unfold leftOut
  rw [List.filter_congr fun c among => Column.leavesOut_congr (same c among)]

theorem added_congr {columns : List Column} {row row' : Record}
    (same : ∀ c ∈ columns, row.get? c.name = row'.get? c.name) :
    added columns row = added columns row' := by
  unfold added
  rw [List.filter_congr fun c among => Column.adds_congr (same c among)]

/-- The names in a row after `columns` of distinct names, one after another. -/
theorem names_foldl_prepare (drawn : Nat → String) {columns : List (Column × Nat)}
    (distinct : (columns.map fun column => column.1.name).Nodup) (row : Record) :
    (columns.foldl (fun row column => column.1.prepare (drawn column.2) row) row).names =
      (row.names.filter fun name => name ∉ leftOut (columns.map Prod.fst) row) ++
        added (columns.map Prod.fst) row := by
  induction columns generalizing row with
  | nil => simp [leftOut, added]
  | cons column rest ih =>
    obtain ⟨c, place⟩ := column
    obtain ⟨once, distinct⟩ := List.nodup_cons.1 distinct
    have apart : ∀ other ∈ rest.map Prod.fst, other.name ≠ c.name := by
      intro other among named
      obtain ⟨column, later, rfl⟩ := List.mem_map.1 among
      exact once (List.mem_map.2 ⟨column, later, named⟩)
    have same : ∀ other ∈ rest.map Prod.fst,
        (c.prepare (drawn place) row).get? other.name = row.get? other.name := by
      intro other among
      rw [Column.get?_prepare, if_neg (apart other among)]
    have stays : c.name ∉ leftOut (rest.map Prod.fst) row := by
      intro leaves
      obtain ⟨other, among, -, named⟩ := mem_of_mem_leftOut leaves
      exact apart other among named
    have adding : (if c.adds row then [c.name] else []).filter
        (fun name => name ∉ leftOut (rest.map Prod.fst) row) =
          if c.adds row then [c.name] else [] := by
      split <;> simp [stays]
    rw [List.foldl_cons, ih distinct, leftOut_congr same, added_congr same,
      Column.names_prepare, List.filter_append, List.filter_filter, adding, List.append_assoc,
      List.map_cons, leftOut_cons, added_cons]
    congr 1
    refine List.filter_congr fun name _ => ?_
    cases leaves : c.leavesOut row with
    | true => simp [Bool.and_comm]
    | false => simp

namespace Table

variable {t : Table} (distinct : (t.columns.map Column.name).Nodup) (drawn : Nat → String)
  (row : Record)

include distinct

theorem names_prepareRow :
    (t.prepareRow drawn row).names =
      (row.names.filter fun name => name ∉ leftOut t.columns row) ++ added t.columns row := by
  have names : (t.columns.zipIdx.map fun column => column.1.name) = t.columns.map Column.name := by
    rw [← List.zipIdx_map_fst 0 t.columns, List.map_map, List.zipIdx_map_fst]
    rfl
  have prepared := names_foldl_prepare drawn (names ▸ distinct) row
  rwa [List.zipIdx_map_fst] at prepared

/-- A number that stays in a prepared row is not `Value.null`. -/
theorem isNull_prepareRow_increment {c : Column} (declared : c ∈ t.columns)
    (counted : c.generation = some .increment) {value : Value}
    (stays : (t.prepareRow drawn row).get? c.name = some value) : value.isNull = false := by
  rw [get?_prepareRow_increment distinct declared counted] at stays
  split at stays
  · cases stays
  · rename_i given
    rw [Record.lacks, stays] at given
    simpa using given

theorem fills_prepareRow : t.Fills drawn row (t.prepareRow drawn row) where
  identified c declared drawing := by
    have found : (t.prepareRow drawn row).lacks c.name = false :=
      lacks_prepareRow_uuid distinct declared drawing
    rw [Record.lacks] at found
    cases value : (t.prepareRow drawn row).get? c.name with
    | none => simp [value] at found
    | some v => exact ⟨v, rfl, by simpa [value] using found⟩
  counted c declared counted value := isNull_prepareRow_increment distinct drawn row declared counted
  drawnFor c place declared drawing missing := by
    rw [get?_prepareRow drawn row distinct declared, Column.filled, drawing]
    exact if_pos missing
  others name plain := by
    by_cases known : t.Declares name
    · obtain ⟨c, declared, rfl⟩ := known
      obtain ⟨place, found⟩ := exists_place declared
      rw [get?_prepareRow drawn row distinct found, Column.filled, plain c declared rfl]
    · exact get?_prepareRow_undeclared drawn row known
  given name value given filled := by
    rcases get?_prepareRow_given distinct given with kept | ⟨null, -⟩
    · exact kept
    · rw [null] at filled
      cases filled
  names := names_prepareRow distinct drawn row

/-- A prepared row misses nothing, so preparing it again changes nothing. -/
theorem prepareRow_prepareRow (drawn' : Nat → String) :
    t.prepareRow drawn' (t.prepareRow drawn row) = t.prepareRow drawn row := by
  refine List.foldlRecOn (motive := fun prepared : Record => prepared = t.prepareRow drawn row)
    t.columns.zipIdx _ rfl ?_
  rintro prepared rfl column among
  have declared : column.1 ∈ t.columns := List.fst_mem_of_mem_zipIdx among
  refine Column.prepare_eq_self (fun drawing => ?_) ?_
  · exact lacks_prepareRow_uuid distinct declared (by simpa [Column.isUuid] using drawing)
  · exact Column.leavesOut_eq_false fun counted value =>
      isNull_prepareRow_increment distinct drawn row declared counted

end Table

/-- Where no column is declared twice, a `row` is filled in as `t` says, and once is enough. -/
theorem rows_filled_once (t : Table) (distinct : (t.columns.map Column.name).Nodup)
    (drawn : Nat → String) (row : Record) :
    t.Fills drawn row (t.prepareRow drawn row) ∧
    ∀ drawn', t.prepareRow drawn' (t.prepareRow drawn row) = t.prepareRow drawn row :=
  ⟨Table.fills_prepareRow distinct drawn row, Table.prepareRow_prepareRow distinct drawn row⟩

namespace Tickets

/-- Tickets are numbered by the database, and have a code and a seat that are made up. -/
def tickets : Table where
  name := "tickets"
  columns := [.primaryGenerated "id" .increment,
    { name := "code", type := .uuid, generation := some .uuid },
    { name := "seat", type := .uuid, generation := some .uuid },
    { name := "note", type := .text }]

def drawn (place : Nat) : String := ["q", "r", "s", "t"].getD place ""

/-- A ticket with a place for its code, but none for its seat. -/
def blank : Record := .ofList [("note", .null), ("code", .null), ("id", .null)]

theorem blank_filled_once :
    (tickets.columns.map Column.name).Nodup ∧
    tickets.Fills drawn blank (tickets.prepareRow drawn blank) ∧
    (tickets.prepareRow drawn blank).fields =
      [("note", .null), ("code", .text "r"), ("seat", .text "s")] ∧
    tickets.prepareRow (fun _ => "u") (tickets.prepareRow drawn blank) =
      tickets.prepareRow drawn blank := by
  have distinct : (tickets.columns.map Column.name).Nodup := by decide
  obtain ⟨fills, again⟩ := rows_filled_once tickets distinct drawn blank
  exact ⟨distinct, fills, rfl, again fun _ => "u"⟩

end Tickets

end EntityStore
