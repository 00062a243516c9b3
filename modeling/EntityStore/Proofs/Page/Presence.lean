import EntityStore.Proofs.Page.Visit

/-!
# The cursor of a page

A page tells whether there is another one, and its cursor tells where that one begins. The cursor is
looked up in the last row of the page by the name that the order was given by. A row has its values
under the names of the columns, so a name with a qualifier, which a statement may well be ordered by,
is not found there.
-/

namespace EntityStore

variable {σ α : Type}

/-- Every one of the `rows` has a value, `Value.null` perhaps, for every column of `t`. -/
def Table.CarriedBy (t : Table) (rows : List Record) : Prop :=
  ∀ row ∈ rows, ∀ c ∈ t.columns, row.contains c.name = true

/-- There is a cursor if and only if there is a next page, and it is the value of `column` in the
last of the rows that are `shown`. -/
structure CursorPage.GoesOn (page : CursorPage α) (shown : List Record) (column : String) : Prop where
  ends : page.hasNext = false → page.nextCursor = none
  begins : page.hasNext = true → ∃ last value, shown.getLast? = some last ∧
    last.get? column = some value ∧ page.nextCursor = some value

namespace Query

variable {q : Query} {name : String} {column : Column}

theorem columnOf?_mem (h : q.columnOf? name = some column) : column ∈ q.table.columns := by
  unfold columnOf? at h
  split at h
  · split at h
    · exact List.mem_of_find?_eq_some h
    · cases h
  · exact List.mem_of_find?_eq_some h

theorem columnOf?_plain (plain : Identifier.qualifier? name = none)
    (h : q.columnOf? name = some column) : column.name = name := by
  rw [columnOf?_unqualified plain] at h
  simpa using List.find?_some h

end Query

namespace Repository

variable {r : Repository σ α} {o : CursorPageable} {name : String} {column : Column}

/-- A page goes on rightly if the name by which its cursor is looked up leads to the value of the
ordering column. -/
theorem goesOn_iff {size : Nat} {rows : List Record} {db db' : σ} {page : CursorPage α}
    (positive : 0 < size) (made : r.pageOf size name rows db = (.ok page, db'))
    (carried : ∀ row ∈ rows, row.contains column.name = true) :
    page.GoesOn (rows.take size) column.name ↔
      (page.hasNext = true →
        ∀ last ∈ (rows.take size).getLast?, last.get? name = last.get? column.name) := by
  obtain ⟨-, members, -, rfl⟩ := pageOf_eq_ok made
  by_cases more : size < rows.length
  · obtain ⟨last, hlast⟩ := exists_last_take more positive
    have filled : (last.get? column.name).isSome = true :=
      carried last (List.mem_of_mem_take (List.mem_of_getLast? hlast))
    obtain ⟨value, hvalue⟩ := Option.isSome_iff_exists.1 filled
    simp only [more, if_true, decide_true, hlast, Option.bind_some, true_implies]
    constructor
    · rintro ⟨-, begins⟩ _ ⟨⟩
      obtain ⟨row, cursor, hrow, stored, looked⟩ := begins rfl
      cases hlast.symm.trans hrow
      exact looked.trans stored.symm
    · intro same
      refine ⟨nofun, fun _ => ⟨last, value, hlast, hvalue, ?_⟩⟩
      exact (same last rfl).trans hvalue
  · simp only [more, if_false, decide_false]
    refine iff_of_true ⟨fun _ => rfl, nofun⟩ nofun

/-- The rows of an `answer` that a page shows, with the values that they mean. -/
def shown (r : Repository σ α) (o : CursorPageable) (answer : Rows) : List Record :=
  (answer.toList.map (Record.ofStorage r.table.columns)).take (max o.size 1)

end Repository

/-- A page has as many members as were asked for at most, and there is a next page if and only if
the driver has answered more rows. It goes on rightly unless its order is given by a qualified name
under which the last row has not the value of the column. -/
theorem page_goesOn_iff {r : Repository σ α} {o : CursorPageable} {name text : String}
    {column : Column} {page : CursorPage α} {db db' : σ} (ordered : r.ordering o = .ok name)
    (resolved : r.query.resolve [] name = .ok ⟨text, some column⟩)
    (found : r.findCursorPage o db = (.ok page, db')) :
    ∃ st answer, (r.cursorQuery o name).selectStatement r.connection.dialect = .ok st ∧
      r.connection.driver.all st db = (.ok answer, db') ∧
      (r.shown o answer).mapM r.entity.ofRecord = .ok page.data ∧
      page.data.length ≤ max o.size 1 ∧
      (page.hasNext = true ↔ max o.size 1 < answer.toList.length) ∧
      (r.table.CarriedBy answer.toList →
        (page.GoesOn (r.shown o answer) column.name ↔
          (page.hasNext = true → Identifier.qualifier? name = none ∨
            ∀ last ∈ (r.shown o answer).getLast?, last.get? name = last.get? column.name))) := by
  obtain ⟨st, answer, built, answered, made⟩ := Repository.findCursorPage_eq_ok ordered found
  obtain ⟨-, members, read, same⟩ := Repository.pageOf_eq_ok made
  have few : members.length ≤ max o.size 1 := by
    rw [← (Except.mapM_eq_ok read).length_eq]
    exact List.length_take_le _ _
  have data : page.data = members := by rw [same]
  have hasNext : page.hasNext = decide (max o.size 1 < answer.toList.length) := by
    rw [same, List.length_map]
  refine ⟨st, answer, built, answered, ?_, ?_, ?_, ?_⟩
  · rw [data]
    exact read
  · rw [data]
    exact few
  · rw [hasNext, decide_eq_true_iff]
  · intro carried
    have resolved : r.query.columnOf? name = some column := by
      obtain ⟨-, same⟩ := Query.resolve_eq_ok resolved
      exact (congrArg Reference.column same).symm
    have filled : ∀ row ∈ answer.toList.map (Record.ofStorage r.table.columns),
        row.contains column.name = true := by
      simp only [List.forall_mem_map, Record.contains_ofStorage]
      exact fun row hrow => carried row hrow column (Query.columnOf?_mem resolved)
    rw [Repository.shown, Repository.goesOn_iff o.size_pos made filled]
    refine forall_congr' fun _ => ⟨.inr, ?_⟩
    rintro (plain | same)
    · rw [Query.columnOf?_plain plain resolved]
      exact fun _ _ => rfl
    · exact same

namespace Things

/-- The first thing of a kind, in the order of the numbers. -/
def first (orderBy : Option String) : CursorPageable :=
  { size := 1, orderBy := orderBy, filter := .ofList [("kind", .text "a")] }

theorem carriedBy_things : table.CarriedBy [thing 1 "a", thing 3 "a"] := by
  unfold Table.CarriedBy
  decide

theorem first_goesOn :
    ∃ page answer, repository.ordering (first none) = .ok "id" ∧
      repository.query.resolve [] "id" = .ok ⟨"id", some (.primaryGenerated "id" .increment)⟩ ∧
      repository.findCursorPage (first none) () = (.ok page, ()) ∧
      table.CarriedBy (Rows.toList answer) ∧ page.hasNext = true ∧
      page.GoesOn (repository.shown (first none) answer) "id" := by
  have ordered : repository.ordering (first none) = .ok "id" := rfl
  have resolved : repository.query.resolve [] "id" =
      .ok ⟨"id", some (.primaryGenerated "id" .increment)⟩ := rfl
  have found : ∃ page, repository.findCursorPage (first none) () = (.ok page, ()) ∧
      page.hasNext = true := ⟨_, rfl, rfl⟩
  obtain ⟨page, found, hasNext⟩ := found
  obtain ⟨st, answer, built, answered, -, -, -, goesOn⟩ := page_goesOn_iff ordered resolved found
  have carried : table.CarriedBy answer.toList := by
    cases built
    cases answered
    exact carriedBy_things
  exact ⟨page, answer, ordered, resolved, found, carried, hasNext,
    (goesOn carried).2 fun _ => .inl (by decide)⟩

/-- A statement may be ordered by a qualified name, but no row has a value under it. -/
theorem qualified_order_has_no_cursor :
    ∃ page, repository.query.resolve [] "things.id" =
        .ok ⟨"things.id", some (.primaryGenerated "id" .increment)⟩ ∧
      (repository.cursorQuery (first (some "things.id")) "things.id").selectStatement .postgres =
        .ok ⟨"SELECT * FROM things WHERE (kind = $1) ORDER BY things.id ASC LIMIT 2", [.text "a"]⟩ ∧
      driver.all ⟨"SELECT * FROM things WHERE (kind = $1) ORDER BY things.id ASC LIMIT 2",
        [.text "a"]⟩ () = (.ok (.bare [thing 1 "a", thing 3 "a"]), ()) ∧
      table.CarriedBy [thing 1 "a", thing 3 "a"] ∧
      repository.findCursorPage (first (some "things.id")) () = (.ok page, ()) ∧
      page.hasNext = true ∧ page.nextCursor = none :=
  ⟨_, rfl, rfl, rfl, carriedBy_things, rfl, rfl, rfl⟩

end Things

end EntityStore
