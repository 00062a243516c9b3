import EntityStore.Proofs.Page.Cursor
import EntityStore.Proofs.Query.Selection

/-!
# All pages, one after another

A reader who asks for the first page, and then for the page after the cursor of the one before as
long as there is a next page, sees every row that the filter lets through exactly once, in ascending
order, and comes to an end.
-/

namespace EntityStore

variable {σ α : Type}

/-! ## Columns of whole numbers -/

namespace Column

variable {c : Column} (whole : c.type.isWhole = true) (plain : c.transformers = [])

include whole plain

theorem toStorage_int (k : Int) : c.toStorage (.int k) = .int k := by
  show c.type.toStorage (c.transformers.foldl _ _) = _
  rw [plain]
  cases type : c.type <;> simp [type, ColumnType.isWhole] at whole <;> rfl

theorem ofStorage_int (k : Int) : c.ofStorage (.int k) = .int k := by
  show c.transformers.foldr _ (c.type.ofStorage (.int k)) = _
  rw [plain]
  cases type : c.type <;> simp [type, ColumnType.isWhole] at whole <;> rfl

end Column

theorem Ascending.filter_after {key : Record → Int} {first second : List Record} {last : Record}
    (ascending : Ascending key (first ++ second)) (hlast : first.getLast? = some last) :
    (first ++ second).filter (fun row => decide (key last < key row)) = second := by
  obtain ⟨before, rfl⟩ := List.getLast?_eq_some_iff.1 hlast
  obtain ⟨hfirst, -, across⟩ := List.pairwise_append.1 ascending
  obtain ⟨-, -, least⟩ := List.pairwise_append.1 hfirst
  have shown : (before ++ [last]).filter (fun row => decide (key last < key row)) = [] := by
    refine List.filter_eq_nil_iff.2 ?_
    intro row hrow
    rw [decide_eq_true_iff, not_lt]
    rcases List.mem_append.1 hrow with hrow | hrow
    · exact le_of_lt (least row hrow last (List.mem_singleton_self last))
    · rw [List.mem_singleton.1 hrow]
  have rest : second.filter (fun row => decide (key last < key row)) = second := by
    refine List.filter_eq_self.2 ?_
    intro row hrow
    rw [decide_eq_true_iff]
    exact across last (by simp) row hrow
  rw [List.filter_append, shown, rest, List.nil_append]

/-! ## The pages of a reader -/

namespace Repository

/-- What a reader does: ask for a page, and go on after its cursor while there is a next page. -/
inductive Visits (r : Repository σ α) (o : CursorPageable) :
    Option Value → σ → List (CursorPage α) → σ → Prop where
  | last {cursor : Option Value} {db db' : σ} {page : CursorPage α}
    (found : r.findCursorPage { o with cursor := cursor } db = (.ok page, db'))
    (ends : page.hasNext = false) : Visits r o cursor db [page] db'
  | next {cursor : Option Value} {db db' db'' : σ} {page : CursorPage α} {pages : List (CursorPage α)}
    (found : r.findCursorPage { o with cursor := cursor } db = (.ok page, db'))
    (goesOn : page.hasNext = true) (others : Visits r o page.nextCursor db' pages db'') :
    Visits r o cursor db (page :: pages) db''

theorem Visits.nonempty {r : Repository σ α} {o : CursorPageable} {cursor : Option Value} {db db' : σ}
    {pages : List (CursorPage α)} (h : Visits r o cursor db pages db') : pages ≠ [] := by
  cases h <;> exact List.cons_ne_nil _ _

/-- A reader has no choice. -/
theorem Visits.unique {r : Repository σ α} {o : CursorPageable} {cursor : Option Value} {db db' : σ}
    {pages : List (CursorPage α)} (h : Visits r o cursor db pages db') {pages' : List (CursorPage α)}
    {db'' : σ} (h' : Visits r o cursor db pages' db'') : pages' = pages ∧ db'' = db' := by
  induction h generalizing pages' db'' with
  | last found ends =>
    cases h' with
    | last found' _ =>
      cases found.symm.trans found'
      exact ⟨rfl, rfl⟩
    | next found' goesOn _ =>
      cases found.symm.trans found'
      rw [ends] at goesOn
      cases goesOn
  | next found goesOn _ ih =>
    cases h' with
    | last found' ends =>
      cases found.symm.trans found'
      rw [ends] at goesOn
      cases goesOn
    | next found' _ others =>
      cases found.symm.trans found'
      obtain ⟨rfl, rfl⟩ := ih others
      exact ⟨rfl, rfl⟩

/-- The `pages` of a `size` that show `members` in order. -/
structure Covers (size : Nat) (members : List α) (pages : List (CursorPage α)) : Prop where
  shown : pages.flatMap CursorPage.data = members
  full : ∀ page ∈ pages.dropLast, page.data.length = size
  last : ∀ page ∈ pages.getLast?, page.data.length ≤ size ∧ (page.data = [] → members = [])
  cursor : ∀ page ∈ pages, page.hasNext = page.nextCursor.isSome

/-- Pages are in the order of a `column` of whole numbers that are stored as they are. -/
structure OrdersBy (r : Repository σ α) (o : CursorPageable) (name : String) (column : Column) :
    Prop where
  named : r.ordering o = .ok name
  valid : Identifier.isValid name false = true
  unqualified : Identifier.qualifier? name = none
  declared : r.table.column? name = some column
  whole : column.type.isWhole = true
  plain : column.transformers = []

/-- The driver answers the statement of a page, for whichever number it begins after, and leaves the
`contents` of the table as they are. -/
def AnswersPages (r : Repository σ α) (m : Reading) (contents : σ → List Record)
    (o : CursorPageable) (name : String) : Prop :=
  ∀ (cursor : Option Int) (st : Statement) (db : σ),
    (r.cursorQuery { o with cursor := cursor.map .int } name).selectStatement r.connection.dialect =
      .ok st →
    ∃ answer db', r.connection.driver.all st db = (.ok answer, db') ∧ contents db' = contents db ∧
      (r.cursorQuery { o with cursor := cursor.map .int } name).Answers r.connection.dialect m
        (contents db) answer.toList

/-- The driver reads statements that begin with `head`: whatever one of them asks for by its text and
its parameters, in the given `order`, it answers from the `contents` of the table, and leaves them as
they are. -/
def AnswersTexts (r : Repository σ α) (head : String) (m : Reading) (contents : σ → List Record)
    (order : List (String × Direction)) : Prop :=
  ∀ (st : Statement) (s : Selection) (db : σ), st.selection? head = some s → s.order = order →
    ∃ answer db', r.connection.driver.all st db = (.ok answer, db') ∧ contents db' = contents db ∧
      s.Answers m (contents db) answer.toList

/-- The filter of a page names the ordering column and the columns of the filter that was asked
for. -/
theorem mem_columns_pageFilter {o : CursorPageable} {name : String} {f : Filter}
    (filtered : f ∈ pageFilter o name) {c : String} (named : c ∈ f.columns) :
    c ∈ name :: o.filter.names := by
  unfold pageFilter at filtered
  split at filtered
  · cases filtered
  · obtain rfl := Option.some.inj filtered
    rw [Filter.columns, Condition.columns_all] at named
    obtain ⟨condition, member, named⟩ := List.mem_flatMap.1 named
    rcases List.mem_append.1 member with field | cursor
    · obtain ⟨pair, hpair, rfl⟩ := List.mem_map.1 field
      rw [Condition.columns_leaf rfl, List.mem_singleton] at named
      exact List.mem_cons_of_mem _ (named ▸ List.mem_map_of_mem hpair)
    · cases value : o.cursor with
      | none =>
        rw [value] at cursor
        cases cursor
      | some v =>
        rw [value] at cursor
        obtain rfl := List.mem_singleton.1 cursor
        rw [Condition.columns_leaf rfl, List.mem_singleton] at named
        exact named ▸ List.mem_cons_self

/-- A driver that answers texts answers the statements of pages, as none of their names is a
keyword. -/
theorem AnswersTexts.answersPages {r : Repository σ α} {m : Reading} {contents : σ → List Record}
    {o : CursorPageable} {name : String}
    (answers : r.AnswersTexts ("SELECT * FROM " ++ r.table.name) m contents [(name, .asc)])
    (free : ∀ c ∈ name :: o.filter.names, Sql.FreeOfKeywords c) :
    r.AnswersPages m contents o name := by
  intro cursor st db built
  obtain ⟨sorted, fields⟩ := List.forall_mem_cons.1 free
  have columns : ∀ f ∈ (r.cursorQuery { o with cursor := cursor.map .int } name).filter,
      ∀ c ∈ f.columns, Sql.FreeOfKeywords c := by
    intro f hf c hc
    rw [cursorQuery_eq] at hf
    exact free c (mem_columns_pageFilter hf hc)
  have read := Query.selectStatement_selection? (q := r.cursorQuery { o with cursor := cursor.map .int } name)
    (by rw [cursorQuery_eq]; exact nofun) columns (by rw [cursorQuery_eq]) (by rw [cursorQuery_eq])
    (by rw [cursorQuery_eq]) (by rw [cursorQuery_eq]; simpa using sorted) built
  obtain ⟨s, read, same⟩ := read
  have order : s.order = [(name, .asc)] := by
    rw [same.order, cursorQuery_eq]
    rfl
  have head : (r.cursorQuery { o with cursor := cursor.map .int } name).head =
      "SELECT * FROM " ++ r.table.name := by
    rw [cursorQuery_eq]
    rfl
  rw [head] at read
  obtain ⟨answer, db', answered, kept, rows⟩ := answers st s db read order
  exact ⟨answer, db', answered, kept, same.answers_iff.1 rows⟩

/-- Rows whose ordering column holds distinct whole numbers. -/
structure Keyed (m : Reading) (name : String) (key : Record → Int) (rows : List Record) : Prop where
  stored : ∀ row ∈ rows, row.get? name = some (.int (key row))
  cell : ∀ row ∈ rows, m.cell row name = .int (key row)
  distinct : (rows.map key).Nodup

section

variable {r : Repository σ α} {m : Reading} {contents : σ → List Record} {o : CursorPageable}
  {name : String} {column : Column} {key : Record → Int} {decode : Record → α} {rows : List Record}

theorem OrdersBy.resolved (ordered : r.OrdersBy o name column) :
    r.query.resolve [] name = .ok ⟨name, some column⟩ := by
  have declared : r.query.table.column? name = some column := ordered.declared
  unfold Query.resolve
  rw [ordered.valid, ordered.unqualified, declared]
  rfl

/-- The comparison of a row with a cursor is one of numbers. -/
theorem OrdersBy.compared (ordered : r.OrdersBy o name column) (numbers : m.Numbers) (d : Dialect)
    {row : Record} {k : Int} (cell : m.cell row name = .int k) (cursor : Int) :
    (Condition.compare .gt name (.int cursor)).truth (r.query.meaning d m.compares (m.cell row)) =
      .ofBool (decide (cursor < k)) := by
  have own : r.query.columnOf? name = some column :=
    (Query.columnOf?_unqualified ordered.unqualified).trans ordered.declared
  show m.compares .gt (m.cell row name) (toStorage (r.query.columnOf? name) (.int cursor)) = _
  rw [own, cell]
  show m.compares .gt (.int k) (column.toStorage (.int cursor)) = _
  rw [column.toStorage_int ordered.whole ordered.plain, numbers.greater]

/-- The key of `row` is greater than that of the cursor, if there is one. -/
def after (key : Record → Int) (cursor : Option Int) (row : Record) : Bool :=
  cursor.all fun c => decide (c < key row)

theorem OrdersBy.wants (ordered : r.OrdersBy o name column) (numbers : m.Numbers) (d : Dialect)
    {row : Record} (cell : m.cell row name = .int (key row)) (cursor : Option Int) :
    (r.cursorQuery { o with cursor := cursor.map .int } name).wants d m row =
      (r.letsThrough d m o.filter row && after key cursor row) := by
  cases cursor with
  | none => rw [after, Option.all_none, Bool.and_true]; exact wants_first
  | some c => exact wants_after (ordered.compared numbers d cell c)

theorem Keyed.ofStorage (keyed : Keyed m name key rows) (ordered : r.OrdersBy o name column)
    {row : Record} (hrow : row ∈ rows) :
    (row.ofStorage r.table.columns).get? name = some (.int (key row)) := by
  have declared : r.table.columns.find? (·.name == name) = some column := ordered.declared
  rw [Record.get?_ofStorage, keyed.stored row hrow, declared]
  show some (column.ofStorage (.int (key row))) = _
  rw [column.ofStorage_int ordered.whole ordered.plain]

/-- The page that shows the first of some `rows`. -/
def firstPage (size : Nat) (key : Record → Int) (decode : Record → α) (rows : List Record) :
    CursorPage α where
  data := (rows.take size).map decode
  nextCursor := if size < rows.length then (rows.take size).getLast?.map fun row => .int (key row)
    else none
  hasNext := size < rows.length

/-- One row more than a page holds is enough to make the page. -/
theorem pageOf_take (keyed : Keyed m name key rows) (ordered : r.OrdersBy o name column)
    (readable : ∀ row ∈ rows, r.entity.ofRecord (row.ofStorage r.table.columns) = .ok (decode row))
    {asked : List Record} (known : ∀ row ∈ asked, row ∈ rows) (size : Nat) (db : σ) :
    r.pageOf size name ((asked.take (size + 1)).map (Record.ofStorage r.table.columns)) db =
      (.ok (firstPage size key decode asked), db) := by
  have shown : ((asked.take (size + 1)).map (Record.ofStorage r.table.columns)).take size =
      (asked.take size).map (Record.ofStorage r.table.columns) := by
    rw [← List.map_take, List.take_take, Nat.min_eq_left (Nat.le_succ size)]
  have more : size < ((asked.take (size + 1)).map (Record.ofStorage r.table.columns)).length ↔
      size < asked.length := by
    rw [List.length_map, List.length_take]
    omega
  have members : ((asked.take size).map (Record.ofStorage r.table.columns)).mapM
      (fun row => (r.entity.ofRecord row : DatabaseM σ α)) db =
      (.ok ((asked.take size).map decode), db) := by
    rw [List.mapM_map]
    refine DatabaseM.mapM_forall₂ ?_ db
    rw [List.forall₂_map_right_iff, List.forall₂_same]
    intro row hrow
    exact readable row (known row (List.mem_of_mem_take hrow))
  have cursor : ((asked.take size).map (Record.ofStorage r.table.columns)).getLast?.bind
      (·.get? name) = (asked.take size).getLast?.map fun row => .int (key row) := by
    rw [List.getLast?_map]
    cases last : (asked.take size).getLast? with
    | none => rfl
    | some row =>
      have hrow := List.mem_of_mem_take (List.mem_of_getLast? last)
      exact keyed.ofStorage ordered (known row hrow)
  unfold pageOf
  rw [shown, bind_ok members, cursor]
  simp only [more]
  rfl

/-- Asking for one row more than a page holds is the same as asking within the counts of 64 bits. -/
theorem take_clampCount {size : Nat} {asked : List Record}
    (fits : size < Text.count64Max ∨ asked.length ≤ Text.count64Max) :
    asked.take (clampCount (size + 1)) = asked.take (size + 1) := by
  unfold clampCount
  rcases fits with fits | fits
  · rw [Nat.min_eq_left fits]
  · rcases Nat.le_total (size + 1) Text.count64Max with small | great
    · rw [Nat.min_eq_left small]
    · rw [Nat.min_eq_right great, List.take_of_length_le fits, List.take_of_length_le (le_trans fits great)]

theorem exists_last_take {size : Nat} {asked : List Record} (more : size < asked.length)
    (positive : 0 < size) : ∃ last, (asked.take size).getLast? = some last := by
  rw [← Option.isSome_iff_exists, List.getLast?_isSome]
  intro empty
  have none := congrArg List.length empty
  simp only [List.length_take, List.length_nil] at none
  omega

/-- What comes after the `last` row of a page is what the page leaves. -/
theorem filter_after_last {matching : List Record} (ascending : Ascending key matching)
    {cursor : Option Int} {size : Nat} {last : Record}
    (hlast : ((matching.filter (after key cursor)).take size).getLast? = some last) :
    matching.filter (after key (some (key last))) =
      (matching.filter (after key cursor)).drop size := by
  have later : after key cursor last = true := by
    have hmem := List.mem_of_mem_take (List.mem_of_getLast? hlast)
    exact (List.mem_filter.1 hmem).2
  have both : matching.filter (after key (some (key last))) =
      (matching.filter (after key cursor)).filter (after key (some (key last))) := by
    rw [List.filter_filter]
    refine List.filter_congr ?_
    intro row _
    rw [Bool.eq_iff_iff, Bool.and_eq_true]
    refine ⟨fun h => ⟨h, ?_⟩, And.left⟩
    cases cursor with
    | none => rfl
    | some c =>
      simp only [after, Option.all_some, decide_eq_true_eq] at h later ⊢
      exact lt_trans later h
  have inOrder : Ascending key (matching.filter (after key cursor)) :=
    ascending.sublist List.filter_sublist
  rw [both]
  generalize matching.filter (after key cursor) = asked at hlast inOrder
  rw [← List.take_append_drop size asked] at inOrder
  have rest := inOrder.filter_after hlast
  rw [List.take_append_drop] at rest
  exact rest

theorem firstPage_last {size : Nat} {asked : List Record} (all : ¬ size < asked.length) :
    Covers size (asked.map decode) [firstPage size key decode asked] := by
  have whole : asked.take size = asked := List.take_of_length_le (Nat.not_lt.1 all)
  refine ⟨?_, by simp, ?_, ?_⟩
  · simp [firstPage, whole]
  · intro page hpage
    cases hpage
    refine ⟨?_, ?_⟩
    · simp [firstPage]
    · intro empty
      rw [← whole]
      exact empty
  · intro page hpage
    rw [List.mem_singleton.1 hpage]
    simp [firstPage, all]

theorem firstPage_next {size : Nat} {asked : List Record} {pages : List (CursorPage α)}
    (more : size < asked.length) (positive : 0 < size) (nonempty : pages ≠ [])
    (others : Covers size ((asked.drop size).map decode) pages) :
    Covers size (asked.map decode) (firstPage size key decode asked :: pages) := by
  refine ⟨?_, ?_, ?_, ?_⟩
  · rw [List.flatMap_cons, others.shown]
    show (asked.take size).map decode ++ _ = _
    rw [← List.map_append, List.take_append_drop]
  · rw [List.dropLast_cons_of_ne_nil nonempty]
    intro page hpage
    rcases List.mem_cons.1 hpage with rfl | hpage
    · simp [firstPage, Nat.le_of_lt more]
    · exact others.full page hpage
  · rw [List.getLast?_cons_of_ne_nil nonempty]
    intro page hpage
    obtain ⟨short, empty⟩ := others.last page hpage
    refine ⟨short, fun none => ?_⟩
    have drained := congrArg List.length (empty none)
    simp only [List.length_map, List.length_drop, List.length_nil] at drained
    omega
  · intro page hpage
    rcases List.mem_cons.1 hpage with rfl | hpage
    · obtain ⟨last, hlast⟩ := exists_last_take more positive
      simp [firstPage, more, hlast]
    · exact others.cursor page hpage

variable (numbers : m.Numbers) (ordered : r.OrdersBy o name column) {stored : List Condition}
  (accepted : Condition.allInStorage (r.query.resolve []) o.filter.equations = .ok stored)
  (answers : r.AnswersPages m contents o name) (keyed : Keyed m name key rows)
  (readable : ∀ row ∈ rows, r.entity.ofRecord (row.ofStorage r.table.columns) = .ok (decode row))
  (fits : o.size < Text.count64Max ∨ rows.length ≤ Text.count64Max)
  {sorted : List Record} (perm : sorted.Perm rows) (ascending : Ascending key sorted)

include numbers ordered accepted answers keyed readable fits perm ascending

/-- The page after a cursor shows the first of the rows that come after it. -/
theorem findCursorPage_after (cursor : Option Int) {db : σ} (same : contents db = rows) :
    ∃ db', contents db' = rows ∧ r.findCursorPage { o with cursor := cursor.map .int } db =
      (.ok (firstPage (max o.size 1) key decode
        ((sorted.filter (r.letsThrough r.connection.dialect m o.filter)).filter (after key cursor))),
        db') := by
  obtain ⟨st, built⟩ := selectStatement_cursorQuery (o := { o with cursor := cursor.map .int })
    r.connection.dialect ordered.resolved accepted
  obtain ⟨answer, db', answered, kept, answer_eq⟩ := answers cursor st db built
  rw [same] at answer_eq kept
  refine ⟨db', kept, ?_⟩
  have cells : ∀ row ∈ rows, m.cell row
      ((r.cursorQuery { o with cursor := cursor.map .int } name).columnText name) = .int (key row) := by
    rw [cursorQuery_eq]
    exact keyed.cell
  have order : (r.cursorQuery { o with cursor := cursor.map .int } name).order = [(name, .asc)] := by
    rw [cursorQuery_eq]
  have window := answer_eq.eq_window numbers order cells keyed.distinct perm ascending
  have asked : sorted.filter
      ((r.cursorQuery { o with cursor := cursor.map .int } name).wants r.connection.dialect m) =
      (sorted.filter (r.letsThrough r.connection.dialect m o.filter)).filter (after key cursor) := by
    rw [List.filter_filter]
    refine List.filter_congr ?_
    intro row hrow
    rw [ordered.wants numbers _ (keyed.cell row (perm.mem_iff.1 hrow)), Bool.and_comm]
  rw [asked] at window
  generalize hrest : (sorted.filter (r.letsThrough r.connection.dialect m o.filter)).filter
    (after key cursor) = rest at window ⊢
  have known : ∀ row ∈ rest, row ∈ rows := by
    intro row hrow
    rw [← hrest] at hrow
    exact perm.mem_iff.1 (List.mem_of_mem_filter (List.mem_of_mem_filter hrow))
  have taken : answer.toList = rest.take (max o.size 1 + 1) := by
    rw [window, cursorQuery_eq]
    show (rest.drop 0).take (clampCount (max o.size 1 + 1)) = _
    rw [List.drop_zero]
    refine take_clampCount ?_
    rcases fits with small | few
    · exact .inl (max_lt small (by decide))
    · have fewer : rest.length ≤ rows.length := by
        rw [← hrest, ← perm.length_eq]
        exact le_trans (List.length_filter_le _ _) (List.length_filter_le _ _)
      exact .inr (le_trans fewer few)
  rw [findCursorPage_apply (o := { o with cursor := cursor.map .int }) ordered.named built answered,
    taken]
  exact pageOf_take keyed ordered readable known _ db'

/-- The rows after a cursor are covered by the pages from there on. -/
theorem visits_after (cursor : Option Int) {db : σ} (same : contents db = rows) :
    ∃ pages db', r.Visits o (cursor.map .int) db pages db' ∧
      Covers (max o.size 1)
        (((sorted.filter (r.letsThrough r.connection.dialect m o.filter)).filter
          (after key cursor)).map decode) pages := by
  -- every page but the last one leaves fewer rows after its cursor
  generalize hlength : ((sorted.filter (r.letsThrough r.connection.dialect m o.filter)).filter
    (after key cursor)).length = number
  induction number using Nat.strong_induction_on generalizing cursor db with
  | _ number ih =>
    obtain ⟨db', kept, found⟩ := findCursorPage_after numbers ordered accepted answers keyed readable
      fits perm ascending cursor same
    generalize hmatching : sorted.filter (r.letsThrough r.connection.dialect m o.filter) = matching
      at hlength found ih ⊢
    generalize hasked : matching.filter (after key cursor) = asked at hlength found ⊢
    by_cases more : max o.size 1 < asked.length
    · have positive := o.size_pos
      obtain ⟨last, hlast⟩ := exists_last_take more positive
      have rest : matching.filter (after key (some (key last))) = asked.drop (max o.size 1) := by
        rw [← hasked] at hlast ⊢
        refine filter_after_last ?_ hlast
        rw [← hmatching]
        exact ascending.sublist List.filter_sublist
      have fewer : (asked.drop (max o.size 1)).length < number := by
        rw [List.length_drop, hlength]
        omega
      have goesOn := ih _ fewer (some (key last)) kept (by rw [rest])
      obtain ⟨pages, db'', visits, covers⟩ := goesOn
      rw [rest] at covers
      refine ⟨_, db'', .next found (by simpa [firstPage] using more) ?_,
        firstPage_next more positive visits.nonempty covers⟩
      have cursor : (firstPage (max o.size 1) key decode asked).nextCursor =
          (some (key last)).map .int := by
        simp [firstPage, more, hlast]
      rw [cursor]
      exact visits
    · exact ⟨_, db', .last found (by simpa [firstPage] using more), firstPage_last more⟩

end

/-- Pages after cursors visit every row that the filter lets through exactly once, in ascending
order of its number, and come to an end: all pages but the last one are full, the last one is empty
only if there is nothing to show, and there is a cursor exactly if there is a next page. A page of
the greatest size asks for no further row, so it must not be outnumbered. -/
theorem pages_visit_once {r : Repository σ α} {m : Reading} {contents : σ → List Record}
    {o : CursorPageable} {name : String} {column : Column} {key : Record → Int}
    {decode : Record → α} {db : σ} (numbers : m.Numbers) (ordered : r.OrdersBy o name column)
    (accepted : ((Filter.matching o.filter).sql r.connection.dialect (r.query.resolve [])).isOk)
    (answers : r.AnswersPages m contents o name) (keyed : Keyed m name key (contents db))
    (readable : ∀ row ∈ contents db,
      r.entity.ofRecord (row.ofStorage r.table.columns) = .ok (decode row))
    (fits : o.size < Text.count64Max ∨ (contents db).length ≤ Text.count64Max) :
    ∃ pages db' shown, r.Visits o none db pages db' ∧
      (∀ pages' db'', r.Visits o none db pages' db'' → pages' = pages) ∧
      shown.Perm ((contents db).filter (r.letsThrough r.connection.dialect m o.filter)) ∧
      Ascending key shown ∧ Covers (max o.size 1) (shown.map decode) pages := by
  obtain ⟨sorted, perm, ascending⟩ := exists_ascending keyed.distinct
  have stored : ∃ stored, Condition.allInStorage (r.query.resolve []) o.filter.equations =
      .ok stored := by
    cases sql : (Filter.matching o.filter).sql r.connection.dialect (r.query.resolve []) with
    | error e =>
      rw [sql] at accepted
      cases accepted
    | ok fragment =>
      rw [Filter.sql_matching, Except.bind_eq_ok] at sql
      obtain ⟨stored, hstored, -⟩ := sql
      exact ⟨stored, hstored⟩
  obtain ⟨stored, hstored⟩ := stored
  obtain ⟨pages, db', visits, covers⟩ := visits_after numbers ordered hstored answers keyed readable
    fits perm ascending none rfl
  have all : ∀ matching : List Record, matching.filter (after key none) = matching :=
    fun matching => List.filter_eq_self.2 fun _ _ => rfl
  rw [all] at covers
  exact ⟨pages, db', _, visits, fun pages' db'' others => (visits.unique others).1, perm.filter _,
    ascending.sublist List.filter_sublist, covers⟩

end Repository

/-! ## A table of things -/

namespace Things

def columns : List Column := [.primaryGenerated "id" .increment, { name := "kind", type := .text }]

def thing (id : Int) (kind : String) : Record := .ofList [("id", .int id), ("kind", .text kind)]

/-- The things in the table, in the order of their numbers. -/
def shelf : List Record := [thing 1 "a", thing 2 "b", thing 3 "a", thing 4 "a"]

def idOf (row : Record) : Int := ((row.get? "id").bind Value.asInt?).getD 0

/-- Numbers are compared by their size, and texts with their equals. -/
def reading : Reading where
  cell row text := (row.get? text).getD .null
  compares
    | .gt, .int a, .int b => .ofBool (decide (b < a))
    | .eq, .text a, .text b => .ofBool (a == b)
    | _, _, _ => .unknown
  sorts
    | .int a, .int b => a ≤ b
    | _, _ => False

/-- The things that a statement asks for by its text, in the order of their numbers. -/
def serve (st : Statement) : List Record :=
  match st.selection? "SELECT * FROM things" with
  | some s => s.window (shelf.filter (s.wants reading))
  | none => []

def table : Table := { name := "things", columns := columns }

def driver : Driver Unit where
  all st db := (.ok (.bare (serve st)), db)
  run _ db := (.ok {}, db)

def repository : Repository Unit Record where
  connection := ⟨driver, .postgres⟩
  registry := .empty
  entity := { key := ⟨1, "Thing"⟩, table := table, toRecord := id, ofRecord := .ok }
  table := table
  owner := .dataSource

/-- One thing of a kind on every page: the size is raised to 1. -/
def asked : CursorPageable := { size := 0, filter := .ofList [("kind", .text "a")] }

theorem numbers : reading.Numbers := ⟨fun _ _ => rfl, fun _ _ => Iff.rfl⟩

theorem ordered : repository.OrdersBy asked "id" (.primaryGenerated "id" .increment) :=
  ⟨rfl, by decide, by decide, rfl, rfl, rfl⟩

theorem keyed : Repository.Keyed reading "id" idOf shelf where
  stored := by
    simp only [shelf, List.forall_mem_cons]
    exact ⟨rfl, rfl, rfl, rfl, nofun⟩
  cell := by
    simp only [shelf, List.forall_mem_cons]
    exact ⟨rfl, rfl, rfl, rfl, nofun⟩
  distinct := by decide

theorem ascending : Ascending idOf shelf := by
  unfold Ascending
  decide

theorem answersTexts :
    repository.AnswersTexts "SELECT * FROM things" reading (fun _ => shelf) [("id", .asc)] := by
  intro st s db read order
  refine ⟨_, db, rfl, rfl, shelf.filter (s.wants reading), List.Perm.refl _, ?_, ?_⟩
  · refine (ascending.sublist List.filter_sublist).imp_of_mem ?_
    intro a b ha hb less
    rw [order]
    refine ⟨?_, fun _ => trivial⟩
    show reading.sorts (reading.cell a "id") (reading.cell b "id")
    rw [keyed.cell a (List.mem_of_mem_filter ha), keyed.cell b (List.mem_of_mem_filter hb)]
    exact (numbers.sorts _ _).2 (le_of_lt less)
  · show serve st = s.window (shelf.filter (s.wants reading))
    rw [serve, read]

theorem answersPages : repository.AnswersPages reading (fun _ => shelf) asked "id" :=
  answersTexts.answersPages (by decide)

theorem asked_visit_once :
    ∃ pages db' shown, repository.Visits asked none () pages db' ∧
      (∀ pages' db'', repository.Visits asked none () pages' db'' → pages' = pages) ∧
      shown.Perm (shelf.filter (repository.letsThrough .postgres reading asked.filter)) ∧
      Ascending idOf shown ∧
      Repository.Covers 1 (shown.map (Record.ofStorage columns)) pages := by
  have accepted : ((Filter.matching asked.filter).sql .postgres (repository.query.resolve [])).isOk :=
    rfl
  exact Repository.pages_visit_once numbers ordered accepted answersPages keyed (fun row _ => rfl)
    (.inl (by decide))

end Things

end EntityStore
