import EntityStore.Proofs.Query.Refusal
import EntityStore.Proofs.Query.Selection

/-!
# Pages by number

The pages of a size divide what a filter lets through: page after page shows the members without a
gap or a repetition, the number of pages is where they end, and the pages beyond it are empty. A row
number beyond the counts of 64 bits is cut down to the greatest one, which no list of rows reaches.
-/

namespace EntityStore

variable {σ α : Type}

namespace Pageable

@[simp] theorem clamped_clamped (asked : Pageable) : asked.clamped.clamped = asked.clamped := by
  simp [clamped]

/-- An offset that is cut down leaves no row out that there is. -/
theorem drop_offset (asked : Pageable) {all : List α} (few : all.length ≤ Text.count64Max) :
    all.drop asked.offset = all.drop ((asked.clamped.page - 1) * asked.clamped.size) := by
  unfold offset clampCount
  rcases Nat.le_total ((asked.clamped.page - 1) * asked.clamped.size) Text.count64Max with small | great
  · rw [Nat.min_eq_left small]
  · rw [Nat.min_eq_right great, List.drop_of_length_le few, List.drop_of_length_le (le_trans few great)]

end Pageable

namespace Page

/-- The page that is `asked` for of a result with the members `all`. -/
def ofAll (all : List α) (asked : Pageable) : Page α :=
  make ((all.drop asked.offset).take asked.clamped.size) asked all.length

/-- What the pages up to a `number` show. -/
def shownUpTo (pages : Nat → Page α) (number : Nat) : List α :=
  (List.range number).flatMap fun before => (pages (before + 1)).data

/-- The `pages` of the result `all`, of which there are `count`. The page before the first one is
the first one once more. -/
structure Divide (all : List α) (count : Nat) (pages : Nat → Page α) : Prop where
  positive : 1 ≤ count
  counted : ∀ number, (pages number).totalPages = count
  shown : shownUpTo pages count = all
  next : ∀ number, (pages number).hasNext = true ↔
    ∃ row rest, shownUpTo pages (max number 1) ++ row :: rest = all
  previous : ∀ number, (pages number).hasPrevious = true ↔ 1 < number
  beyond : ∀ number, count < number → (pages number).data = [] ∧ (pages number).hasNext = false

/-! ## The number of pages -/

/-- The number of pages of a `size` that a result of `total` members takes. -/
def countOf (total size : Nat) : Nat := max ((total + size - 1) / size) 1

/-- A page is followed by another one where it ends before the result does. -/
theorem lt_countOf {total size number : Nat} (positive : 0 < size) (first : 1 ≤ number) :
    number < countOf total size ↔ number * size < total := by
  have rounded : number < (total + size - 1) / size ↔ number * size < total := by
    rw [← Nat.succ_le_iff, Nat.le_div_iff_mul_le positive, Nat.succ_mul]
    omega
  have last : number < countOf total size ↔ number < (total + size - 1) / size := by
    unfold countOf
    omega
  exact last.trans rounded

/-- The last page ends where the result does, or after it. -/
theorem le_countOf_mul {total size : Nat} (positive : 0 < size) : total ≤ countOf total size * size :=
  Nat.le_of_not_lt fun short =>
    lt_irrefl _ ((lt_countOf positive (Nat.le_max_right _ _)).2 short)

/-! ## The pages of a list -/

section

variable {all : List α} (few : all.length ≤ Text.count64Max) (size : Nat)

include few

theorem data_ofAll (number : Nat) : (ofAll all ⟨number, size⟩).data =
    (all.drop ((max number 1 - 1) * max size 1)).take (max size 1) :=
  congrArg (List.take (max size 1)) (Pageable.drop_offset ⟨number, size⟩ few)

/-- The pages up to a `number` show the beginning of the list. -/
theorem shownUpTo_ofAll (number : Nat) :
    shownUpTo (fun page => ofAll all ⟨page, size⟩) number = all.take (number * max size 1) := by
  induction number with
  | zero => rw [Nat.zero_mul, List.take_zero]; rfl
  | succ before ih =>
    have last : (ofAll all ⟨before + 1, size⟩).data =
        (all.drop (before * max size 1)).take (max size 1) := by
      rw [data_ofAll few, Nat.max_eq_left (Nat.succ_pos before), Nat.succ_sub_one]
    unfold shownUpTo at ih ⊢
    rw [List.range_succ, List.flatMap_append, ih, List.flatMap_singleton, last, Nat.succ_mul,
      List.take_add]

theorem divide_ofAll :
    Divide all (countOf all.length (max size 1)) fun number => ofAll all ⟨number, size⟩ := by
  have positive : 0 < max size 1 := Nat.lt_of_lt_of_le Nat.one_pos (Nat.le_max_right _ _)
  have next (number : Nat) : (ofAll all ⟨number, size⟩).hasNext = true ↔
      max number 1 * max size 1 < all.length :=
    decide_eq_true_iff.trans (lt_countOf positive (Nat.le_max_right _ _))
  refine ⟨Nat.le_max_right _ _, fun _ => rfl, ?shown, ?next, ?previous, ?beyond⟩
  case shown =>
    rw [shownUpTo_ofAll few]
    exact List.take_of_length_le (le_countOf_mul positive)
  case next =>
    intro number
    rw [next, shownUpTo_ofAll few]
    constructor
    · intro more
      have rest := List.take_append_drop (max number 1 * max size 1) all
      rw [List.drop_eq_getElem_cons more] at rest
      exact ⟨_, _, rest⟩
    · rintro ⟨row, rest, whole⟩
      have lengths := congrArg List.length whole
      rw [List.length_append, List.length_take, List.length_cons] at lengths
      omega
  case previous =>
    intro number
    refine decide_eq_true_iff.trans ?_
    show 1 < max number 1 ↔ 1 < number
    omega
  case beyond =>
    intro number later
    have second : 1 ≤ number - 1 := by
      have first : 1 ≤ countOf all.length (max size 1) := Nat.le_max_right _ _
      omega
    have ended : all.length ≤ (number - 1) * max size 1 := by
      refine Nat.le_of_not_lt fun short => ?_
      have earlier := (lt_countOf positive second).2 short
      omega
    have same : max number 1 = number := by omega
    constructor
    · rw [data_ofAll few, same, List.drop_of_length_le ended, List.take_nil]
    · rw [← Bool.not_eq_true, next, same, not_lt]
      exact le_trans ended (Nat.mul_le_mul_right _ (Nat.sub_le _ _))

end

end Page

/-! ## The pages of a repository -/

namespace Repository

variable {r : Repository σ α} {filter : Option Filter} {matching : σ → List Record}
  {rows : List Record} {decode : Record → α}

/-- The query for some of the members that `filter` lets through. -/
def windowed (r : Repository σ α) (filter : Option Filter) (size offset : Nat) : Query :=
  { table := r.table, filter := filter, limit := some size, offset := some offset }

/-- As long as the `filter` lets the `rows` of a list through, the driver answers the statement of a
window with that part of them, and the statement that counts with their number, and they stay. -/
structure ServesPages (r : Repository σ α) (filter : Option Filter) (matching : σ → List Record)
    (rows : List Record) : Prop where
  window : ∀ (size offset : Nat) (st : Statement) (db : σ), matching db = rows →
    (r.windowed filter size offset).selectStatement r.connection.dialect = .ok st →
    ∃ answer db', r.connection.driver.all st db = (.ok answer, db') ∧ matching db' = rows ∧
      answer.toList = (r.windowed filter size offset).window rows
  total : ∀ (st : Statement) (db : σ), matching db = rows →
    (r.counted filter).countStatement r.connection.dialect = .ok st →
    ∃ row db', r.connection.driver.first st db = (.ok (some row), db') ∧ matching db' = rows ∧
      row.get? "count" = some (.int rows.length)

/-- The driver reads statements about the table of a repository: it answers what one of them asks for
by its text and its parameters from the rows that are `held`, in the order in which they are held, and
counts them where their number is asked for. They stay as they are. -/
structure HoldsRows (r : Repository σ α) (m : Reading) (held : σ → List Record) : Prop where
  rows : ∀ (st : Statement) (s : Selection) (db : σ),
    st.selection? ("SELECT * FROM " ++ r.table.name) = some s → s.order = [] →
      ∃ answer db', r.connection.driver.all st db = (.ok answer, db') ∧ held db' = held db ∧
        answer.toList = s.window ((held db).filter (s.wants m))
  count : ∀ (st : Statement) (wanted : Option Sql.Predicate) (db : σ),
    st.selection? ("SELECT COUNT(*) AS count FROM " ++ r.table.name) = some { wanted := wanted } →
      ∃ row db', r.connection.driver.first st db = (.ok (some row), db') ∧ held db' = held db ∧
        row.get? "count" = some (.int
          ((held db).filter (({ wanted := wanted } : Selection).wants m)).length)

/-- A driver that reads texts serves the pages of every `filter` that names no keyword. -/
theorem HoldsRows.servesPages {m : Reading} {held : σ → List Record} (holds : r.HoldsRows m held)
    (free : ∀ f ∈ filter, ∀ name ∈ f.columns, Sql.FreeOfKeywords name) (rows : List Record) :
    r.ServesPages filter
      (fun db => (held db).filter ((r.counted filter).wants r.connection.dialect m)) rows where
  window := by
    intro size offset st db same built
    obtain ⟨s, read, asks⟩ := Query.selectStatement_selection? (q := r.windowed filter size offset)
      nofun free rfl rfl rfl nofun built
    obtain ⟨answer, db', answered, kept, part⟩ := holds.rows st s db read asks.order
    refine ⟨answer, db', answered, ?_, ?_⟩
    · rw [← same, kept]
    · have wants : s.wants m = (r.counted filter).wants r.connection.dialect m :=
        funext (asks.wanted m)
      rw [part, wants, same]
      exact congrFun asks.window_eq rows
  total := by
    intro st db same built
    obtain ⟨wanted, read, agrees⟩ := Query.aggregateStatement_selection? (q := r.counted filter)
      nofun free built
    obtain ⟨row, db', answered, kept, number⟩ := holds.count st wanted db read
    have wants : ({ wanted := wanted } : Selection).wants m =
        (r.counted filter).wants r.connection.dialect m := funext (agrees m)
    refine ⟨row, db', answered, ?_, ?_⟩
    · rw [← same, kept]
    · rw [number, wants, same]

/-- A filter that is accepted in the statement that counts is accepted in that of a window. -/
theorem windowed_accepted {d : Dialect} {counts : Statement}
    (built : (r.counted filter).countStatement d = .ok counts) (size offset : Nat) :
    ∃ st, (r.windowed filter size offset).selectStatement d = .ok st := by
  simp only [Query.countStatement, Query.aggregateStatement, Query.aggregateSql,
    Except.bind_eq_ok] at built
  obtain ⟨_, ⟨where_, accepted, -⟩, -⟩ := built
  have clause : (r.windowed filter size offset).whereClause d = .ok where_ := accepted
  unfold Query.selectStatement Query.selectSql
  rw [clause]
  exact ⟨_, rfl⟩

section

variable (serves : r.ServesPages filter matching rows) {counts : Statement}
  (accepted : (r.counted filter).countStatement r.connection.dialect = .ok counts)
  {db : σ} (same : matching db = rows)

include serves accepted same

theorem count_eq : ∃ db', matching db' = rows ∧ r.count filter db = (.ok rows.length, db') := by
  obtain ⟨row, db', first, kept, number⟩ := serves.total counts db same accepted
  refine ⟨db', kept, ?_⟩
  have scalar : (r.counted filter).scalar r.connection "COUNT(*)" "count" db =
      (.ok (.int rows.length), db') := by
    have built : (r.counted filter).aggregateStatement r.connection.dialect "COUNT(*)" "count" =
        .ok counts := accepted
    unfold Query.scalar
    rw [built, bind_ok (DatabaseM.lift_apply _ db), bind_ok first, Option.bind_some, number]
    rfl
  have asked : (r.counted filter).count r.connection "*" db = (.ok (rows.length : Int), db') := by
    have target : Query.checkTarget "*" = .ok () := rfl
    unfold Query.count
    rw [target, bind_ok (DatabaseM.lift_apply _ db)]
    exact bind_ok scalar
  exact bind_ok asked

variable
  (readable : ∀ row ∈ rows, r.entity.ofRecord (row.ofStorage r.table.columns) = .ok (decode row))

include readable

theorem find_windowed (size offset : Nat) :
    ∃ db', matching db' = rows ∧
      r.find { filter := filter, limit := some size, offset := some offset } db =
        (.ok (((rows.map decode).drop offset).take size), db') := by
  obtain ⟨st, built⟩ := windowed_accepted accepted size offset
  obtain ⟨answer, db', answered, kept, window⟩ := serves.window size offset st db same built
  have part : answer.toList = (rows.drop offset).take size := window
  refine ⟨db', kept, ?_⟩
  have fetched : (r.windowed filter size offset).rows r.connection db =
      (.ok (((rows.drop offset).take size).map (Record.ofStorage r.table.columns)), db') := by
    unfold Query.rows
    rw [built, bind_ok (DatabaseM.lift_apply _ db), ← part]
    exact bind_ok answered
  have members : (((rows.drop offset).take size).map (Record.ofStorage r.table.columns)).mapM
      (fun row => (r.entity.ofRecord row : DatabaseM σ α)) db' =
      (.ok (((rows.drop offset).take size).map decode), db') := by
    rw [List.mapM_map]
    refine DatabaseM.mapM_forall₂ ?_ db'
    rw [List.forall₂_map_right_iff, List.forall₂_same]
    intro row hrow
    exact readable row (List.mem_of_mem_drop (List.mem_of_mem_take hrow))
  have found : r.findQuery { filter := filter, limit := some size, offset := some offset } =
      .ok (r.windowed filter size offset) := rfl
  unfold find Query.execute
  rw [found, bind_ok (DatabaseM.lift_apply _ db), bind_ok fetched, members, List.map_take,
    List.map_drop]

/-- A page shows its part of the members, and counts all of them. -/
theorem findPage_eq (asked : Pageable) :
    ∃ db', matching db' = rows ∧
      r.findPage asked filter db = (.ok (Page.ofAll (rows.map decode) asked), db') := by
  obtain ⟨db₁, kept, found⟩ := find_windowed serves accepted same readable asked.clamped.size
    asked.clamped.offset
  obtain ⟨db', kept, counted⟩ := count_eq serves accepted kept
  refine ⟨db', kept, ?_⟩
  have both : r.findAndCount
      { filter := filter, limit := some asked.clamped.size, offset := some asked.clamped.offset } db =
      (.ok (((rows.map decode).drop asked.clamped.offset).take asked.clamped.size, rows.length),
        db') := by
    unfold findAndCount
    rw [bind_ok found]
    exact bind_ok counted
  have page : Page.make (((rows.map decode).drop asked.clamped.offset).take asked.clamped.size)
      asked.clamped rows.length = Page.ofAll (rows.map decode) asked := by
    unfold Page.ofAll Page.make Pageable.offset
    rw [Pageable.clamped_clamped, List.length_map]
  rw [← page]
  exact bind_ok both

end

/-- Pages by number divide the members that `filter` lets through. Whatever size is asked for, and
whatever page in whatever order, the pages found are those of one division. -/
theorem pages_divide (serves : r.ServesPages filter matching rows)
    (accepted : ((r.counted filter).countStatement r.connection.dialect).isOk)
    (readable : ∀ row ∈ rows, r.entity.ofRecord (row.ofStorage r.table.columns) = .ok (decode row))
    (few : (rows.length : Int) ≤ Text.int64Max) (size : Nat) :
    ∃ pages count, Page.Divide (rows.map decode) count pages ∧
      ∀ number db, matching db = rows → ∃ db', matching db' = rows ∧
        r.findPage ⟨number, size⟩ filter db = (.ok (pages number), db') := by
  have fits : (rows.map decode).length ≤ Text.count64Max := by
    rw [List.length_map]
    unfold Text.int64Max at few
    unfold Text.count64Max
    omega
  cases built : (r.counted filter).countStatement r.connection.dialect with
  | error e =>
    rw [built] at accepted
    cases accepted
  | ok counts =>
    refine ⟨_, _, Page.divide_ofAll fits size, ?_⟩
    intro number db same
    exact findPage_eq serves built same readable ⟨number, size⟩

end Repository

/-! ## A box of letters -/

namespace Letters

def table : Table where
  name := "letters"
  columns := [.primaryGenerated "id" .increment, { name := "kind", type := .text }]

def letter (id : Int) (kind : String) : Record := .ofList [("id", .int id), ("kind", .text kind)]

def bills : List Record := [letter 2 "bill", letter 3 "bill", letter 5 "bill"]

def isBill (row : Record) : Bool := (row.get? "kind").bind Value.asText? == some "bill"

/-- Texts are compared with their equals. -/
def reading : Reading where
  cell row text := (row.get? text).getD .null
  compares
    | .eq, .text a, .text b => .ofBool (a == b)
    | _, _, _ => .unknown
  sorts _ _ := True

def head : String := "SELECT * FROM letters"

def countHead : String := "SELECT COUNT(*) AS count FROM letters"

/-- The row that says how many `letters` there are. -/
def numberOf (letters : List Record) : Record := .ofList [("count", .int letters.length)]

/-- What is answered to a statement by what its text asks for. -/
def answer (letters : List Record) (st : Statement) : List Record :=
  match st.selection? head, st.selection? countHead with
  | some s, _ => s.window (letters.filter (s.wants reading))
  | none, some s => [numberOf (letters.filter (s.wants reading))]
  | none, none => []

/-- The letters are kept as they came. -/
def driver : Driver (List Record) where
  all st letters := (.ok (.bare (answer letters st)), letters)
  run _ letters := (.ok {}, letters)

def repository : Repository (List Record) Record where
  connection := ⟨driver, .sqlite⟩
  registry := .empty
  entity := { key := ⟨1, "Letter"⟩, table := table, toRecord := id, ofRecord := .ok }
  table := table
  owner := .dataSource

def wanted : Option Filter := some (.matching (.ofList [("kind", .text "bill")]))

/-- A statement that counts does not read rows. -/
theorem selection?_head {st : Statement} {s : Selection} (counts : st.selection? countHead = some s) :
    st.selection? head = none := by
  simp only [Statement.selection?, Option.bind_eq_bind, Option.bind_eq_some_iff] at counts
  obtain ⟨rest, cut, -⟩ := counts
  obtain ⟨front, text, same⟩ := List.dropPrefix?_eq_some_iff.1 cut
  obtain rfl := eq_of_beq same
  have missing : (countHead.toList ++ rest).dropPrefix? head.toList = none := rfl
  rw [Statement.selection?, text, missing]
  rfl

theorem holdsRows : repository.HoldsRows reading id where
  rows := by
    intro st s letters read _
    refine ⟨_, letters, rfl, rfl, ?_⟩
    show answer letters st = s.window (letters.filter (s.wants reading))
    rw [answer, show st.selection? head = some s from read]
  count := by
    intro st wanted letters read
    have counts : st.selection? countHead = some { wanted := wanted } := read
    refine ⟨numberOf (letters.filter (({ wanted := wanted } : Selection).wants reading)), letters, ?_,
      rfl, rfl⟩
    show ((.ok (answer letters st).head?, letters) : Except Error (Option Record) × List Record) = _
    rw [answer, selection?_head counts, counts]
    rfl

theorem wants_eq (row : Record) :
    (repository.counted wanted).wants .sqlite reading row = isBill row := by
  show decide ((reading.compares .eq ((row.get? "kind").getD .null) (.text "bill")).and .yes = .yes) =
    ((row.get? "kind").bind Value.asText? == some "bill")
  rw [Truth.and_yes]
  cases row.get? "kind" with
  | none => rfl
  | some v =>
    cases v with
    | text s =>
      show decide (Truth.ofBool (s == "bill") = .yes) = (some s == some "bill")
      by_cases same : s = "bill"
      · rw [same]
        rfl
      · simp [same, Truth.ofBool]
    | _ => rfl

theorem servesPages : repository.ServesPages wanted (List.filter isBill) bills := by
  have serves : repository.ServesPages wanted _ bills := holdsRows.servesPages (by decide) bills
  have wants : (repository.counted wanted).wants .sqlite reading = isBill := funext wants_eq
  rw [show repository.connection.dialect = .sqlite from rfl, wants] at serves
  exact serves

theorem bills_divide :
    ∃ pages count, Page.Divide (bills.map (Record.ofStorage table.columns)) count pages ∧
      ∀ number letters, letters.filter isBill = bills → ∃ letters', letters'.filter isBill = bills ∧
        repository.findPage ⟨number, 2⟩ wanted letters = (.ok (pages number), letters') :=
  Repository.pages_divide servesPages rfl (fun row _ => rfl) (by decide) 2

end Letters

end EntityStore
