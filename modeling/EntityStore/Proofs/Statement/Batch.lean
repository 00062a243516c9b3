import EntityStore.Proofs.Statement.Completeness
import EntityStore.Proofs.Statement.Preparation

/-!
# Batches

All names of a batch are checked before the first of its statements is handed over, and what the
columns make up for a row does not change which name is complained about. A driver gets the
statements in the order of what they are made of, one for each: all at once if it has a way of its
own for that, else one by one up to the first failure. It makes no difference to be asked to take
them all at once without having such a way.
-/

namespace EntityStore

/-! ## The statements of a batch -/

/-- The names of an update: those that are set, and then those that tell the rows. -/
def Update.names (u : Update) : List String := u.values.names ++ u.criteria.names

/-- The `plan` for a batch of `things`: where all names are declared there is one statement for each
thing, in their order, and otherwise the first name that is not declared is complained about. -/
structure Table.Plans {ι : Type} (t : Table) (names : ι → List String)
    (writes : ι → Statement → Prop) (things : List ι) (plan : Except Error (List Statement)) :
    Prop where
  refused : ∀ name, t.undeclared? (things.flatMap names) = some name →
    plan = .error (.unknownColumn t.name name)
  accepted : t.undeclared? (things.flatMap names) = none →
    ∃ sts, plan = .ok sts ∧ List.Forall₂ writes things sts

namespace Table

variable (t : Table) (d : Dialect)

/-- The statement `st` inserts a row of a batch, which is prepared with identifiers of its own. -/
def Inserts (drawn : Nat → String) (row : Record × Nat) (st : Statement) : Prop :=
  st = t.insertStatement d (t.prepareRow (fun k => drawn (row.2 * t.columns.length + k)) row.1)

theorem insertStatements_plans (drawn : Nat → String) (rows : List Record) :
    t.Plans (fun row => row.1.names) (t.Inserts d drawn) rows.zipIdx
      (t.insertStatements d (t.prepareRows drawn rows)) := by
  have numbered : rows.zipIdx.flatMap (fun row => row.1.names) = rows.flatMap Record.names := by
    rw [← List.flatMap_map Prod.fst, List.zipIdx_map_fst]
  have plan := t.checkNames_eq ((t.prepareRows drawn rows).flatMap Record.names)
  rw [undeclared?_prepareRows, ← numbered] at plan
  constructor
  · intro name first
    rw [insertStatements, plan, first]
    rfl
  · intro declared
    rw [insertStatements, plan, declared]
    refine ⟨_, rfl, ?_⟩
    rw [prepareRows, List.map_map, List.forall₂_map_right_iff, List.forall₂_same]
    exact fun row _ => rfl

theorem updateStatement_refused {u : Update} {name : String}
    (first : t.undeclared? u.names = some name) :
    t.updateStatement d u = .error (.unknownColumn t.name name) := by
  unfold updateStatement
  rw [Update.names, undeclared?_append] at first
  rw [checkNames_eq, checkNames_eq]
  cases values : t.undeclared? u.values.names with
  | some other =>
    rw [values] at first
    cases first
    rfl
  | none =>
    rw [values, Option.none_or] at first
    rw [first]
    rfl

theorem updateStatement_accepted {u : Update} (declared : t.undeclared? u.names = none) :
    ∃ st, t.updateStatement d u = .ok st := by
  rw [Update.names, undeclared?_append, Option.or_eq_none_iff] at declared
  unfold updateStatement
  rw [checkNames_eq, checkNames_eq, declared.1, declared.2]
  exact ⟨_, rfl⟩

theorem updateStatements_plans (updates : List Update) :
    t.Plans Update.names (fun u st => t.updateStatement d u = .ok st) updates
      (t.updateStatements d updates) := by
  unfold updateStatements
  induction updates with
  | nil => exact ⟨nofun, fun _ => ⟨[], rfl, .nil⟩⟩
  | cons u rest ih =>
    constructor
    · intro name first
      rw [List.flatMap_cons, undeclared?_append] at first
      rw [List.mapM_cons]
      cases own : t.undeclared? u.names with
      | some other =>
        rw [own] at first
        cases first
        rw [t.updateStatement_refused d own]
        rfl
      | none =>
        rw [own, Option.none_or] at first
        obtain ⟨st, built⟩ := t.updateStatement_accepted d own
        rw [built, ih.refused name first]
        rfl
    · intro declared
      rw [List.flatMap_cons, undeclared?_append, Option.or_eq_none_iff] at declared
      obtain ⟨own, later⟩ := declared
      obtain ⟨st, built⟩ := t.updateStatement_accepted d own
      obtain ⟨sts, others, each⟩ := ih.accepted later
      refine ⟨st :: sts, ?_, .cons built each⟩
      rw [List.mapM_cons, built, others]
      rfl

/-! ### One batch after another -/

theorem prepareRows_append (drawn : Nat → String) (rows rows' : List Record) :
    t.prepareRows drawn (rows ++ rows') = t.prepareRows drawn rows ++
      t.prepareRows (fun k => drawn (rows.length * t.columns.length + k)) rows' := by
  have later : rows'.zipIdx rows.length =
      rows'.zipIdx.map fun row => (row.1, rows.length + row.2) := List.zipIdx_eq_map_add
  rw [prepareRows, List.zipIdx_append, Nat.zero_add, later, List.map_append, List.map_map]
  simp only [prepareRows, Function.comp_def, Nat.add_mul, Nat.add_assoc]

theorem checkNames_append (names names' : List String) :
    t.checkNames (names ++ names') = (t.checkNames names >>= fun _ => t.checkNames names') := by
  induction names with
  | nil => rfl
  | cons name rest ih => rw [List.cons_append, checkNames, ih, checkNames, bind_assoc]

theorem insertStatements_append (rows rows' : List Record) :
    t.insertStatements d (rows ++ rows') = do
      let first ← t.insertStatements d rows
      let others ← t.insertStatements d rows'
      return first ++ others := by
  unfold insertStatements
  rw [List.flatMap_append, checkNames_append, List.map_append]
  cases t.checkNames (rows.flatMap Record.names) with
  | error e => rfl
  | ok _ => cases t.checkNames (rows'.flatMap Record.names) <;> rfl

end Table

/-! ## What a driver receives -/

namespace Driver

section

variable {σ : Type} (d : Driver σ)

/-- Statements that are run one after another, each of them with a result. -/
inductive Runs : List Statement → σ → List RunResult → σ → Prop where
  | done (db : σ) : Runs [] db [] db
  | next {st : Statement} {sts : List Statement} {db db₁ db₂ : σ} {result : RunResult}
    {results : List RunResult} (first : d.run st db = (.ok result, db₁))
    (later : Runs sts db₁ results db₂) : Runs (st :: sts) db (result :: results) db₂

/-- How it comes out to hand `sts` over one by one: the result, the database, and which statements
were received. -/
inductive InTurn (sts : List Statement) (db : σ) :
    Except Error (List RunResult) → σ → List Statement → Prop where
  /-- No statement fails. -/
  | all {results : List RunResult} {db' : σ} (ran : d.Runs sts db results db') :
    InTurn sts db (.ok results) db' sts
  /-- The first statement that fails is the last one that is received. -/
  | upTo {before after : List Statement} {st : Statement} {results : List RunResult} {db₁ db' : σ}
    {e : Error} (split : sts = before ++ st :: after) (ran : d.Runs before db results db₁)
    (failed : d.run st db₁ = (.error e, db')) : InTurn sts db (.error e) db' (before ++ [st])

/-- What becomes of the `plan` for a batch at the driver `d`, beside whose database a record is kept
of what it receives: the `result`, with the database and the record `before` and `after`. -/
structure Receives (plan : Except Error (List Statement)) (before : σ × List Statement)
    (result : Except Error (List RunResult)) (after : σ × List Statement) : Prop where
  /-- Nothing is handed over after a complaint. -/
  refused : ∀ e, plan = .error e → result = .error e ∧ after = before
  /-- Nor is anything if there is nothing to do. -/
  idle : plan = .ok [] → result = .ok [] ∧ after = before
  /-- The statements are received one by one, also if `d` only says that it takes them all at
  once. -/
  inTurn : ∀ sts, plan = .ok sts → d.supportsBatch = false ∨ d.ownBatch = none →
    ∃ received, d.InTurn sts before.1 result after.1 received ∧ after.2 = before.2 ++ received
  /-- The statements are received all at once. -/
  atOnce : ∀ sts own, plan = .ok sts → sts ≠ [] → d.supportsBatch = true → d.ownBatch = some own →
    own sts before.1 = (result, after.1) ∧ after.2 = before.2 ++ sts

variable {d}

theorem Receives.nothing (db : σ × List Statement) : d.Receives (.ok []) db (.ok []) db where
  refused := nofun
  idle _ := ⟨rfl, rfl⟩
  inTurn := by
    rintro _ ⟨⟩ -
    exact ⟨[], .all (.done _), (List.append_nil _).symm⟩
  atOnce := by
    rintro _ own ⟨⟩ given
    exact absurd rfl given

theorem Receives.complaint (e : Error) (db : σ × List Statement) :
    d.Receives (.error e) db (.error e) db where
  refused := by
    rintro _ ⟨⟩
    exact ⟨rfl, rfl⟩
  idle := nofun
  inTurn := nofun
  atOnce := nofun

theorem InTurn.next {st : Statement} {sts received : List Statement} {db db₁ db₂ : σ}
    {first : RunResult} {result : Except Error (List RunResult)}
    (ran : d.run st db = (.ok first, db₁)) (later : d.InTurn sts db₁ result db₂ received) :
    d.InTurn (st :: sts) db (result.map (first :: ·)) db₂ (st :: received) := by
  cases later with
  | all others => exact .all (.next ran others)
  | upTo split others failed => exact .upTo (congrArg (st :: ·) split) (.next ran others) failed

theorem recorded_runEach_inTurn (sts : List Statement) (db : σ × List Statement) :
    ∃ received,
      d.InTurn sts db.1 (d.recorded.runEach sts db).1 (d.recorded.runEach sts db).2.1 received ∧
        (d.recorded.runEach sts db).2.2 = db.2 ++ received := by
  induction sts generalizing db with
  | nil => exact ⟨[], .all (.done _), (List.append_nil _).symm⟩
  | cons st rest ih =>
    cases ran : d.run st db.1 with
    | mk result db₁ =>
      have recorded : d.recorded.run st db = (result, (db₁, db.2 ++ [st])) := by
        simp [Driver.recorded, ran]
      cases result with
      | error e =>
        have split : st :: rest = [] ++ st :: rest := rfl
        rw [runEach, bind_error recorded]
        exact ⟨[st], .upTo split (.done _) ran, rfl⟩
      | ok first =>
        obtain ⟨received, turn, record⟩ := ih (db₁, db.2 ++ [st])
        rw [runEach, bind_ok recorded, bind_pure_map]
        refine ⟨st :: received, turn.next ran, ?_⟩
        rw [record, List.append_assoc]
        rfl

/-- Statements that are handed over are received, in one of the two ways. -/
theorem recorded_submit_receives {sts : List Statement} (given : sts ≠ [])
    (db : σ × List Statement) :
    d.Receives (.ok sts) db (d.recorded.submit sts db).1 (d.recorded.submit sts db).2 where
  refused := nofun
  idle none := absurd (Except.ok.inj none) given
  inTurn := by
    rintro _ ⟨⟩ way
    have each : d.recorded.submit sts = d.recorded.runEach sts := by
      rcases way with unsupported | unmade
      · simp [submit, Driver.recorded, unsupported]
      · simp [submit, batch, Driver.recorded, unmade]
    rw [each]
    exact d.recorded_runEach_inTurn sts db
  atOnce := by
    rintro _ own ⟨⟩ - supported made
    simp [submit, batch, Driver.recorded, supported, made]

end

/-! ## Operations -/

section

variable {σ : Type}

/-- The driver `d`, saying that it takes several statements at once and having no `ownBatch`. -/
def announcing (d : Driver σ) : Driver σ := { d with supportsBatch := true, ownBatch := none }

/-- The driver `d`, saying that it takes one statement at a time. -/
def oneByOne (d : Driver σ) : Driver σ := { d with supportsBatch := false }

theorem runEach_congr {d d' : Driver σ} (run : d.run = d'.run) (sts : List Statement) :
    d.runEach sts = d'.runEach sts := by
  induction sts with
  | nil => rfl
  | cons st rest ih => rw [runEach, runEach, run, ih]

theorem submit_announcing (d : Driver σ) (sts : List Statement) :
    d.announcing.recorded.submit sts = d.oneByOne.recorded.submit sts := by
  have run : d.announcing.recorded.run = d.oneByOne.recorded.run := rfl
  exact runEach_congr run sts

end

end Driver

/-- The connection `c` by the driver that `Driver.recorded` makes of its own. -/
def Connection.recorded {σ : Type} (c : Connection σ) : Connection (σ × List Statement) :=
  ⟨c.driver.recorded, c.dialect⟩

theorem Connection.dialect_recorded {σ : Type} (c : Connection σ) :
    c.recorded.dialect = c.dialect := rfl

/-- The connection `c` by the driver `d`. -/
def Connection.through {σ : Type} (c : Connection σ) (d : Driver σ) : Connection σ := ⟨d, c.dialect⟩

/-- The identifiers that are drawn next in the session `s`. -/
def Session.drawn {σ : Type} (s : Session σ) (k : Nat) : String :=
  (Uuid.ofRandom (s.outside.random (s.uses + k))).text

namespace Table

variable {σ : Type} (t : Table) (c : Connection σ)

/-- Rows are inserted by the statements of all of them, or by none. -/
theorem insertRows_apply {rows : List Record} (given : rows ≠ []) (s : Session σ) :
    t.insertRows c rows s =
      match t.insertStatements c.dialect (t.prepareRows s.drawn rows) with
      | .error e => (.error e, { s with uses := s.uses + rows.length * t.columns.length })
      | .ok sts =>
        ((c.driver.submit sts s.database).1.map fun results =>
            (t.prepareRows s.drawn rows, results),
          { s with
            database := (c.driver.submit sts s.database).2
            uses := s.uses + rows.length * t.columns.length }) := by
  have filled : rows.isEmpty = false := by simpa using given
  have started : t.insertRows c rows s = ((t.insertStatements c.dialect
      (t.prepareRows s.drawn rows) : SessionM σ (List Statement)) >>= fun sts => do
        let results ← SessionM.atDatabase (c.driver.submit sts)
        return (t.prepareRows s.drawn rows, results))
      { s with uses := s.uses + rows.length * t.columns.length } := by
    unfold insertRows
    rw [filled]
    rfl
  rw [started]
  cases t.insertStatements c.dialect (t.prepareRows s.drawn rows) with
  | error e => rfl
  | ok sts => exact bind_pure_map (x := SessionM.atDatabase (c.driver.submit sts)) _

theorem batchInsert_apply {rows : List Record} (given : rows ≠ []) (s : Session σ) :
    t.batchInsert c rows s =
      match t.insertStatements c.dialect (t.prepareRows s.drawn rows) with
      | .error e => (.error e, { s with uses := s.uses + rows.length * t.columns.length })
      | .ok sts =>
        ((c.driver.submit sts s.database).1,
          { s with
            database := (c.driver.submit sts s.database).2
            uses := s.uses + rows.length * t.columns.length }) := by
  have inserted : t.batchInsert c rows s =
      ((t.insertRows c rows s).1.map Prod.snd, (t.insertRows c rows s).2) := bind_pure_map s
  rw [inserted, t.insertRows_apply c given]
  cases t.insertStatements c.dialect (t.prepareRows s.drawn rows) with
  | error e => rfl
  | ok sts =>
    dsimp only
    cases (c.driver.submit sts s.database).1 <;> rfl

theorem batchInsert_receives (rows : List Record) (s : Session (σ × List Statement)) :
    c.driver.Receives (t.insertStatements c.dialect (t.prepareRows s.drawn rows)) s.database
      (t.batchInsert c.recorded rows s).1 (t.batchInsert c.recorded rows s).2.database := by
  by_cases none : rows = []
  · subst none
    exact .nothing _
  · rw [t.batchInsert_apply c.recorded none, c.dialect_recorded]
    cases plan : t.insertStatements c.dialect (t.prepareRows s.drawn rows) with
    | error e => exact .complaint e _
    | ok sts =>
      refine c.driver.recorded_submit_receives ?_ s.database
      intro unwritten
      have length := (insertStatements_insertsInto plan).1
      rw [unwritten, length_prepareRows] at length
      exact none (List.eq_nil_of_length_eq_zero length.symm)

theorem batchUpdate_apply {updates : List Update} (given : updates ≠ []) (db : σ) :
    t.batchUpdate c updates db =
      match t.updateStatements c.dialect updates with
      | .error e => (.error e, db)
      | .ok sts => c.driver.submit sts db := by
  have filled : updates.isEmpty = false := by simpa using given
  unfold batchUpdate
  rw [filled]
  cases t.updateStatements c.dialect updates <;> rfl

theorem batchUpdate_receives (updates : List Update) (db : σ × List Statement) :
    c.driver.Receives (t.updateStatements c.dialect updates) db
      (t.batchUpdate c.recorded updates db).1 (t.batchUpdate c.recorded updates db).2 := by
  by_cases none : updates = []
  · subst none
    exact .nothing _
  · rw [t.batchUpdate_apply c.recorded none, c.dialect_recorded]
    cases plan : t.updateStatements c.dialect updates with
    | error e => exact .complaint e _
    | ok sts =>
      refine c.driver.recorded_submit_receives ?_ db
      intro unwritten
      have length := (Except.mapM_eq_ok plan).length_eq
      rw [unwritten] at length
      exact none (List.eq_nil_of_length_eq_zero length)

/-- Drivers of one dialect to which statements are handed over alike are the same for a batch. -/
theorem batches_congr {c c' : Connection σ} (dialect : c.dialect = c'.dialect)
    (submit : ∀ sts, c.driver.submit sts = c'.driver.submit sts) :
    (∀ rows, t.batchInsert c rows = t.batchInsert c' rows) ∧
      ∀ updates, t.batchUpdate c updates = t.batchUpdate c' updates := by
  simp only [batchInsert, insertRows, batchUpdate, dialect, submit, implies_true, and_self]

end Table

/-- All names of a batch are checked before anything is handed over, and the first one that is not
declared is complained about. Otherwise there is one statement for each row, or for each update, in
their order, and the statements of two batches after one another are those of the one batch and then
those of the other, with the identifiers that were drawn after the ones for the first. The driver
receives the statements up to the first that fails, whose error is the one of the batch, or all at
once if it has an `ownBatch`. One that is `announcing` is not told apart from one that takes
statements one by one. -/
theorem batches_in_order {σ : Type} (t : Table) (c : Connection σ) :
    ((∀ drawn rows, t.Plans (fun row => row.1.names) (t.Inserts c.dialect drawn) rows.zipIdx
        (t.insertStatements c.dialect (t.prepareRows drawn rows))) ∧
      ∀ updates, t.Plans Update.names (fun u st => t.updateStatement c.dialect u = .ok st) updates
        (t.updateStatements c.dialect updates)) ∧
    ((∀ drawn rows rows', t.insertStatements c.dialect (t.prepareRows drawn (rows ++ rows')) = do
        let former ← t.insertStatements c.dialect (t.prepareRows drawn rows)
        let later ← t.insertStatements c.dialect
          (t.prepareRows (fun k => drawn (rows.length * t.columns.length + k)) rows')
        return former ++ later) ∧
      ∀ updates updates', t.updateStatements c.dialect (updates ++ updates') = do
        let former ← t.updateStatements c.dialect updates
        let later ← t.updateStatements c.dialect updates'
        return former ++ later) ∧
    ((∀ rows s,
        c.driver.Receives (t.insertStatements c.dialect (t.prepareRows s.drawn rows)) s.database
          (t.batchInsert c.recorded rows s).1 (t.batchInsert c.recorded rows s).2.database) ∧
      ∀ updates db, c.driver.Receives (t.updateStatements c.dialect updates) db
        (t.batchUpdate c.recorded updates db).1 (t.batchUpdate c.recorded updates db).2) ∧
    ((∀ rows, t.batchInsert (c.through c.driver.announcing).recorded rows =
        t.batchInsert (c.through c.driver.oneByOne).recorded rows) ∧
      ∀ updates, t.batchUpdate (c.through c.driver.announcing).recorded updates =
        t.batchUpdate (c.through c.driver.oneByOne).recorded updates) := by
  refine ⟨⟨t.insertStatements_plans c.dialect, t.updateStatements_plans c.dialect⟩, ⟨?_, ?_⟩,
    ⟨t.batchInsert_receives c, t.batchUpdate_receives c⟩, ?_⟩
  · intro drawn rows rows'
    rw [t.prepareRows_append, t.insertStatements_append]
  · intro updates updates'
    exact List.mapM_append
  · exact t.batches_congr rfl c.driver.submit_announcing

namespace Crates

def crates : Table where
  name := "crates"
  columns := [{ name := "label", type := .text }, { name := "weight", type := .integer }]

/-- A database with room for some more crates, which says that it takes several at once. -/
def driver : Driver Nat where
  all _ := return .bare []
  run _ room := match room with
    | 0 => (.error (.database "full"), 0)
    | room + 1 => (.ok {}, room)
  supportsBatch := true

def opened : Session (Nat × List Statement) where
  database := (1, [])
  outside := ⟨fun _ => 0, fun _ => .epoch, fun _ => 0⟩

/-- Three crates, of which not all has been said. -/
def rows : List Record :=
  [.ofList [("label", .text "A")], .ofList [("weight", .int 3)], .ofList [("label", .text "B")]]

/-- There is room for the first crate only, so two statements are received, and none if the third
crate has a price. -/
theorem rows_batches_in_order :
    (∃ sts received,
      crates.insertStatements .sqlite (crates.prepareRows opened.drawn rows) = .ok sts ∧
      sts.length = 3 ∧ (crates.batchInsert ⟨driver.recorded, .sqlite⟩ rows opened).1 =
        .error (.database "full") ∧
      driver.InTurn sts 1 (.error (.database "full")) 0 received ∧ received.length = 2) ∧
    (crates.batchInsert ⟨driver.recorded, .sqlite⟩ (rows ++ [.ofList [("price", .int 5)]])
        opened).1 = .error (.unknownColumn "crates" "price") ∧
      (crates.batchInsert ⟨driver.recorded, .sqlite⟩ (rows ++ [.ofList [("price", .int 5)]])
        opened).2.database = opened.database := by
  obtain ⟨⟨plans, -⟩, -, ⟨receives, -⟩, -⟩ := batches_in_order crates ⟨driver, .sqlite⟩
  refine ⟨?_, ?_⟩
  · obtain ⟨sts, plan, each⟩ := (plans opened.drawn rows).accepted (by decide)
    obtain ⟨received, turn, record⟩ := (receives rows opened).inTurn sts plan (.inr rfl)
    have count : received.length = 2 := by
      rw [← List.nil_append received, ← show opened.database.2 = [] from rfl, ← record]
      decide +kernel
    exact ⟨sts, received, plan, each.length_eq.symm, rfl, turn, count⟩
  · exact (receives _ opened).refused _ ((plans opened.drawn _).refused "price" (by decide))

end Crates

end EntityStore
