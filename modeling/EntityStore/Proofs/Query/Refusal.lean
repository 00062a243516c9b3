import EntityStore.Proofs.Page.Cursor
import EntityStore.Proofs.Query.Joining
import EntityStore.Proofs.Statement.Acceptance

/-!
# Complaints come before statements

An operation that complains about a declaration, an entity, a primary column, a column or an
identifier that is not there, has not asked the driver for anything. An operation is a row of
checks, which complain and change nothing, and then of steps at the database, which do not complain
any more. Where a second statement is compiled after the first one was run, its names are those that
the first one was checked for.
-/

namespace EntityStore

/-- Whether an error is about something that is not declared, or about a text that is no
identifier. -/
def Error.isComplaint : Error → Bool
  | entityNotRegistered _ | noPrimaryColumn _ | unknownColumn _ _ | invalidIdentifier _ _ => true
  | _ => false

/-! ## Steps that complain, and steps that do not -/

section

variable {τ ρ α β : Type}

/-- The step `x` fails, if at all, with other errors than complaints. -/
def Uncomplaining (x : ExceptT Error (StateM τ) α) : Prop :=
  ∀ s e, (x s).1 = .error e → e.isComplaint = false

/-- The step `x` leaves what is `seen` of the state as it was, if it fails with a complaint. -/
def ComplainsFirst (seen : τ → ρ) (x : ExceptT Error (StateM τ) α) : Prop :=
  ∀ s e, (x s).1 = .error e → e.isComplaint = true → seen (x s).2 = seen s

namespace Uncomplaining

theorem pure (a : α) : Uncomplaining (pure a : ExceptT Error (StateM τ) α) := by
  rintro s e ⟨⟩

theorem bind {x : ExceptT Error (StateM τ) α} {f : α → ExceptT Error (StateM τ) β}
    (hx : Uncomplaining x) (hf : ∀ a, Uncomplaining (f a)) : Uncomplaining (x >>= f) := by
  intro s e failed
  cases first : x s with
  | mk result s' =>
    cases result with
    | error e' =>
      rw [bind_error first] at failed
      cases failed
      exact hx s e (by rw [first])
    | ok a =>
      rw [bind_ok first] at failed
      exact hf a s' e failed

theorem returning {x : ExceptT Error (StateM τ) α} (hx : Uncomplaining x) (f : α → β) :
    Uncomplaining (x >>= fun a => Pure.pure (f a)) :=
  hx.bind fun a => pure (f a)

theorem passed {x : Except Error α} {a : α} (h : x = .ok a) :
    Uncomplaining (x : ExceptT Error (StateM τ) α) := by
  subst h
  exact pure a

theorem mapM {f : α → ExceptT Error (StateM τ) β} (hf : ∀ a, Uncomplaining (f a)) (as : List α) :
    Uncomplaining (as.mapM f) := by
  induction as with
  | nil => exact pure []
  | cons a as ih =>
    rw [List.mapM_cons]
    exact (hf a).bind fun b => ih.returning (b :: ·)

theorem first {x : ExceptT Error (StateM τ) α} (hx : Uncomplaining x) (seen : τ → ρ) :
    ComplainsFirst seen x := by
  intro s e failed complaint
  rw [hx s e failed] at complaint
  cases complaint

end Uncomplaining

namespace ComplainsFirst

variable {seen : τ → ρ}

/-- A check changes nothing, and where it has no result nothing is done after it. -/
theorem check {x : Except Error α} {f : α → ExceptT Error (StateM τ) β}
    (hf : ∀ a, x = .ok a → ComplainsFirst seen (f a)) :
    ComplainsFirst seen ((x : ExceptT Error (StateM τ) α) >>= f) := by
  cases x with
  | ok a => exact hf a rfl
  | error e =>
    intro s e' _ _
    rfl

theorem bind {x : ExceptT Error (StateM τ) α} {f : α → ExceptT Error (StateM τ) β}
    (hx : ComplainsFirst seen x) (hf : ∀ a, Uncomplaining (f a)) :
    ComplainsFirst seen (x >>= f) := by
  intro s e failed complaint
  cases first : x s with
  | mk result s' =>
    cases result with
    | error e' =>
      rw [bind_error first] at failed ⊢
      cases failed
      have before := hx s e (by rw [first]) complaint
      rwa [first] at before
    | ok a =>
      rw [bind_ok first] at failed
      rw [hf a s' e failed] at complaint
      cases complaint

end ComplainsFirst

end

variable {σ α : Type}

/-- What is done at the database is seen there. -/
theorem Uncomplaining.atDatabase {x : DatabaseM σ α} (hx : Uncomplaining x) :
    Uncomplaining (SessionM.atDatabase x) :=
  fun s e failed => hx s.database e failed

/-- Random numbers are not taken from the database. -/
theorem ComplainsFirst.randoms {β : Type} (count : Nat) {f : (Nat → Nat) → SessionM σ β}
    (hf : ∀ random, ComplainsFirst Session.database (f random)) :
    ComplainsFirst Session.database (SessionM.randoms count >>= f) :=
  fun s e failed complaint => hf _ { s with uses := s.uses + count } e failed complaint

/-! ## Drivers and entities -/

/-- A driver fails only with errors of the database, where it is asked for rows or changes them. -/
structure Driver.FailsAsDatabase (d : Driver σ) : Prop where
  all : ∀ st db e, (d.all st db).1 = .error e → ∃ cause, e = .database cause
  run : ∀ st db e, (d.run st db).1 = .error e → ∃ cause, e = .database cause
  first : ∀ own ∈ d.ownFirst, ∀ st db e, (own st db).1 = .error e → ∃ cause, e = .database cause
  batch : ∀ own ∈ d.ownBatch, ∀ sts db e, (own sts db).1 = .error e → ∃ cause, e = .database cause

/-- Records are refused as members of `e` only since they do not fit it. -/
def Entity.FailsAsMapping (e : Entity α) : Prop :=
  ∀ row err, e.ofRecord row = .error err → ∃ message, err = .mapping message

/-- The driver `d`, with a record of all statements that it receives beside its database. -/
def Driver.recorded (d : Driver σ) : Driver (σ × List Statement) where
  all st db := ((d.all st db.1).1, ((d.all st db.1).2, db.2 ++ [st]))
  run st db := ((d.run st db.1).1, ((d.run st db.1).2, db.2 ++ [st]))
  ownFirst := d.ownFirst.map fun own st db =>
    ((own st db.1).1, ((own st db.1).2, db.2 ++ [st]))
  ownExec := d.ownExec.map fun own sql db =>
    ((own sql db.1).1, ((own sql db.1).2, db.2 ++ [.plain sql]))
  supportsBatch := d.supportsBatch
  ownBatch := d.ownBatch.map fun own sts db =>
    ((own sts db.1).1, ((own sts db.1).2, db.2 ++ sts))
  supportsTransactions := d.supportsTransactions

/-- The repository `r`, with a record of all statements that its driver receives. -/
def Repository.recorded (r : Repository σ α) : Repository (σ × List Statement) α :=
  { r with connection := ⟨r.connection.driver.recorded, r.connection.dialect⟩ }

namespace Driver.FailsAsDatabase

variable {d : Driver σ} (h : d.FailsAsDatabase)

include h

theorem recorded : d.recorded.FailsAsDatabase where
  all st db := h.all st db.1
  run st db := h.run st db.1
  first := by
    intro _ given st db
    obtain ⟨own, owned, rfl⟩ := Option.map_eq_some_iff.1 given
    exact h.first own owned st db.1
  batch := by
    intro _ given sts db
    obtain ⟨own, owned, rfl⟩ := Option.map_eq_some_iff.1 given
    exact h.batch own owned sts db.1

theorem asked (st : Statement) : Uncomplaining (d.all st) := by
  intro db e failed
  obtain ⟨cause, rfl⟩ := h.all st db e failed
  rfl

theorem askedFirst (st : Statement) : Uncomplaining (d.first st) := by
  unfold Driver.first
  split
  · rename_i own given
    intro db e failed
    obtain ⟨cause, rfl⟩ := h.first own given st db e failed
    rfl
  · exact (h.asked st).returning _

theorem ran (st : Statement) : Uncomplaining (d.run st) := by
  intro db e failed
  obtain ⟨cause, rfl⟩ := h.run st db e failed
  rfl

theorem ranEach (sts : List Statement) : Uncomplaining (d.runEach sts) := by
  induction sts with
  | nil => exact .pure []
  | cons st rest ih => exact (h.ran st).bind fun result => ih.returning (result :: ·)

theorem submitted (sts : List Statement) : Uncomplaining (d.submit sts) := by
  unfold Driver.submit Driver.batch
  split
  · split
    · rename_i own given
      intro db e failed
      obtain ⟨cause, rfl⟩ := h.batch own given sts db e failed
      rfl
    · exact h.ranEach sts
  · exact h.ranEach sts

end Driver.FailsAsDatabase

theorem Entity.FailsAsMapping.mapped {e : Entity α} (h : e.FailsAsMapping) (row : Record) :
    Uncomplaining (e.ofRecord row : ExceptT Error (StateM σ) α) := by
  intro s err failed
  obtain ⟨message, rfl⟩ := h row err failed
  rfl

/-! ## Queries and changes of rows -/

section

variable {c : Connection σ} (reports : c.driver.FailsAsDatabase)

include reports

namespace Query

theorem fetch_uncomplaining (q : Query) (st : Statement) : Uncomplaining (q.fetch c st) :=
  (reports.asked st).returning _

theorem execute_complainsFirst {e : Entity α} (maps : e.FailsAsMapping) (q : Query) :
    ComplainsFirst id (q.execute c e) := by
  unfold execute rows
  rw [bind_assoc]
  refine .check fun st _ => Uncomplaining.first ?_ id
  exact (fetch_uncomplaining reports q st).bind fun rows => .mapM maps.mapped rows

theorem getOne?_complainsFirst {e : Entity α} (maps : e.FailsAsMapping) (q : Query) :
    ComplainsFirst id (q.getOne? c e) :=
  (execute_complainsFirst reports maps (q.limited 1)).bind fun members => .pure members.head?

theorem scalar_complainsFirst (q : Query) (expression name : String) :
    ComplainsFirst id (q.scalar c expression name) := by
  refine .check fun st _ => Uncomplaining.first ?_ id
  exact (reports.askedFirst st).returning _

theorem count_complainsFirst (q : Query) (column : String) :
    ComplainsFirst id (q.count c column) :=
  .check fun _ _ => (scalar_complainsFirst reports q _ _).bind fun v => .pure (v.asInt?.getD 0)

theorem aggregate_complainsFirst (q : Query) (function column : String) :
    ComplainsFirst id (q.aggregate c function column) :=
  .check fun _ _ => (scalar_complainsFirst reports q _ _).bind fun v => .pure (v.asFloat?.getD 0.0)

/-- An aggregate that has a statement does not complain. -/
theorem count_uncomplaining {q : Query} {a : Statement}
    (built : q.aggregateStatement c.dialect "COUNT(*)" "count" = .ok a) :
    Uncomplaining (q.count c "*") := by
  refine Uncomplaining.bind (.passed (a := ()) rfl) fun _ => Uncomplaining.returning ?_ _
  refine Uncomplaining.bind (.passed built) fun st => ?_
  exact (reports.askedFirst st).returning _

end Query

namespace Table

theorem insertRows_complainsFirst (t : Table) (rows : List Record) :
    ComplainsFirst Session.database (t.insertRows c rows) := by
  unfold insertRows
  split
  · exact Uncomplaining.first (.pure _) _
  · refine .randoms _ fun random => .check fun sts _ => Uncomplaining.first ?_ _
    exact (reports.submitted sts).atDatabase.returning _

theorem batchInsert_complainsFirst (t : Table) (rows : List Record) :
    ComplainsFirst Session.database (t.batchInsert c rows) :=
  (insertRows_complainsFirst reports t rows).bind fun inserted => .pure inserted.2

theorem batchUpdate_complainsFirst (t : Table) (updates : List Update) :
    ComplainsFirst id (t.batchUpdate c updates) := by
  unfold batchUpdate
  split
  · exact Uncomplaining.first (.pure _) _
  · exact .check fun sts _ => Uncomplaining.first (reports.submitted sts) _

end Table

end

/-! ## The statement that counts -/

namespace Query

variable {q q' : Query}

/-- Which names are allowed in a filter depends on the table and on the name under which it is
used. -/
theorem allows_congr (table : q.table = q'.table) (root : q.root = q'.root) {name : String}
    (h : q.Allows (.column false name)) : q'.Allows (.column false name) := by
  refine ⟨h.1, ?_⟩
  cases h.2 with
  | plain plain declared => exact .plain plain (table ▸ declared)
  | joined cut foreign => exact .joined cut (root ▸ table ▸ foreign)
  | qualified cut own declared => exact .qualified cut (root ▸ table ▸ own) (table ▸ declared)
  | selected allowed => cases allowed

theorem whereClause_accepted {d : Dialect} {s : Statement} (built : q.selectStatement d = .ok s) :
    ∃ rows, q.whereClause d = .ok rows := by
  simp only [selectStatement, selectSql, Except.bind_eq_ok] at built
  obtain ⟨_, ⟨_, _, rows, hrows, _⟩, _⟩ := built
  exact ⟨rows, hrows⟩

/-- A query with a statement has one for every aggregate, and so has every query of the same table,
used under the same name, with the same filter. -/
theorem aggregateStatement_accepted (table : q.table = q'.table) (root : q.root = q'.root)
    (filter : q.filter = q'.filter) {d : Dialect} {s : Statement}
    (built : q.selectStatement d = .ok s) (expression name : String) :
    ∃ a, q'.aggregateStatement d expression name = .ok a := by
  have allowed := (q.checks_filterClause d " WHERE " false q.filter).exists_ok_iff.1
    (whereClause_accepted built)
  obtain ⟨rows', hrows'⟩ :=
    (q'.checks_filterClause d " WHERE " false q'.filter).exists_ok_iff.2 (by
      rw [← filter]
      intro m hm
      obtain ⟨column, _, rfl⟩ := List.mem_map.1 hm
      exact allows_congr table root (allowed _ hm))
  have clause : q'.whereClause d = .ok rows' := hrows'
  simp only [aggregateStatement, aggregateSql, clause]
  exact ⟨_, rfl⟩

end Query

namespace Repository

variable {r : Repository σ α}

/-- The query whose rows `Repository.count` counts. -/
def counted (r : Repository σ α) (filter : Option Filter) : Query :=
  { table := r.table, filter := filter }

/-- The members that are found can be counted: where the query for them has a statement, so has the
one that counts them, with or without relations. -/
theorem count_accepted {o : FindOptions} {q : Query} (found : r.findQuery o = .ok q) {d : Dialect}
    {s : Statement} (built : q.selectStatement d = .ok s) (expression name : String) :
    ∃ a, (r.counted o.filter).aggregateStatement d expression name = .ok a := by
  obtain ⟨selected, joins, rfl⟩ := findQuery_eq_ok found
  refine Query.aggregateStatement_accepted ?table ?root ?filter built expression name
  case table => rfl
  case filter => rfl
  case root =>
    cases o.relations with
    | nil => rfl
    | cons property rest => rfl

/-! ## Repositories -/

section

variable (reports : r.connection.driver.FailsAsDatabase) (maps : r.entity.FailsAsMapping)

include reports

theorem update_complainsFirst (id : Value) (values : Record) :
    ComplainsFirst (fun db => db) (r.update id values) := by
  refine .check fun primary _ => ?_
  split
  · exact Uncomplaining.first (.pure _) _
  · exact (Table.batchUpdate_complainsFirst reports _ _).bind fun results => .pure _

theorem remove_complainsFirst (id : Value) : ComplainsFirst (fun db => db) (r.remove id) :=
  .check fun _ _ => (reports.ran _).first _

theorem count_complainsFirst (filter : Option Filter) : ComplainsFirst id (r.count filter) :=
  (Query.count_complainsFirst reports _ _).bind fun n => .pure n.toNat

theorem exists?_complainsFirst (filter : Option Filter) : ComplainsFirst id (r.exists? filter) :=
  (count_complainsFirst reports filter).bind fun n => .pure (decide (0 < n))

include maps

theorem find_complainsFirst (o : FindOptions) : ComplainsFirst id (r.find o) :=
  .check fun q _ => Query.execute_complainsFirst reports maps q

theorem findOne?_complainsFirst (id : Value) : ComplainsFirst (fun db => db) (r.findOne? id) :=
  .check fun _ _ => Query.getOne?_complainsFirst reports maps _

theorem save_complainsFirst (member : α) : ComplainsFirst Session.database (r.save member) :=
  (Table.insertRows_complainsFirst reports r.table [r.entity.toRecord member]).bind
    fun _ => maps.mapped _

theorem upsert_complainsFirst (member : α) : ComplainsFirst Session.database (r.upsert member) := by
  refine .check fun primary _ => .randoms _ fun random => .check fun st _ => ?_
  exact ((reports.ran st).atDatabase.bind fun _ => maps.mapped _).first _

/-- The count comes after the members were found, and it does not complain. -/
theorem findAndCount_complainsFirst (o : FindOptions) : ComplainsFirst id (r.findAndCount o) := by
  unfold findAndCount find Query.execute Query.rows
  simp only [bind_assoc]
  refine .check fun q found => .check fun st built => Uncomplaining.first ?_ id
  refine (Query.fetch_uncomplaining reports q st).bind fun rows => ?_
  refine Uncomplaining.bind (.mapM maps.mapped rows) fun members => ?_
  -- what was checked for the first statement is all that the second one is checked for
  obtain ⟨a, counts⟩ := count_accepted found built "COUNT(*)" "count"
  exact Uncomplaining.returning ((Query.count_uncomplaining reports counts).returning _) _

theorem findPage_complainsFirst (asked : Pageable) (filter : Option Filter) :
    ComplainsFirst id (r.findPage asked filter) :=
  (findAndCount_complainsFirst reports maps _).bind fun _ => .pure _

theorem findCursorPage_complainsFirst (o : CursorPageable) :
    ComplainsFirst id (r.findCursorPage o) := by
  have page : ∀ name, ComplainsFirst id
      ((r.cursorQuery o name).rows r.connection >>= r.pageOf (max o.size 1) name) := by
    intro name
    unfold Query.rows
    rw [bind_assoc]
    refine .check fun st _ => Uncomplaining.first ?_ id
    refine (Query.fetch_uncomplaining reports _ st).bind fun rows => ?_
    exact Uncomplaining.returning (.mapM maps.mapped _) _
  unfold findCursorPage
  cases ordered : o.orderBy with
  | none => exact .check fun name _ => page name
  | some name => exact page name

end

end Repository

/-! ## Every operation -/

/-- Whatever is asked of a repository or of a query, an operation that fails with a complaint has
left the database as it was, and the record of the statements that the driver received, too. The
statement that counts what was found is never the one that is complained about. -/
theorem complaints_come_first {r : Repository σ α} (reports : r.connection.driver.FailsAsDatabase)
    (maps : r.entity.FailsAsMapping) :
    ((∀ o, ComplainsFirst id (r.recorded.find o)) ∧
      (∀ key, ComplainsFirst id (r.recorded.findOne? key)) ∧
      (∀ member, ComplainsFirst Session.database (r.recorded.save member)) ∧
      (∀ key values, ComplainsFirst id (r.recorded.update key values)) ∧
      (∀ key, ComplainsFirst id (r.recorded.remove key)) ∧
      (∀ member, ComplainsFirst Session.database (r.recorded.upsert member)) ∧
      (∀ filter, ComplainsFirst id (r.recorded.count filter)) ∧
      (∀ filter, ComplainsFirst id (r.recorded.exists? filter)) ∧
      (∀ o, ComplainsFirst id (r.recorded.findAndCount o)) ∧
      (∀ asked filter, ComplainsFirst id (r.recorded.findPage asked filter)) ∧
      (∀ o, ComplainsFirst id (r.recorded.findCursorPage o))) ∧
    (∀ q : Query, ComplainsFirst id (q.execute r.recorded.connection r.entity) ∧
      ComplainsFirst id (q.getOne? r.recorded.connection r.entity) ∧
      (∀ column, ComplainsFirst id (q.count r.recorded.connection column)) ∧
      (∀ function column, ComplainsFirst id (q.aggregate r.recorded.connection function column))) ∧
    (∀ t : Table,
      (∀ rows, ComplainsFirst Session.database (t.batchInsert r.recorded.connection rows)) ∧
      (∀ updates, ComplainsFirst id (t.batchUpdate r.recorded.connection updates))) ∧
    (∀ o q s, r.findQuery o = .ok q → q.selectStatement r.connection.dialect = .ok s →
      ∃ a, (r.counted o.filter).countStatement r.connection.dialect = .ok a) := by
  have reports : r.recorded.connection.driver.FailsAsDatabase := reports.recorded
  have maps : r.recorded.entity.FailsAsMapping := maps
  refine ⟨⟨?_, ?_, ?_, ?_, ?_, ?_, ?_, ?_, ?_, ?_, ?_⟩, ?_, ?_, ?_⟩
  · exact Repository.find_complainsFirst reports maps
  · exact Repository.findOne?_complainsFirst reports maps
  · exact Repository.save_complainsFirst reports maps
  · exact Repository.update_complainsFirst reports
  · exact Repository.remove_complainsFirst reports
  · exact Repository.upsert_complainsFirst reports maps
  · exact Repository.count_complainsFirst reports
  · exact Repository.exists?_complainsFirst reports
  · exact Repository.findAndCount_complainsFirst reports maps
  · exact Repository.findPage_complainsFirst reports maps
  · exact Repository.findCursorPage_complainsFirst reports maps
  · intro q
    exact ⟨Query.execute_complainsFirst reports maps q, Query.getOne?_complainsFirst reports maps q,
      Query.count_complainsFirst reports q, Query.aggregate_complainsFirst reports q⟩
  · intro t
    exact ⟨Table.batchInsert_complainsFirst reports t, Table.batchUpdate_complainsFirst reports t⟩
  · intro o q s found built
    exact Repository.count_accepted found built "COUNT(*)" "count"

namespace Club

def members : Table where
  name := "members"
  columns := [
    { name := "id", type := .integer, primary := true }, { name := "name", type := .text }]
  relations := [{ property := "friends", kind := .oneToMany, target := ⟨1, "Member"⟩ }]

/-- A database that answers nothing and cannot be changed. -/
def driver : Driver Unit where
  all _ := return .bare []
  run _ := throw (.database "read only")

def repository : Repository Unit Record where
  connection := ⟨driver, .sqlite⟩
  registry := ⟨[(⟨1, "Member"⟩, members)]⟩
  entity := ⟨⟨1, "Member"⟩, members, id, .ok⟩
  table := members
  owner := .dataSource

/-- The members of some age, with their friends; no member has an age. -/
def aged : FindOptions where
  filter := some (.condition (.both (.isNotNull "friends.id") (.equal "age" (.int 30))))
  relations := ["friends"]

theorem aged_complaint_comes_first :
    driver.FailsAsDatabase ∧ repository.entity.FailsAsMapping ∧
    (repository.recorded.findAndCount aged ((), [])).1 = .error (.unknownColumn "members" "age") ∧
    (repository.recorded.findAndCount aged ((), [])).2 = ((), []) := by
  have reports : driver.FailsAsDatabase := by
    refine ⟨?_, ?_, nofun, nofun⟩
    · rintro st db e ⟨⟩
    · rintro st db e ⟨⟩
      exact ⟨_, rfl⟩
  have maps : repository.entity.FailsAsMapping := by
    rintro row e ⟨⟩
  have complaint : (repository.recorded.findAndCount aged ((), [])).1 =
      .error (.unknownColumn "members" "age") := by
    rfl
  obtain ⟨⟨-, -, -, -, -, -, -, -, counted, -, -⟩, -⟩ := complaints_come_first reports maps
  exact ⟨reports, maps, complaint, counted aged _ _ complaint rfl⟩

end Club

end EntityStore
