import EntityStore.Proofs.Migration.Attempt
import EntityStore.Proofs.Migration.Declaration
import EntityStore.Proofs.Migration.Once

/-!
# Making pending migrations

The pending migrations are the declared ones that the history does not list. A call makes them in
order up to the first one that fails, the next call makes the rest, and the status of the declared
migrations tells at any time which are left.
-/

namespace EntityStore

variable {σ γ : Type}

/-! ## Pending migrations -/

/-- The `declared` migrations of which there is no entry, in the order of their timestamps. -/
structure Pending (declared : List (Migration σ)) (entries : List ExecutedMigration)
    (pending : List (Migration σ)) : Prop where
  ascending : Ascending Migration.timestamp pending
  mem_iff : ∀ m, m ∈ pending ↔
    m ∈ declared ∧ m.timestamp ∉ entries.map ExecutedMigration.timestamp

namespace Pending

variable {declared : List (Migration σ)} {entries : List ExecutedMigration}
  {pending : List (Migration σ)}

theorem unique {other : List (Migration σ)} (h : Pending declared entries pending)
    (h' : Pending declared entries other) : pending = other := by
  refine h.ascending.unique h'.ascending ?_
  have distinct : pending.Nodup := h.ascending.nodup.of_map _
  have distinct' : other.Nodup := h'.ascending.nodup.of_map _
  rw [List.perm_ext_iff_of_nodup distinct distinct']
  intro m
  rw [h.mem_iff, h'.mem_iff]

/-- Once the first ones are listed, the `others` are left. -/
theorem rest {made : List (Made σ)} {others : List (Migration σ)}
    (h : Pending declared entries (made.map Made.migration ++ others))
    {entries' : List ExecutedMigration} (perm : entries'.Perm (entries ++ made.map Made.entry)) :
    Pending declared entries' others := by
  have listed : ∀ t, t ∈ entries'.map ExecutedMigration.timestamp ↔
      t ∈ entries.map ExecutedMigration.timestamp ∨
        t ∈ (made.map Made.migration).map Migration.timestamp := by
    intro t
    rw [(perm.map ExecutedMigration.timestamp).mem_iff, List.map_append, List.mem_append,
      List.map_map, List.map_map]
    rfl
  have distinct := h.ascending.nodup
  rw [List.map_append] at distinct
  refine ⟨h.ascending.sublist (List.sublist_append_right _ _), ?_⟩
  intro m
  rw [listed, not_or]
  constructor
  · intro hm
    obtain ⟨hdeclared, unlisted⟩ := (h.mem_iff m).1 (List.mem_append_right _ hm)
    refine ⟨hdeclared, unlisted, ?_⟩
    intro among
    exact List.disjoint_of_nodup_append distinct among (List.mem_map.2 ⟨m, hm, rfl⟩)
  · rintro ⟨hdeclared, unlisted, notMade⟩
    rcases List.mem_append.1 ((h.mem_iff m).2 ⟨hdeclared, unlisted⟩) with hm | hm
    · exact absurd (List.mem_map.2 ⟨m, hm, rfl⟩) notMade
    · exact hm

end Pending

/-! ## Executors of declared migrations -/

namespace Executor

variable {e : Executor σ}

theorem pending_pending {declared : List (Migration σ)} (same : ∀ m, m ∈ e.migrations ↔ m ∈ declared)
    (entries : List ExecutedMigration) :
    Pending declared entries (e.pending (entries.map ExecutedMigration.timestamp)) where
  ascending := (List.pairwise_map.1 e.ascending).sublist List.filter_sublist
  mem_iff m := by rw [mem_pending, same]

end Executor

/-! ## Single calls -/

/-- The declared migrations that `status` marks as not executed, in order. -/
def unexecuted (status : List MigrationStatus) : List (Int × String) :=
  (status.filter fun row => !row.executed).map fun row => (row.timestamp, row.name)

namespace Archive

/-- In `s` no transaction is open, the history lists `entries`, and the clock can be written. -/
structure Ready (a : Archive σ γ) (s : Session σ) (entries : List ExecutedMigration) : Prop where
  lists : a.Lists s.database entries
  dated : s.outside.Dated

/-- A call of `executePending` goes through the `pending` migrations, and those that were `made` are
listed afterwards, as they are read back. -/
structure Makes (a : Archive σ γ) (e : Executor σ) (s : Session σ) (entries : List ExecutedMigration)
    (pending : List (Migration σ)) (made : List (Made σ)) (result : Except Error (List Int))
    (s' : Session σ) (entries' : List ExecutedMigration) : Prop where
  call : e.executePending s = (result, s')
  issued : ∃ issued, a.Attempt e.history (a.fails s.database)
      (a.log s.database ++ [e.history.createStatement, e.history.selectStatement])
      pending made result issued ∧
    a.Passes s.database s'.database
      ([e.history.createStatement, e.history.selectStatement] ++ issued)
  clock : ∀ m ∈ made, ∃ n, m.now = s.outside.clock n
  ready : a.Ready s' entries'
  entries : entries'.Perm (entries ++ made.map Made.entry)
  readBack : (e.history.executed s'.database).1 = .ok entries'

namespace Keeps

variable {a : Archive σ γ} {e : Executor σ} (keeps : a.Keeps e.history)
  (columns : e.history.table.columns = historyColumns) {entries : List ExecutedMigration}

include keeps columns

theorem executed_entries {db : σ} (lists : a.Lists db entries) :
    ∃ db', e.executed db = (.ok entries, db') ∧ a.Lists db' entries ∧
      a.Passes db db' [e.history.createStatement, e.history.selectStatement] := by
  obtain ⟨db', hensure, passes, lists'⟩ := keeps.ensure lists
  obtain ⟨db'', hexecuted, passes', lists''⟩ := keeps.executed columns lists'
  have start : e.start db = (.ok (), db') := hensure
  exact ⟨db'', (bind_ok start).trans hexecuted, lists'', passes.trans passes'⟩

/-- The status marks the `pending` migrations as not executed, and no other ones. -/
theorem unexecuted_status {declared pending : List (Migration σ)}
    (same : ∀ m, m ∈ e.migrations ↔ m ∈ declared) (left : Pending declared entries pending) {db : σ}
    (lists : a.Lists db entries) :
    ∃ status, (e.status db).1 = .ok status ∧
      unexecuted status = pending.map fun m => (m.timestamp, m.name) := by
  obtain ⟨db', hexecuted, _⟩ := keeps.executed_entries columns lists
  unfold Executor.status
  rw [bind_ok hexecuted]
  refine ⟨_, rfl, ?_⟩
  have listed : ∀ m : Migration σ,
      (entries.reverse.find? fun row => row.timestamp == m.timestamp).isSome =
        (entries.map ExecutedMigration.timestamp).contains m.timestamp := by
    intro m
    rw [Bool.eq_iff_iff, List.find?_isSome, List.contains_iff_mem, List.mem_map]
    simp
  rw [(Executor.pending_pending same entries).unique left |>.symm]
  unfold unexecuted Executor.pending
  rw [List.filter_map, List.map_map]
  simp only [Function.comp_def, listed]

/-- A call makes what is `pending`. -/
theorem makes {declared pending : List (Migration σ)}
    (same : ∀ m, m ∈ e.migrations ↔ m ∈ declared)
    (obeys : ∀ m ∈ declared, a.Obeys e.history m) (left : Pending declared entries pending)
    {s : Session σ} (ready : a.Ready s entries) :
    ∃ made result s' entries', a.Makes e s entries pending made result s' entries' := by
  obtain ⟨db, hexecuted, lists, passes⟩ := keeps.executed_entries columns ready.lists
  have whole : SessionM.atDatabase e.executed s = (.ok entries, { s with database := db }) := by
    rw [SessionM.atDatabase_apply, hexecuted]
  have obeysPending : ∀ m ∈ pending, a.Obeys e.history m := by
    intro m hm
    exact obeys m ((left.mem_iff m).1 hm).1
  have unlisted : ∀ m ∈ pending, m.timestamp ∉ entries.map ExecutedMigration.timestamp := by
    intro m hm
    exact ((left.mem_iff m).1 hm).2
  obtain ⟨result, s', made, issued, entries', hrun, outside, attempt, passes', lists', perm, clock⟩ :=
    keeps.runUp_attempt columns obeysPending left.ascending.nodup (s := { s with database := db })
      ready.dated lists unlisted
  obtain ⟨_, readBack, _⟩ := keeps.executed columns lists'
  have dated : s'.outside.Dated := by rw [outside]; exact ready.dated
  have call : e.executePending s = (result, s') := by
    have computed := (Executor.pending_pending same entries).unique left
    rw [← computed] at hrun
    exact (bind_ok whole).trans hrun
  rw [passes.fails, passes.log] at attempt
  exact ⟨made, result, s', entries', call, ⟨issued, attempt, passes.trans passes'⟩, clock,
    ⟨lists', dated⟩, perm, by rw [readBack]⟩

/-- Where nothing is pending, nothing is made. -/
theorem makes_nothing {declared : List (Migration σ)} (same : ∀ m, m ∈ e.migrations ↔ m ∈ declared)
    (obeys : ∀ m ∈ declared, a.Obeys e.history m) (left : Pending declared entries [])
    {s : Session σ} (ready : a.Ready s entries) :
    ∃ s', a.Makes e s entries [] [] (.ok []) s' entries := by
  obtain ⟨made, result, s', entries', makes⟩ := keeps.makes columns same obeys left ready
  obtain ⟨issued, attempt, passes⟩ := makes.issued
  cases attempt
  have unchanged : entries'.Perm entries := by simpa using makes.entries
  have equal : entries' = entries :=
    makes.ready.lists.ascending.unique ready.lists.ascending unchanged
  exact ⟨s', equal ▸ makes⟩

end Keeps

end Archive

/-- Of a database that keeps the history and of `declared` migrations with distinct timestamps, of
which any may fail. A call makes those that the history does not list, in order up to the first one
that fails; the next call, once none fails, makes the rest; and one more call makes nothing. At any
time the status marks just those as not executed that the next call would go through. -/
theorem Executor.pending_made {a : Archive σ γ} {c : Connection σ} {name : String} {h : History σ}
    (history : History.make c name = .ok h) (keeps : a.Keeps h) {declared : List (Migration σ)}
    (distinct : (declared.map Migration.timestamp).Nodup) (obeys : ∀ m ∈ declared, a.Obeys h m) :
    ∃ e, Executor.make h declared = .ok e ∧ ∀ s entries, a.Ready s entries →
      ∃ pending, Pending declared entries pending ∧
        (∃ status, (e.status s.database).1 = .ok status ∧
          unexecuted status = pending.map fun m => (m.timestamp, m.name)) ∧
        ∃ made result s' entries', a.Makes e s entries pending made result s' entries' ∧
          ∀ s₁, a.Ready s₁ entries' → (∀ m ∈ declared, ¬ a.fails s₁.database m.timestamp) →
            ∃ rest made₁ s₂ entries₂, pending = made.map Made.migration ++ rest ∧
              made₁.map Made.migration = rest ∧
              a.Makes e s₁ entries' rest made₁ (.ok (rest.map Migration.timestamp)) s₂ entries₂ ∧
              ∀ s₃, a.Ready s₃ entries₂ → ∃ s₄, a.Makes e s₃ entries₂ [] [] (.ok []) s₄ entries₂ := by
  have columns := History.columns_make history
  obtain ⟨e, hmake, rfl, same⟩ := Executor.make_eq_ok h distinct
  refine ⟨e, hmake, ?_⟩
  intro s entries ready
  have left := Executor.pending_pending same entries
  refine ⟨_, left, keeps.unexecuted_status columns same left ready.lists, ?_⟩
  obtain ⟨made, result, s', entries', makes⟩ := keeps.makes columns same obeys left ready
  refine ⟨made, result, s', entries', makes, ?_⟩
  intro s₁ ready₁ sound
  obtain ⟨_, attempt, _⟩ := makes.issued
  obtain ⟨rest, hrest⟩ := attempt.exists_rest
  rw [hrest] at left
  have leftAfter := left.rest makes.entries
  obtain ⟨made₁, result₁, s₂, entries₂, makes₁⟩ := keeps.makes columns same obeys leftAfter ready₁
  obtain ⟨_, attempt₁, _⟩ := makes₁.issued
  have soundRest : ∀ m ∈ rest, ¬ a.fails s₁.database m.timestamp := by
    intro m hm
    exact sound m ((leftAfter.mem_iff m).1 hm).1
  obtain ⟨all, rfl⟩ := attempt₁.all_made soundRest
  refine ⟨rest, made₁, s₂, entries₂, hrest, all, makes₁, ?_⟩
  intro s₃ ready₃
  have none : Pending declared entries' (made₁.map Made.migration ++ []) := by
    rw [all, List.append_nil]
    exact leftAfter
  exact keeps.makes_nothing columns same obeys (none.rest makes₁.entries) ready₃

/-! ## A database in memory -/

/-- A database with a history, which refuses some stages of a shop. -/
structure Shop where
  /-- The rows of the history. -/
  store : Store (List Record) := ⟨[], none⟩
  log : List Statement := []
  refused : List Int := []

namespace Shop

/-- The names of the fields of a row, in the order of the parameters. -/
def names : List String := ["timestamp", "name", "executed_at", "execution_time"]

def effect (st : Statement) (rows : List Record) : List Record :=
  if (after? "INSERT INTO " st.sql).isSome then rows ++ [.ofList (names.zip st.params)] else rows

/-- Whether `st` asks for a refused stage. -/
def refuses (shop : Shop) (st : Statement) : Bool :=
  match st.params with
  | [.int t] => shop.refused.contains t
  | _ => false

/-- Take a statement: it fails if it is refused, or if it is not allowed. -/
def take {α : Type} (answer : List Record → α) (st : Statement) : DatabaseM Shop α := fun shop =>
  match if shop.refuses st then none else shop.store.step effect st with
  | some store =>
    (.ok (answer shop.store.contents), { shop with store := store, log := shop.log ++ [st] })
  | none => (.error (.database "refused"), { shop with log := shop.log ++ [st] })

def timestamp (row : Record) : Int :=
  match row.get? "timestamp" with
  | some (.int t) => t
  | _ => 0

/-- In the order of their timestamps. -/
def arranged (rows : List Record) : Rows :=
  .bare (rows.insertionSort fun row row' => timestamp row ≤ timestamp row')

/-- Every question is answered with the rows of the history. -/
def driver : Driver Shop where
  all := take arranged
  run := take fun _ => {}

def history : History Shop :=
  ⟨⟨driver, .sqlite⟩, { name := "migrations", columns := historyColumns }⟩

def archive : Archive Shop (List Record) where
  store := store
  rows := id
  log := log
  fails shop t := t ∈ shop.refused

theorem run_history : history.connection.driver.run = take fun _ => {} := rfl

variable {shop : Shop} {st : Statement} {α : Type}

theorem takes_take (answer : List Record → α) (allowed : shop.refuses st = false)
    {store : Store (List Record)} (step : shop.store.step effect st = some store) :
    archive.Takes st shop (fun r after => r = answer shop.store.contents ∧ after = store)
      (take answer st shop) := by
  refine ⟨answer shop.store.contents, { shop with store := store, log := shop.log ++ [st] }, ?_,
    ⟨rfl, rfl⟩, rfl, rfl⟩
  unfold take
  rw [allowed, step]
  rfl

theorem effect_insert (text : String) (params : List Value) (rows : List Record) :
    effect ⟨"INSERT INTO " ++ text, params⟩ rows = rows ++ [.ofList (names.zip params)] := by
  simp [effect]

theorem effect_other {word : String} (apart : ¬ "INSERT INTO ".toList <+: word.toList)
    (apart' : ¬ word.toList <+: "INSERT INTO ".toList) (text : String) (params : List Value)
    (rows : List Record) : effect ⟨word ++ text, params⟩ rows = rows := by
  rw [effect, Control.after?_append_of_apart apart apart']
  rfl

theorem inOrder_arranged (rows : List Record) :
    ExecutedMigration.InOrder (arranged rows).toList := by
  have total : Std.Total fun row row' : Record => timestamp row ≤ timestamp row' :=
    ⟨fun row row' => le_total (timestamp row) (timestamp row')⟩
  have trans : IsTrans Record fun row row' => timestamp row ≤ timestamp row' :=
    ⟨fun _ _ _ => le_trans⟩
  refine (List.pairwise_insertionSort (fun row row' => timestamp row ≤ timestamp row') rows).imp ?_
  intro row row' le t t' ht ht'
  rw [timestamp, timestamp, ht, ht'] at le
  exact le

theorem keeps : archive.Keeps history where
  supported := rfl
  control {text c shop after} hc allowed := by
    have step : shop.store.step effect (.plain text) = some after := by
      rw [Store.step_control effect hc]
      exact allowed
    obtain ⟨r, db', hrun, passes, _, same⟩ := takes_take (fun _ => ({} : RunResult)) rfl step
    exact Archive.Takes.executed rfl rfl ⟨r, db', hrun, passes, same⟩
  create {shop d} closed := by
    obtain ⟨text, eq⟩ := history.exists_createStatement_eq
    have neutral : effect history.createStatement d = d := by
      rw [eq, Statement.plain, effect_other (by decide) (by decide)]
    have step : shop.store.step effect history.createStatement = some ⟨d, none⟩ := by
      have store : shop.store = ⟨d, none⟩ := closed
      rw [Store.step_change effect history.isData_createStatement, store, Store.change, neutral]
    obtain ⟨r, db', hrun, passes, _, same⟩ := takes_take (fun _ => ({} : RunResult)) rfl step
    refine Archive.Takes.executed rfl history.createStatement_eq ?_
    rw [run_history]
    exact ⟨r, db', hrun, passes, d, same, rfl⟩
  insert {shop d} t name now executionTime closed _ := by
    obtain ⟨text, eq⟩ := history.exists_insertStatement_fields t name now executionTime
    have data := (History.IsEntry.insert (h := history) t name now executionTime).isData
    have added : effect (history.insertStatement t name now executionTime) d =
        d ++ [.ofList (history.fields t name now executionTime)] := by
      rw [eq, effect_insert]
      rfl
    have step : shop.store.step effect (history.insertStatement t name now executionTime) =
        some ⟨d ++ [.ofList (history.fields t name now executionTime)], none⟩ := by
      have store : shop.store = ⟨d, none⟩ := closed
      rw [Store.step_change effect data, store, Store.change, added]
    obtain ⟨r, db', hrun, passes, _, same⟩ := takes_take (fun _ => ({} : RunResult)) rfl step
    rw [run_history]
    refine ⟨r, db', hrun, passes, _, _, same, List.perm_append_comm, ?_⟩
    simp [History.fields, Record.ofList, Record.get?_set]
  select {shop d} closed := by
    obtain ⟨text, eq⟩ := history.exists_selectStatement_eq
    have neutral : effect history.selectStatement d = d := by
      rw [eq, Statement.plain, effect_other (by decide) (by decide)]
    have store : shop.store = ⟨d, none⟩ := closed
    have step : shop.store.step effect history.selectStatement = some ⟨d, none⟩ := by
      rw [Store.step_change effect history.isData_selectStatement, store, Store.change, neutral]
    obtain ⟨r, db', hrun, passes, rfl, same⟩ := takes_take arranged rfl step
    refine ⟨_, db', hrun, passes, same, ?_, inOrder_arranged _⟩
    rw [store]
    exact List.perm_insertionSort _ d

/-- The statement that brings the shop to the stage `t`. -/
def stageStatement (t : Int) : Statement := ⟨"UPDATE shop SET stage = ?", [.int t]⟩

def stage (t : Int) : Migration Shop where
  timestamp := t
  name := "Stage"
  up c _ := do
    let _ ← SessionM.atDatabase (c.execute (stageStatement t).sql (stageStatement t).params)
  down c _ := do
    let _ ← SessionM.atDatabase
      (c.execute (stageStatement (t - 1)).sql (stageStatement (t - 1)).params)

theorem isData_stageStatement (t : Int) : (stageStatement t).IsData := by
  show Control.ofText? "UPDATE shop SET stage = ?" = none
  decide

theorem effect_stageStatement (t : Int) (rows : List Record) :
    effect (stageStatement t) rows = rows := by
  have other : (after? "INSERT INTO " "UPDATE shop SET stage = ?").isSome = false := by decide
  show (if (after? "INSERT INTO " "UPDATE shop SET stage = ?").isSome then _ else rows) = rows
  rw [other]
  rfl

theorem inner_stageStatement (h : History Shop) (t : Int) : h.Inner (stageStatement t) := by
  have data : Control.ofText? (stageStatement t).sql = none := isData_stageStatement t
  have begins : (stageStatement t).sql.toList.take 2 = ['U', 'P'] := by
    show "UPDATE shop SET stage = ?".toList.take 2 = ['U', 'P']
    decide
  refine ⟨?_, History.not_isEntry_of_take_two begins (by decide)⟩
  rw [data]
  decide

/-- A migration that runs the statement `st` alone fails if that one is refused. -/
theorem obeys_of_executes (told : List Int → Int → Prop) {h : History Shop} {m : Migration Shop}
    {st : Statement} (runs : h.connection.driver.run st = take (fun _ => {}) st)
    (data : st.IsData) (neutral : ∀ rows, effect st rows = rows) (inner : h.Inner st)
    (executes : m.up = fun c _ => do
      let _ ← SessionM.atDatabase (c.execute st.sql st.params))
    (refused : ∀ shop : Shop, shop.refuses st = true ↔ told shop.refused m.timestamp) :
    Archive.Obeys { archive with fails := fun shop => told shop.refused } h m := by
  intro scope s _ _ current
  have up : m.up h.connection scope s =
      ((take (fun _ => ({} : RunResult)) st s.database).1.map fun _ => (),
        { s with database := (take (fun _ => ({} : RunResult)) st s.database).2 }) := by
    rw [executes, ← runs]
    exact bind_pure_map s
  have step : s.database.store.step effect st = some s.database.store := by
    rw [Store.step_change effect data]
    rcases s.database.store with ⟨d, _ | t'⟩
    · rw [Store.change, neutral]
    · rw [Store.change, neutral]
  have only : ∀ st' ∈ [st], h.Inner st' := List.forall_mem_singleton.2 inner
  refine ⟨[st], ?_⟩
  show _ ∧ (_ ↔ ¬ told s.database.refused m.timestamp)
  rw [up, ← refused]
  unfold take
  rw [step]
  cases broken : s.database.refuses st with
  | true =>
    refine ⟨⟨rfl, rfl, ⟨rfl, rfl⟩, only, fun store => ⟨_, store, rfl⟩⟩, ?_, ?_⟩
    · rintro ⟨⟩
    · intro sound
      exact absurd rfl sound
  | false =>
    exact ⟨⟨rfl, rfl, ⟨rfl, rfl⟩, only, fun store => ⟨_, store, rfl⟩⟩, fun _ => nofun, fun _ => rfl⟩

theorem obeys_of_asks {h : History Shop}
    (runs : ∀ t, h.connection.driver.run (stageStatement t) = take (fun _ => {}) (stageStatement t))
    (told : Int → Int) {m : Migration Shop} (asks : m.up = (stage (told m.timestamp)).up) :
    Archive.Obeys { archive with fails := fun shop t => told t ∈ shop.refused } h m :=
  obeys_of_executes (fun refused t => told t ∈ refused) (runs _) (isData_stageStatement _)
    (effect_stageStatement _) (inner_stageStatement h _) asks fun _ => List.contains_iff_mem

theorem stage_obeys (t : Int) : archive.Obeys history (stage t) :=
  obeys_of_asks (fun _ => rfl) id rfl

/-- A session with an empty history, in which the second stage is refused. -/
def start : Session Shop where
  database := { refused := [2] }
  outside := ⟨fun _ => 0, fun _ => .epoch, fun _ => 0⟩

/-- The session `s`, once no stage is refused. -/
def repaired (s : Session Shop) : Session Shop :=
  { s with database := { s.database with refused := [] } }

theorem history_make : History.make ⟨driver, .sqlite⟩ "migrations" = .ok history :=
  History.make_migrations _

theorem ready_start : archive.Ready start [] where
  lists := ⟨[], rfl, .nil, [], .refl _, .nil⟩
  dated _ := by
    show 0 ≤ Calendar.Instant.epoch.date.year ∧ Calendar.Instant.epoch.date.year ≤ 9999
    decide

theorem pending_start : Pending [stage 2, stage 1] [] [stage 1, stage 2] where
  ascending := by
    unfold Ascending
    decide
  mem_iff m := by
    simp [or_comm]

/-- The first stage is reached and the second one refused; after that the second one is reached. -/
theorem stages_made :
    History.make ⟨driver, .sqlite⟩ "migrations" = .ok history ∧ archive.Keeps history ∧
    ([stage 2, stage 1].map Migration.timestamp).Nodup ∧
    (∀ m ∈ [stage 2, stage 1], archive.Obeys history m) ∧ archive.Ready start [] ∧
    ∃ e, Executor.make history [stage 2, stage 1] = .ok e ∧
      ∃ made error s' entries',
        archive.Makes e start [] [stage 1, stage 2] made (.error error) s' entries' ∧
        made.map Made.migration = [stage 1] ∧ archive.Ready (repaired s') entries' ∧
        ∃ made₁ s₂ entries₂,
          archive.Makes e (repaired s') entries' [stage 2] made₁ (.ok [2]) s₂ entries₂ ∧
          made₁.map Made.migration = [stage 2] := by
  have distinct : ([stage 2, stage 1].map Migration.timestamp).Nodup := by decide
  have obeys : ∀ m ∈ [stage 2, stage 1], archive.Obeys history m := by
    intro m hm
    simp only [List.mem_cons, List.not_mem_nil, or_false] at hm
    rcases hm with rfl | rfl
    · exact stage_obeys 2
    · exact stage_obeys 1
  refine ⟨history_make, keeps, distinct, obeys, ready_start, ?_⟩
  obtain ⟨e, hmake, calls⟩ := Executor.pending_made history_make keeps distinct obeys
  obtain ⟨pending, left, _, made, result, s', entries', makes, later⟩ := calls start [] ready_start
  obtain rfl := left.unique pending_start
  have ready : archive.Ready (repaired s') entries' := ⟨makes.ready.lists, makes.ready.dated⟩
  have sound : ∀ m ∈ [stage 2, stage 1], ¬ archive.fails (repaired s').database m.timestamp :=
    fun m _ => List.not_mem_nil
  obtain ⟨rest, made₁, s₂, entries₂, hrest, all, makes₁, _⟩ := later (repaired s') ready sound
  have firstSound : ¬ archive.fails start.database 1 := by
    show (1 : Int) ∉ [2]
    decide
  have secondBroken : archive.fails start.database 2 := List.mem_singleton.2 rfl
  obtain ⟨issued, attempt, _⟩ := makes.issued
  cases attempt with
  | failed broken _ => exact absurd broken firstSound
  | made _ _ others =>
    cases others with
    | made sound _ _ => exact absurd secondBroken sound
    | @failed _ _ _ _ error _ _ =>
      obtain ⟨_, rfl⟩ := List.cons.inj hrest
      exact ⟨e, hmake, _, error, s', entries', makes, rfl, ready, made₁, s₂, entries₂, makes₁, all⟩

end Shop

end EntityStore
