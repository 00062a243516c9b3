import EntityStore.Proofs.Migration.Archive
import EntityStore.Proofs.Migration.Executor

/-!
# Pending migrations one after another

Pending migrations are made in order, each in a transaction of its own that is followed by the entry
of the migration in the history, up to the first one that fails. That one is rolled back, and nothing
comes after it.
-/

namespace EntityStore

variable {σ γ : Type}

/-- A statement within a transaction that neither begins nor ends one and is no entry of `h`. -/
def History.Inner (h : History σ) (st : Statement) : Prop :=
  Control.ofText? st.sql ∉ [some .begin, some .commit, some .rollback] ∧ ¬ h.IsEntry st

/-- The clock shows years of at most four digits, as they are read back from a text. -/
def Outside.Dated (o : Outside) : Prop :=
  ∀ n, 0 ≤ (o.clock n).date.year ∧ (o.clock n).date.year ≤ 9999

/-- A migration that was made, with its time of execution and how many milliseconds it took. -/
structure Made (σ : Type) where
  migration : Migration σ
  now : Calendar.Instant
  elapsed : Nat

/-- The entry of a migration that was made, as it is read back. -/
def Made.entry (m : Made σ) : ExecutedMigration :=
  ⟨m.migration.timestamp, m.migration.name, some m.now.settled.toMilli, m.elapsed⟩

namespace Archive

open ExecutedMigration (Listed)

variable (a : Archive σ γ) (h : History σ)

/-- From `s` to `s'`, within an open transaction, the statements `own` were issued. They belong to
`scope` and leave the history alone. -/
structure Within (scope : Scope) (s s' : Session σ) (own : List Statement) : Prop where
  state : s'.stateOf scope.number = s.stateOf scope.number
  outside : s'.outside = s.outside
  passes : a.Passes s.database s'.database own
  inner : ∀ st ∈ own, h.Inner st
  rows : ∀ {d t}, a.store s.database = ⟨d, some t⟩ →
    ∃ t', a.store s'.database = ⟨d, some t'⟩ ∧ a.rows t'.working = a.rows t.working

/-- The body of `m` keeps to the scope that is begun for it and leaves the history alone, and it
fails if and only if `fails` says so. -/
def Obeys (m : Migration σ) : Prop :=
  ∀ scope s, scope.number < s.scopes → s.stateOf scope.number = .active →
    (a.store s.database).current.isSome = true →
      ∃ own, a.Within h scope s (m.up h.connection scope s).2 own ∧
        ((m.up h.connection scope s).1 = .ok () ↔ ¬ a.fails s.database m.timestamp)

/-- The body of `m` was run in a scope that had begun, right after the statement that begins it. It
issued the statements `own` and came to `result`. -/
def Ran (m : Migration σ) (log own : List Statement) (result : Except Error Unit) : Prop :=
  ∃ scope s s', s.stateOf scope.number = .active ∧
    a.log s.database = log ++ [.plain h.connection.dialect.begin] ∧
    m.up h.connection scope s = (result, s') ∧ a.Within h scope s s' own

/-- The statements of a transaction. -/
def enclosed (own : List Statement) (last : String) : List Statement :=
  .plain h.connection.dialect.begin :: (own ++ [.plain last])

/-- After the statements of a log, pending migrations are made in order, up to the first one that
fails, with a result and by further statements. -/
inductive Attempt (fails : Int → Prop) : List Statement →
    List (Migration σ) → List (Made σ) → Except Error (List Int) → List Statement → Prop where
  /-- None is left. -/
  | done (log : List Statement) : Attempt fails log [] [] (.ok []) []
  /-- The first one fails and is rolled back. -/
  | failed {log own : List Statement} {m : Migration σ} {rest : List (Migration σ)} {error : Error}
    (broken : fails m.timestamp) (ran : a.Ran h m log own (.error error)) :
    Attempt fails log (m :: rest) [] (.error error) (enclosed h own "ROLLBACK")
  /-- The first one is committed and then entered in the history, before the next one begins. -/
  | made {log own : List Statement} {m : Migration σ} {rest : List (Migration σ)}
    {now : Calendar.Instant} {elapsed : Nat} {others : List (Made σ)}
    {result : Except Error (List Int)} {issued : List Statement} (sound : ¬ fails m.timestamp)
    (ran : a.Ran h m log own (.ok ()))
    (later : Attempt fails (log ++ (enclosed h own "COMMIT" ++
      [h.insertStatement m.timestamp m.name now elapsed])) rest others result issued) :
    Attempt fails log (m :: rest) (⟨m, now, elapsed⟩ :: others) (result.map (m.timestamp :: ·))
      (enclosed h own "COMMIT" ++ [h.insertStatement m.timestamp m.name now elapsed] ++ issued)

variable {a h}

/-- Some of the `pending` migrations are left, those that were `made` coming before them. -/
theorem Attempt.exists_rest {fails : Int → Prop} {log : List Statement}
    {pending : List (Migration σ)} {made : List (Made σ)} {result : Except Error (List Int)}
    {issued : List Statement} (attempt : a.Attempt h fails log pending made result issued) :
    ∃ rest, pending = made.map Made.migration ++ rest := by
  induction attempt with
  | done => exact ⟨[], rfl⟩
  | @failed _ _ m rest _ _ _ => exact ⟨m :: rest, rfl⟩
  | @made _ _ m _ _ _ _ _ _ _ _ _ ih =>
    obtain ⟨rest, hrest⟩ := ih
    exact ⟨rest, congrArg (m :: ·) hrest⟩

/-- Where none of them fails, all `pending` migrations are made. -/
theorem Attempt.all_made {fails : Int → Prop} {log : List Statement} {pending : List (Migration σ)}
    {made : List (Made σ)} {result : Except Error (List Int)} {issued : List Statement}
    (attempt : a.Attempt h fails log pending made result issued)
    (sound : ∀ m ∈ pending, ¬ fails m.timestamp) :
    made.map Made.migration = pending ∧ result = .ok (pending.map Migration.timestamp) := by
  induction attempt with
  | done => exact ⟨rfl, rfl⟩
  | failed broken _ => exact absurd broken (sound _ (List.mem_cons_self ..))
  | @made _ _ m rest _ _ _ _ _ _ _ _ ih =>
    obtain ⟨migrations, ok⟩ := ih fun m' hm' => sound m' (List.mem_cons_of_mem _ hm')
    rw [List.map_cons, migrations, ok]
    exact ⟨rfl, rfl⟩

/-- An error is the one of the first migration that fails. -/
theorem Attempt.stopped {fails : Int → Prop} {log : List Statement} {pending : List (Migration σ)}
    {made : List (Made σ)} {result : Except Error (List Int)} {issued : List Statement}
    (attempt : a.Attempt h fails log pending made result issued) :
    ∀ error, result = .error error → ∃ m rest log' own,
      pending = made.map Made.migration ++ m :: rest ∧ fails m.timestamp ∧
        a.Ran h m log' own (.error error) := by
  induction attempt with
  | done => rintro error ⟨⟩
  | @failed log own m rest error broken ran =>
    rintro error' ⟨⟩
    exact ⟨m, rest, log, own, rfl, broken, ran⟩
  | @made _ _ m _ _ _ _ result _ _ _ _ ih =>
    intro error failed
    cases result with
    | ok others => cases failed
    | error e =>
      cases failed
      obtain ⟨m', rest, log', own, hpending, broken, ran⟩ := ih error rfl
      exact ⟨m', rest, log', own, congrArg (m :: ·) hpending, broken, ran⟩

/-- Without an error, none of the `pending` migrations fails. -/
theorem Attempt.sound {fails : Int → Prop} {log : List Statement} {pending : List (Migration σ)}
    {made : List (Made σ)} {result : Except Error (List Int)} {issued : List Statement}
    (attempt : a.Attempt h fails log pending made result issued) :
    ∀ timestamps, result = .ok timestamps → ∀ m ∈ pending, ¬ fails m.timestamp := by
  induction attempt with
  | done => exact fun _ _ => nofun
  | failed _ _ => rintro timestamps ⟨⟩
  | @made _ _ _ _ _ _ _ result _ sound _ _ ih =>
    intro timestamps ok
    cases result with
    | error e => cases ok
    | ok others => exact List.forall_mem_cons.2 ⟨sound, ih others rfl⟩

/-! ## The transaction of a migration -/

namespace Keeps

variable (keeps : a.Keeps h)

include keeps

/-- A controlling statement has its effect where it is allowed. -/
theorem controlled {text : String} {c : Control} (hc : Control.ofText? text = some c) {s : Session σ}
    {after : Store γ} (allowed : (a.store s.database).control c = some after) :
    ∃ db, Scope.control h.connection text s = (.ok (), { s with database := db }) ∧
      a.Passes s.database db [.plain text] ∧ a.store db = after := by
  obtain ⟨r, db, hexec, passes, store⟩ := keeps.control hc allowed
  rw [Scope.control_apply, hexec]
  exact ⟨db, rfl, passes, store⟩

theorem begin_root {scope : Scope} (root : scope.savepoint = none) (plain : scope.isolation = none)
    {s : Session σ} (idle : s.stateOf scope.number = .idle) {d : γ}
    (closed : a.store s.database = ⟨d, none⟩) :
    ∃ db, scope.begin h.connection s =
        (.ok (), Scope.afterState scope .active { s with database := db }) ∧
      a.Passes s.database db [.plain h.connection.dialect.begin] ∧
      a.store db = ⟨d, some ⟨d, []⟩⟩ := by
  have allowed : (a.store s.database).control .begin = some ⟨d, some ⟨d, []⟩⟩ := by
    rw [closed]
    rfl
  obtain ⟨db, hcontrol, passes, store⟩ :=
    keeps.controlled (Control.ofText?_begin h.connection.dialect) allowed
  refine ⟨db, ?_, passes, store⟩
  rw [Scope.begin_root_eq keeps.supported root idle, bind_ok (Scope.applyIsolation_none plain),
    bind_ok hcontrol, Scope.setState_apply]

/-- A transaction is committed after a result, and rolled back after an error. -/
theorem finish_root {scope : Scope} (root : scope.savepoint = none) {s : Session σ}
    (active : s.stateOf scope.number = .active) {d : γ} {t : OpenTransaction γ}
    (opened : a.store s.database = ⟨d, some t⟩) (result : Except Error Unit) :
    ∃ s', scope.finish h.connection result s = (result, s') ∧ s'.outside = s.outside ∧
      a.Passes s.database s'.database [.plain (if result.isOk then "COMMIT" else "ROLLBACK")] ∧
      a.store s'.database = ⟨if result.isOk then t.working else d, none⟩ := by
  cases result with
  | ok u =>
    have allowed : (a.store s.database).control .commit = some ⟨t.working, none⟩ := by
      rw [opened]
      rfl
    obtain ⟨db, hcontrol, passes, store⟩ := keeps.controlled Control.ofText?_commit allowed
    have commit := Scope.commit_root_eq (c := h.connection) root active
    rw [bind_ok hcontrol, Scope.setState_apply] at commit
    exact ⟨_, Scope.finish_ok commit, rfl, passes, store⟩
  | error e =>
    have allowed : (a.store s.database).control .rollback = some ⟨d, none⟩ := by
      rw [opened]
      rfl
    obtain ⟨db, hcontrol, passes, store⟩ := keeps.controlled Control.ofText?_rollback allowed
    have rollback := Scope.rollback_root_eq (c := h.connection) root active
    rw [bind_ok hcontrol, Scope.setState_apply] at rollback
    refine ⟨_, Scope.finish_error scope h.connection e s, ?_, ?_, ?_⟩
    · rw [rollback]
      rfl
    · rw [rollback]
      exact passes
    · rw [rollback]
      exact store

/-- The body of `m` between the beginning and the end of `scope`. -/
theorem run_root {m : Migration σ} (obeys : a.Obeys h m) {scope : Scope}
    (root : scope.savepoint = none) (plain : scope.isolation = none) {s : Session σ}
    (made : scope.number < s.scopes) (idle : s.stateOf scope.number = .idle)
    {entries : List ExecutedMigration} (lists : a.Lists s.database entries) :
    ∃ result own s', scope.run h.connection (m.up h.connection) s = (result, s') ∧
      a.Ran h m (a.log s.database) own result ∧ (result = .ok () ↔ ¬ a.fails s.database m.timestamp) ∧
      s'.outside = s.outside ∧ a.Lists s'.database entries ∧
      a.Passes s.database s'.database
        (enclosed h own (if result.isOk then "COMMIT" else "ROLLBACK")) := by
  obtain ⟨d, closed, listed⟩ := lists
  obtain ⟨db, hbegin, passes, opened⟩ := keeps.begin_root root plain idle closed
  generalize hbegun : Scope.afterState scope .active { s with database := db } = begun at hbegin
  have active : begun.stateOf scope.number = .active := by
    rw [← hbegun]
    simp [Scope.afterState]
  have database : begun.database = db := by rw [← hbegun]; rfl
  have outside : begun.outside = s.outside := by rw [← hbegun]; rfl
  have madeBegun : scope.number < begun.scopes := by rw [← hbegun]; exact made
  rw [← database] at opened passes
  have current : (a.store begun.database).current.isSome = true := by rw [opened]; rfl
  obtain ⟨own, within, outcome⟩ := obeys scope begun madeBegun active current
  rw [passes.fails] at outcome
  cases answer : m.up h.connection scope begun with
  | mk result done =>
    rw [answer] at within outcome
    obtain ⟨t, store, rows⟩ := within.rows opened
    obtain ⟨s', hfinish, outside', passes', closed'⟩ :=
      keeps.finish_root root (within.state.trans active) store result
    refine ⟨result, own, s', (Scope.run_ok hbegin answer).trans hfinish,
      ⟨scope, begun, done, active, passes.log, answer, within⟩, outcome, ?_, ⟨_, closed', ?_⟩,
      (passes.trans within.passes).trans passes'⟩
    · rw [outside', within.outside, outside]
    · -- The rows are those of the transaction or those before it, which are the same.
      cases result with
      | ok u => exact (rows ▸ listed : Listed (a.rows t.working) entries)
      | error e => exact listed

/-- The transaction of `m` is committed, or `m` fails and is rolled back. -/
theorem runUp {m : Migration σ} (obeys : a.Obeys h m) {s : Session σ}
    {entries : List ExecutedMigration} (lists : a.Lists s.database entries) :
    ∃ own s', s'.outside = s.outside ∧ a.Lists s'.database entries ∧
      ((¬ a.fails s.database m.timestamp ∧ a.Ran h m (a.log s.database) own (.ok ()) ∧
          a.Passes s.database s'.database (enclosed h own "COMMIT") ∧
          ∃ elapsed : Nat, m.runUp h.connection s = (.ok (elapsed : Int), s')) ∨
        (a.fails s.database m.timestamp ∧ ∃ error,
          a.Ran h m (a.log s.database) own (.error error) ∧
          a.Passes s.database s'.database (enclosed h own "ROLLBACK") ∧
          m.runUp h.connection s = (.error error, s'))) := by
  obtain ⟨scope, fresh, number, root, plain, scopes, database, outside, idle, timed⟩ :=
    runTimed_eq h.connection m.up s
  have made : scope.number < fresh.scopes := by
    rw [number, scopes]
    exact Nat.lt_succ_self _
  rw [← database] at lists
  obtain ⟨result, own, s', hrun, ran, outcome, outside', lists', passes⟩ :=
    keeps.run_root obeys root plain made idle lists
  rw [database] at ran outcome passes
  unfold Migration.runUp
  rw [timed]
  cases result with
  | ok u =>
    refine ⟨own, { s' with uses := s'.uses + 1 }, outside'.trans outside, lists', .inl ?_⟩
    refine ⟨outcome.1 rfl, ran, passes, s'.outside.stopwatch s'.uses - s.outside.stopwatch s.uses, ?_⟩
    rw [bind_ok hrun, stopwatch_apply]
  | error error =>
    refine ⟨own, s', outside'.trans outside, lists', .inr ?_⟩
    refine ⟨?_, error, ran, passes, bind_error hrun⟩
    by_contra sound
    cases outcome.2 sound

end Keeps

/-! ## One migration after another -/

namespace Keeps

variable {e : Executor σ} (keeps : a.Keeps e.history)
  (columns : e.history.table.columns = historyColumns)

include keeps columns

/-- A migration that does not fail is entered in the history before anything else is done. -/
theorem made_entered {m : Migration σ} (obeys : a.Obeys e.history m) {s : Session σ}
    (dated : s.outside.Dated) {entries : List ExecutedMigration} (lists : a.Lists s.database entries)
    (unlisted : m.timestamp ∉ entries.map ExecutedMigration.timestamp)
    (sound : ¬ a.fails s.database m.timestamp) :
    ∃ own s' entries' n elapsed, (m.runUp e.connection >>= fun elapsed =>
        e.history.insert m.timestamp m.name elapsed) s = (.ok (), s') ∧
      s'.outside = s.outside ∧ a.Ran e.history m (a.log s.database) own (.ok ()) ∧
      a.Passes s.database s'.database (enclosed e.history own "COMMIT" ++
        [e.history.insertStatement m.timestamp m.name (s.outside.clock n) (elapsed : Nat)]) ∧
      a.Lists s'.database entries' ∧
      entries'.Perm ((Made.mk m (s.outside.clock n) elapsed).entry :: entries) := by
  obtain ⟨own, committed, outside, lists', outcome⟩ := keeps.runUp obeys lists
  rcases outcome with ⟨_, ran, passes, elapsed, hrun⟩ | ⟨broken, _⟩
  · have clock := dated committed.uses
    rw [← outside] at clock
    obtain ⟨s', entries', hinsert, outside', passes', lists'', perm⟩ :=
      keeps.enter columns clock.1 clock.2 lists' unlisted m.name elapsed
    unfold History.insertNow at passes'
    rw [outside] at passes' perm
    exact ⟨own, s', entries', committed.uses, elapsed, (bind_ok hrun).trans hinsert,
      outside'.trans outside, ran, passes.trans passes', lists'', perm⟩
  · exact absurd broken sound

/-- Migrations that are not listed are made one after another, up to the first one that fails. -/
theorem runUp_attempt {pending : List (Migration σ)} (obeys : ∀ m ∈ pending, a.Obeys e.history m)
    (distinct : (pending.map Migration.timestamp).Nodup) {s : Session σ} (dated : s.outside.Dated)
    {entries : List ExecutedMigration} (lists : a.Lists s.database entries)
    (unlisted : ∀ m ∈ pending, m.timestamp ∉ entries.map ExecutedMigration.timestamp) :
    ∃ result s' made issued entries', e.runUp pending s = (result, s') ∧ s'.outside = s.outside ∧
      a.Attempt e.history (a.fails s.database) (a.log s.database) pending made result issued ∧
      a.Passes s.database s'.database issued ∧ a.Lists s'.database entries' ∧
      entries'.Perm (entries ++ made.map Made.entry) ∧
      ∀ m ∈ made, ∃ n, m.now = s.outside.clock n := by
  induction pending generalizing s entries with
  | nil =>
    refine ⟨.ok [], s, [], [], entries, rfl, rfl, .done _, .refl a _, lists, ?_, by simp⟩
    rw [List.map_nil, List.append_nil]
  | cons m rest ih =>
    obtain ⟨hm, hrest⟩ := List.forall_mem_cons.1 obeys
    obtain ⟨new, distinct⟩ := List.nodup_cons.1 distinct
    obtain ⟨unlistedFirst, unlistedRest⟩ := List.forall_mem_cons.1 unlisted
    -- A migration and its entry are taken as one step, after which the entries are one more.
    have both : e.runUp (m :: rest) s = ((m.runUp e.connection >>= fun elapsed =>
        e.history.insert m.timestamp m.name elapsed) >>= fun _ =>
          e.runUp rest >>= fun timestamps => pure (m.timestamp :: timestamps)) s := by
      rw [bind_assoc]
      rfl
    rw [both]
    by_cases broken : a.fails s.database m.timestamp
    · obtain ⟨own, s', outside, lists', outcome⟩ := keeps.runUp hm lists
      rcases outcome with ⟨sound, _⟩ | ⟨_, error, ran, passes, hrun⟩
      · exact absurd broken sound
      · refine ⟨.error error, s', [], _, entries, bind_error (bind_error hrun), outside,
          .failed broken ran, passes, lists', ?_, by simp⟩
        rw [List.map_nil, List.append_nil]
    · obtain ⟨own, s', entries', n, elapsed, hfirst, outside, ran, passes, lists', perm⟩ :=
        keeps.made_entered columns hm dated lists unlistedFirst broken
      have others : ∀ m' ∈ rest, m'.timestamp ∉ entries'.map ExecutedMigration.timestamp := by
        intro m' hm' listed
        have among := (perm.map ExecutedMigration.timestamp).mem_iff.1 listed
        rcases List.mem_cons.1 among with same | listed
        · exact new (List.mem_map.2 ⟨m', hm', same⟩)
        · exact unlistedRest m' hm' listed
      have datedNext : s'.outside.Dated := by rw [outside]; exact dated
      obtain ⟨result, s'', made, issued, entries'', hothers, outside', attempt, passes', lists'',
        perm', clock⟩ := ih hrest distinct datedNext lists' others
      rw [outside] at clock
      rw [passes.fails, passes.log] at attempt
      refine ⟨result.map (m.timestamp :: ·), s'', ⟨m, s.outside.clock n, elapsed⟩ :: made, _,
        entries'', ?_, outside'.trans outside, .made broken ran attempt, passes.trans passes',
        lists'', ?_, ?_⟩
      · rw [bind_ok hfirst, bind_pure_map, hothers]
      · rw [List.map_cons]
        exact perm'.trans ((perm.append_right _).trans List.perm_middle.symm)
      · exact List.forall_mem_cons.2 ⟨⟨n, rfl⟩, clock⟩

end Keeps

end Archive

end EntityStore
