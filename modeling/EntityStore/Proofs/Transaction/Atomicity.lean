import EntityStore.Proofs.Transaction.Nesting
import Mathlib.Data.List.TakeWhile

/-!
# Atomic blocks

Scopes within scopes, the outermost of which is a transaction of the data source, have the meaning of
nested atomic blocks: what stays in the database is what was made in scopes that all ended with a
result.
-/

namespace EntityStore

variable {σ : Type}

/-! ## The outermost scope -/

/-- Whether `ds` can begin a transaction, and the error if it cannot. -/
def DataSource.begins (ds : DataSource σ) (isolation : Option IsolationLevel) : Except Error Unit :=
  if ds.driver.supportsTransactions = false then .error .transactionUnsupported
  else match isolation with
    | some level =>
      if ds.options.dialect.isolation? level = none ∧ ds.options.strictIsolation = true
      then .error (.unsupportedIsolation level.name) else .ok ()
    | none => .ok ()

/-- The statements that begin a transaction. -/
def opening (d : Dialect) (isolation : Option IsolationLevel) : List Statement :=
  (isolation.bind d.isolation?).toList.map .plain ++ [.plain d.begin]

/-- The statement that ends a transaction. -/
def ending : Except Error Unit → List Statement
  | .ok _ => [.plain "COMMIT"]
  | .error _ => [.plain "ROLLBACK"]

theorem Dialect.isolation?_eq_some {d : Dialect} {level : IsolationLevel} {sql : String}
    (h : d.isolation? level = some sql) : Control.ofText? sql = some .isolation := by
  cases level with
  | readUncommitted =>
    obtain rfl : d.readUncommitted = sql := Option.some.inj h
    exact Control.ofText?_readUncommitted d
  | _ => cases h

theorem replay_opening {γ : Type} (effect : Statement → γ → γ) (d : Dialect)
    (isolation : Option IsolationLevel) (durable : γ) :
    (Store.mk durable none).replay effect (opening d isolation) =
      some ⟨durable, some ⟨durable, []⟩⟩ := by
  have begins : (Store.mk durable none).replay effect [.plain d.begin] =
      some ⟨durable, some ⟨durable, []⟩⟩ := by
    rw [Store.replay_cons, Store.step_control effect (Control.ofText?_begin d)]
    rfl
  unfold opening
  cases h : isolation.bind d.isolation? with
  | none => exact begins
  | some sql =>
    obtain ⟨level, _, hlevel⟩ := Option.bind_eq_some_iff.1 h
    show (Store.mk durable none).replay effect (.plain sql :: [.plain d.begin]) = _
    rw [Store.replay_cons, Store.step_control effect (Dialect.isolation?_eq_some hlevel)]
    exact begins

theorem replay_ending {γ : Type} (effect : Statement → γ → γ) (result : Except Error Unit)
    (durable : γ) (t : OpenTransaction γ) :
    (Store.mk durable (some t)).replay effect (ending result) =
      some ⟨if result.isOk then t.working else durable, none⟩ := by
  cases result with
  | ok _ =>
    rw [ending, Store.replay_cons, Store.step_control effect Control.ofText?_commit]
    rfl
  | error e =>
    rw [ending, Store.replay_cons, Store.step_control effect Control.ofText?_rollback]
    rfl

theorem filter_opening (d : Dialect) (isolation : Option IsolationLevel) :
    (opening d isolation).filter (fun s => s.IsData) = [] := by
  unfold opening
  cases h : isolation.bind d.isolation? with
  | none => simp [Statement.IsData, Statement.plain]
  | some sql =>
    obtain ⟨level, _, hlevel⟩ := Option.bind_eq_some_iff.1 h
    simp [Statement.IsData, Statement.plain, Dialect.isolation?_eq_some hlevel]

theorem filter_ending (result : Except Error Unit) :
    (ending result).filter (fun s => s.IsData) = [] := by
  cases result <;> simp [ending, Statement.IsData, Statement.plain]

namespace Scope

variable {ds : DataSource σ} {log : σ → List Statement} (records : ds.driver.Records log)

include records

theorem applyIsolation_ok (scope : Scope) (s : Session σ)
    (h : ∀ level ∈ scope.isolation, ds.options.dialect.isolation? level = none → scope.strict = false) :
    ∃ db, scope.applyIsolation ds.connection s = (.ok (), { s with database := db }) ∧
      log db = log s.database ++
        (scope.isolation.bind ds.options.dialect.isolation?).toList.map .plain := by
  cases isolation : scope.isolation with
  | none => exact ⟨s.database, applyIsolation_none isolation, by simp⟩
  | some level =>
    cases settable : ds.options.dialect.isolation? level with
    | some sql =>
      obtain ⟨db, hcontrol, hlog⟩ := control_recorded (c := ds.connection) records sql s
      have applied : scope.applyIsolation ds.connection s = control ds.connection sql s :=
        applyIsolation_settable isolation settable
      exact ⟨db, applied.trans hcontrol, by simpa [settable] using hlog⟩
    | none =>
      have lenient : scope.strict = false := h level isolation settable
      refine ⟨s.database, ?_, by simp [settable]⟩
      rw [applyIsolation_unsettable isolation settable, lenient]
      rfl

end Scope

theorem DataSource.begins_eq_ok {ds : DataSource σ} {isolation : Option IsolationLevel}
    (h : ds.begins isolation = .ok ()) : ds.driver.supportsTransactions = true ∧
      ∀ level ∈ isolation, ds.options.dialect.isolation? level = none →
        ds.options.strictIsolation = false := by
  unfold begins at h
  split at h
  · cases h
  · rename_i supported
    refine ⟨by simpa using supported, ?_⟩
    intro level hlevel unknown
    obtain rfl : isolation = some level := hlevel
    by_cases strict : ds.options.strictIsolation = true
    · simp [unknown, strict] at h
    · simpa using strict

namespace Scope

variable {ds : DataSource σ} {isolation : Option IsolationLevel} {s : Session σ} {number : Nat}

/-- The scope of this `number` that is a transaction of its own. -/
def rootOf (ds : DataSource σ) (isolation : Option IsolationLevel) (number : Nat) : Scope :=
  ⟨number, none, isolation, ds.options.strictIsolation⟩

/-- A transaction begins if `ds` can begin one. -/
theorem begin_root_ok {log : σ → List Statement} (records : ds.driver.Records log)
    (begins : ds.begins isolation = .ok ()) (idle : s.stateOf number = .idle) :
    ∃ db, (rootOf ds isolation number).begin ds.connection s =
        (.ok (), afterState (rootOf ds isolation number) .active { s with database := db }) ∧
      log db = log s.database ++ opening ds.options.dialect isolation := by
  obtain ⟨supported, lenient⟩ := DataSource.begins_eq_ok begins
  have supported : ds.connection.driver.supportsTransactions = true := supported
  obtain ⟨isolated, hisolated, hlogIsolated⟩ :=
    applyIsolation_ok records (rootOf ds isolation number) s lenient
  obtain ⟨db, hcontrol, hlog⟩ := control_recorded (c := ds.connection) records
    ds.options.dialect.begin { s with database := isolated }
  refine ⟨db, ?_, ?_⟩
  · have dialect : ds.connection.dialect = ds.options.dialect := rfl
    rw [begin_root_eq supported rfl idle, bind_ok hisolated, dialect, bind_ok hcontrol,
      setState_apply]
  · rw [hlog, opening, ← List.append_assoc]
    exact congrArg (· ++ _) hlogIsolated

/-- A transaction that cannot begin leaves everything as it is. -/
theorem begin_root_error {e : Error} (begins : ds.begins isolation = .error e)
    (idle : s.stateOf number = .idle) :
    (rootOf ds isolation number).begin ds.connection s = (.error e, s) := by
  unfold DataSource.begins at begins
  cases supported : ds.driver.supportsTransactions with
  | false =>
    rw [supported] at begins
    cases begins
    exact begin_unsupported supported
  | true =>
    have supported' : ds.connection.driver.supportsTransactions = true := supported
    rw [supported] at begins
    rw [begin_root_eq supported' rfl idle]
    cases isolation with
    | none => cases begins
    | some level =>
      refine bind_error ?_
      simp only [Bool.true_eq_false, if_false] at begins
      split at begins
      · rename_i unset
        cases begins
        have strict : (rootOf ds (some level) number).strict = true := unset.2
        rw [applyIsolation_unsettable rfl unset.1, if_pos strict]
      · cases begins

/-- A transaction that has begun is ended according to the `result`. -/
theorem finish_root {log : σ → List Statement} (records : ds.driver.Records log)
    (active : s.stateOf number = .active) (result : Except Error Unit) :
    ∃ db state, (rootOf ds isolation number).finish ds.connection result s =
        (result, afterState (rootOf ds isolation number) state { s with database := db }) ∧
      log db = log s.database ++ ending result := by
  cases result with
  | ok u =>
    obtain ⟨db, hcontrol, hlog⟩ := control_recorded (c := ds.connection) records "COMMIT" s
    refine ⟨db, .committed, finish_ok ?_, hlog⟩
    rw [commit_root_eq rfl active, bind_ok hcontrol, setState_apply]
  | error e =>
    obtain ⟨db, hcontrol, hlog⟩ := control_recorded (c := ds.connection) records "ROLLBACK" s
    refine ⟨db, .rolledBack, ?_, hlog⟩
    have rollback : (rootOf ds isolation number).rollback ds.connection s =
        (.ok (), afterState (rootOf ds isolation number) .rolledBack { s with database := db }) := by
      rw [rollback_root_eq rfl active, bind_ok hcontrol, setState_apply]
    rw [finish_error, rollback]

end Scope

/-! ## The whole transaction -/

/-- What is left behind by a transaction: the statements `stream` that it wrote, those of them that
control no transaction, and what all of them make of a database in which no transaction is open. -/
structure Leaves (log : σ → List Statement) (s s' : Session σ) (stream : List Statement)
    (made : List (Statement × Bool)) : Prop where
  /-- The statements are all that is new in the database. -/
  written : log s'.database = log s.database ++ stream
  /-- Those that control no transaction. -/
  data : (stream.filter fun st => st.IsData) = made.map Prod.fst
  /-- All of them are allowed where they come, and what stays is kept. -/
  replays : ∀ (γ : Type) (effect : Statement → γ → γ) (durable : γ),
    (Store.mk durable none).replay effect stream =
      some ⟨Store.changed effect durable (Callback.kept made), none⟩
  /-- No scope is tracked any more. -/
  depth : DataSource.depth s' = (.ok 0, s')

theorem Leaves.of_passage {log : σ → List Statement} {d : Dialect}
    {isolation : Option IsolationLevel} {s begun done ended : Session σ}
    {stream : List Statement} {made : List (Statement × Bool)} {result : Except Error Unit}
    (begins : log begun.database = log s.database ++ opening d isolation)
    (inner : Passage log begun done stream made)
    (ends : log ended.database = log done.database ++ ending result)
    (untracked : ended.openScopes = []) :
    Leaves log s ended (opening d isolation ++ stream ++ ending result)
      (Callback.within result made) where
  written := by
    rw [ends, inner.written, begins, List.append_assoc, List.append_assoc, List.append_assoc]
  data := by
    rw [List.filter_append, List.filter_append, filter_opening, filter_ending, inner.data]
    simp
  replays := by
    intro γ effect durable
    rw [Store.replay_append, Store.replay_append, replay_opening, Option.bind_some, inner.replays,
      Option.bind_some, replay_ending]
    cases result with
    | ok u => simp [Except.isOk, Except.toBool]
    | error e => simp [Except.isOk, Except.toBool, Store.changed]
  depth := by
    show ((.ok ended.openScopes.length, ended) : Except Error Nat × Session σ) = _
    rw [untracked]
    rfl

/-- Where no tracked scope is active, all of them are forgotten. -/
theorem dropEnded_inactive {s : Session σ}
    (inactive : ∀ scope ∈ s.openScopes, s.stateOf scope.number ≠ .active) :
    DataSource.dropEnded s = (.ok (), { s with openScopes := [] }) := by
  show ((.ok (), { s with openScopes := s.trimmed.openScopes }) : Except Error Unit × Session σ) = _
  rw [Session.trimmed_eq_nil.2 inactive]

/-- The session `s` in which only a transaction is tracked, which has begun. -/
def Session.rooted (ds : DataSource σ) (isolation : Option IsolationLevel) (s : Session σ) (db : σ) :
    Session σ :=
  { Scope.afterState (Scope.rootOf ds isolation s.scopes) .active
      { Scope.afterMake s with database := db } with
    openScopes := [Scope.rootOf ds isolation s.scopes] }

theorem Session.Tracking.rooted (ds : DataSource σ) (isolation : Option IsolationLevel)
    (s : Session σ) (db : σ) : (s.rooted ds isolation db).Tracking where
  nonempty := List.cons_ne_nil _ _
  made := by
    intro scope hscope
    obtain rfl := List.mem_singleton.1 hscope
    exact Nat.lt_succ_self s.scopes
  active := by
    intro scope hscope
    obtain rfl := List.mem_singleton.1 hscope
    simp [Session.rooted, Scope.afterState]

/-- The transaction of a session that tracks no active scope, and the scopes within it, are nested
atomic blocks: if it can begin at all, then there are statements that happen in the callback, and
those of them that stay are the changes that the database keeps. -/
theorem DataSource.transaction_atomic {ds : DataSource σ} {log : σ → List Statement}
    (records : ds.driver.Records log) (isolation : Option IsolationLevel)
    (body : Callback Statement.IsData Opening) (s : Session σ)
    (inactive : ∀ scope ∈ s.openScopes, s.stateOf scope.number ≠ .active) :
    ∃ result s' stream made,
      ds.transaction isolation (fun _ => body.run ds.connection (Opening.enter ds)) s = (result, s') ∧
      (match ds.begins isolation with
        | .ok _ => body.Happens result made
        | .error e => result = .error e ∧ made = []) ∧
      Leaves log s s' stream (Callback.within result made) := by
  have dropped := dropEnded_inactive inactive
  have fresh : ({ s with openScopes := [] } : Session σ).openScopes = [] := rfl
  have hmake : ds.makeScope isolation { s with openScopes := [] } =
      (.ok (Scope.rootOf ds isolation s.scopes), Scope.afterMake { s with openScopes := [] }) :=
    Scope.make_apply _ _ _ _
  have idle : (Scope.afterMake { s with openScopes := [] }).stateOf s.scopes = .idle := by
    simp [Scope.afterMake]
  cases begins : ds.begins isolation with
  | error e =>
    have hbegin : ds.begin isolation s =
        (.error e, Scope.afterMake { s with openScopes := [] }) := by
      rw [begin_root dropped fresh, bind_ok hmake,
        beginTracked_error (Scope.begin_root_error begins idle)]
    refine ⟨.error e, _, [], [], transaction_error hbegin, ⟨rfl, rfl⟩, ?_⟩
    exact
      { written := by simp [Scope.afterMake]
        data := rfl
        replays := fun _ _ _ => rfl
        depth := rfl }
  | ok u =>
    obtain ⟨supported, -⟩ := begins_eq_ok begins
    obtain ⟨db, hscope, hlog⟩ := Scope.begin_root_ok records begins idle
    have hbegin : ds.begin isolation s =
        (.ok (Scope.rootOf ds isolation s.scopes), s.rooted ds isolation db) := by
      rw [begin_root dropped fresh, bind_ok hmake, beginTracked_ok hscope]
      rfl
    obtain ⟨result, made, stream, done, hrun, happens, passage, tracked⟩ :=
      body.passes records supported _ (Session.Tracking.rooted ds isolation s db)
    have active : done.stateOf s.scopes = .active := by
      rw [passage.states s.scopes (Nat.lt_succ_self _)]
      simp [Session.rooted, Scope.afterState, Scope.rootOf]
    obtain ⟨db', state, hfinish, hlogEnd⟩ :=
      Scope.finish_root (s := done) records active result
    have hlogBegin : log (s.rooted ds isolation db).database =
        log s.database ++ opening ds.options.dialect isolation := hlog
    refine ⟨result, _, _, made, transaction_ok hbegin hrun hfinish, happens,
      Leaves.of_passage hlogBegin passage hlogEnd ?_⟩
    show done.openScopes.drop 1 = []
    rw [tracked]
    rfl

/-- A data source whose database is the list of the statements that it was given. -/
def tape : DataSource (List Statement) where
  driver :=
    { all := fun s db => (.ok (.bare []), db ++ [s])
      run := fun s db => (.ok {}, db ++ [s]) }
  registry := .empty
  options := {}

/-- A callback that goes on after a scope within it has failed. -/
def catching : Callback Statement.IsData Opening :=
  .execute (.plain "INSERT INTO a DEFAULT VALUES") (by decide) fun _ =>
    .scope .manager
      (.execute (.plain "INSERT INTO b DEFAULT VALUES") (by decide) fun _ =>
        .ends (.error .transactionInactive))
      fun _ => .ends (.ok ())

/-- The session before any statement. -/
def blank : Session (List Statement) where
  database := []
  outside := ⟨fun _ => 0, fun _ => .epoch, fun _ => 0⟩

theorem catching_atomic :
    tape.driver.Records (fun db => db) ∧
    (∀ scope ∈ blank.openScopes, blank.stateOf scope.number ≠ .active) ∧
    ∃ result s' stream made,
      tape.transaction none (fun _ => catching.run tape.connection (Opening.enter tape)) blank =
        (result, s') ∧
      (match tape.begins none with
        | .ok _ => catching.Happens result made
        | .error e => result = .error e ∧ made = []) ∧
      Leaves (fun db => db) blank s' stream (Callback.within result made) := by
  have records : tape.driver.Records fun db => db :=
    { run := fun _ _ => ⟨_, _, rfl, rfl⟩
      all := fun _ _ => ⟨_, _, rfl, rfl⟩
      exec := nofun }
  have inactive : ∀ scope ∈ blank.openScopes, blank.stateOf scope.number ≠ .active := by
    intro scope hscope
    cases hscope
  exact ⟨records, inactive, DataSource.transaction_atomic records none catching blank inactive⟩

example :
    (tape.transaction none (fun _ => catching.run tape.connection (Opening.enter tape))
      blank).2.database.map Statement.sql =
        ["BEGIN TRANSACTION", "INSERT INTO a DEFAULT VALUES", "SAVEPOINT sp_0_000000",
          "INSERT INTO b DEFAULT VALUES", "ROLLBACK TO SAVEPOINT sp_0_000000",
          "RELEASE SAVEPOINT sp_0_000000", "COMMIT"] := by
  decide +kernel

end EntityStore
