import EntityStore.DataSource
import EntityStore.Proofs.Result
import Mathlib.Data.List.TakeWhile
import Mathlib.Tactic.Common

/-!
# Steps of a session

What the steps from which scopes are put together do to a session, as equations of functions from
sessions to results and sessions.
-/

namespace EntityStore

variable {σ α β : Type}

namespace SessionM

theorem outcome_bind (x : SessionM σ α) (f : Except Error α → SessionM σ β) (s : Session σ) :
    (x.outcome >>= f) s = f (x s).1 (x s).2 := rfl

theorem ofExcept_apply (result : Except Error α) (s : Session σ) :
    (MonadExcept.ofExcept result : SessionM σ α) s = (result, s) := by
  cases result <;> rfl

theorem atDatabase_apply (x : DatabaseM σ α) (s : Session σ) :
    atDatabase x s = ((x s.database).1, { s with database := (x s.database).2 }) := rfl

end SessionM

namespace Driver

variable {d : Driver σ}

theorem exec_own {own : String → DatabaseM σ Unit} (hown : d.ownExec = some own) (sql : String) :
    d.exec sql = own sql := by
  unfold exec
  rw [hown]

theorem exec_run (plain : d.ownExec = none) (sql : String) (db : σ) :
    d.exec sql db = ((d.run (.plain sql) db).1.map fun _ => (), (d.run (.plain sql) db).2) := by
  unfold exec
  rw [plain]
  exact bind_pure_map db

/-- What holds of a statement that is run, and of a driver's `ownExec`, holds of `exec`. -/
theorem exec_of {sql : String} {db : σ} {P : Except Error Unit × σ → Prop}
    (run : P ((d.run (.plain sql) db).1.map fun _ => (), (d.run (.plain sql) db).2))
    (exec : ∀ own ∈ d.ownExec, P (own sql db)) : P (d.exec sql db) := by
  cases hown : d.ownExec with
  | none =>
    rw [exec_run hown]
    exact run
  | some own =>
    rw [exec_own hown]
    exact exec own hown

end Driver

namespace Connection

variable (c : Connection σ) (st : Statement) (s : Session σ)

theorem execute_apply : SessionM.atDatabase (c.execute st.sql st.params) s =
    ((c.driver.run st s.database).1, { s with database := (c.driver.run st s.database).2 }) := rfl

theorem query_apply : SessionM.atDatabase (c.query st.sql st.params) s =
    ((c.driver.all st s.database).1.map Rows.toList,
      { s with database := (c.driver.all st s.database).2 }) := by
  have query : c.query st.sql st.params s.database =
      ((c.driver.all st s.database).1.map Rows.toList, (c.driver.all st s.database).2) :=
    bind_pure_map s.database
  rw [SessionM.atDatabase_apply, query]

end Connection

namespace Scope

theorem control_apply (c : Connection σ) (sql : String) (s : Session σ) :
    control c sql s =
      ((c.driver.exec sql s.database).1, { s with database := (c.driver.exec sql s.database).2 }) :=
  rfl

def afterMake (s : Session σ) : Session σ :=
  { s with
    scopes := s.scopes + 1
    stateOf := fun number => if number = s.scopes then .idle else s.stateOf number }

theorem make_apply (savepoint : Option String) (isolation : Option IsolationLevel) (strict : Bool)
    (s : Session σ) :
    make savepoint isolation strict s = (.ok ⟨s.scopes, savepoint, isolation, strict⟩, afterMake s) :=
  rfl

/-- The name of the savepoint of the next nested scope. -/
def nextName (s : Session σ) : String := Savepoint.name s.savepoints (s.outside.random s.uses)

theorem nested_apply (s : Session σ) :
    nested s = (.ok ⟨s.scopes, some (nextName s), none, false⟩,
      afterMake { s with uses := s.uses + 1, savepoints := s.savepoints + 1 }) := rfl

def afterState (scope : Scope) (state : ScopeState) (s : Session σ) : Session σ :=
  { s with
    stateOf := fun number => if number = scope.number then state else s.stateOf number }

theorem setState_apply (scope : Scope) (state : ScopeState) (s : Session σ) :
    scope.setState state s = (.ok (), afterState scope state s) := rfl

theorem require_ok {scope : Scope} {expected : ScopeState} {s : Session σ}
    (h : s.stateOf scope.number = expected) : scope.require expected s = (.ok (), s) := by
  show (if s.stateOf scope.number ≠ expected then _ else _ : SessionM σ Unit) s = _
  rw [if_neg (not_not.2 h)]
  rfl

section

variable {scope : Scope} {c : Connection σ} {name : String} {s : Session σ}

theorem applyIsolation_none (isolation : scope.isolation = none) :
    scope.applyIsolation c s = (.ok (), s) := by
  simp only [applyIsolation, isolation]
  rfl

theorem applyIsolation_settable {level : IsolationLevel} {sql : String}
    (isolation : scope.isolation = some level) (settable : c.dialect.isolation? level = some sql) :
    scope.applyIsolation c s = control c sql s := by
  simp only [applyIsolation, isolation, settable]

theorem applyIsolation_unsettable {level : IsolationLevel} (isolation : scope.isolation = some level)
    (unsettable : c.dialect.isolation? level = none) :
    scope.applyIsolation c s =
      (if scope.strict then .error (.unsupportedIsolation level.name) else .ok (), s) := by
  simp only [applyIsolation, isolation, unsettable]
  split <;> rfl

theorem begin_unsupported (unsupported : c.driver.supportsTransactions = false) :
    scope.begin c s = (.error .transactionUnsupported, s) := by
  unfold begin
  rw [unsupported]
  rfl

/-- A scope begins only where the driver has transactions. -/
theorem supported_of_begin {s' : Session σ} (begins : scope.begin c s = (.ok (), s')) :
    c.driver.supportsTransactions = true := by
  cases supported : c.driver.supportsTransactions with
  | true => rfl
  | false =>
    rw [begin_unsupported supported] at begins
    cases begins

theorem begin_nested_eq (supported : c.driver.supportsTransactions = true)
    (nested : scope.savepoint = some name) (idle : s.stateOf scope.number = .idle) :
    scope.begin c s = (control c ("SAVEPOINT " ++ name) >>= fun _ => scope.setState .active) s := by
  unfold begin
  rw [supported, nested]
  exact bind_ok (require_ok idle)

theorem begin_root_eq (supported : c.driver.supportsTransactions = true)
    (root : scope.savepoint = none) (idle : s.stateOf scope.number = .idle) :
    scope.begin c s = (scope.applyIsolation c >>= fun _ => control c c.dialect.begin >>= fun _ =>
      scope.setState .active) s := by
  unfold begin
  rw [supported, root]
  exact bind_ok (require_ok idle)

theorem commit_nested_eq (nested : scope.savepoint = some name)
    (active : s.stateOf scope.number = .active) : scope.commit c s =
      (control c ("RELEASE SAVEPOINT " ++ name) >>= fun _ => scope.setState .committed) s := by
  unfold commit
  rw [nested]
  exact bind_ok (require_ok active)

theorem commit_root_eq (root : scope.savepoint = none) (active : s.stateOf scope.number = .active) :
    scope.commit c s = (control c "COMMIT" >>= fun _ => scope.setState .committed) s := by
  unfold commit
  rw [root]
  exact bind_ok (require_ok active)

theorem rollback_nested_eq (nested : scope.savepoint = some name)
    (active : s.stateOf scope.number = .active) : scope.rollback c s =
      (control c ("ROLLBACK TO SAVEPOINT " ++ name) >>= fun _ => scope.setState .rolledBack >>=
        fun _ => control c ("RELEASE SAVEPOINT " ++ name)) s := by
  unfold rollback
  rw [nested]
  exact bind_ok (require_ok active)

theorem rollback_root_eq (root : scope.savepoint = none)
    (active : s.stateOf scope.number = .active) :
    scope.rollback c s = (control c "ROLLBACK" >>= fun _ => scope.setState .rolledBack) s := by
  unfold rollback
  rw [root]
  exact bind_ok (require_ok active)

end

/-- A scope in which all went well ends as its changes are kept. -/
theorem finish_ok {scope : Scope} {c : Connection σ} {a : α} {s s' : Session σ}
    (h : scope.commit c s = (.ok (), s')) : scope.finish c (.ok a) s = (.ok a, s') := by
  show (scope.commit c >>= fun _ => pure a) s = _
  rw [bind_ok h]
  rfl

/-- If the changes cannot be kept, that is the result. -/
theorem finish_unkept {scope : Scope} {c : Connection σ} {a : α} {s s' : Session σ} {e : Error}
    (h : scope.commit c s = (.error e, s')) : scope.finish c (.ok a) s = (.error e, s') := by
  show (scope.commit c >>= fun _ => pure a) s = _
  rw [bind_error h]

theorem run_ok {scope : Scope} {c : Connection σ} {body : Scope → SessionM σ α}
    {s begun done : Session σ} {result : Except Error α} (hbegin : scope.begin c s = (.ok (), begun))
    (hrun : body scope begun = (result, done)) :
    scope.run c body s = scope.finish c result done := by
  unfold run
  rw [bind_ok hbegin, SessionM.outcome_bind, hrun]

theorem run_error {scope : Scope} {c : Connection σ} {body : Scope → SessionM σ α}
    {s s' : Session σ} {e : Error} (hbegin : scope.begin c s = (.error e, s')) :
    scope.run c body s = (.error e, s') := by
  unfold run
  rw [bind_error hbegin]

/-- The error of what was done is handed on, whether or not its changes are undone. -/
theorem finish_error (scope : Scope) (c : Connection σ) (e : Error) (s : Session σ) :
    scope.finish c (.error e : Except Error α) s = (.error e, (scope.rollback c s).2) := rfl

end Scope

/-- The session in which the scopes that have ended are no longer tracked, down to the innermost
active one. -/
def Session.trimmed (s : Session σ) : Session σ :=
  { s with openScopes := s.openScopes.dropWhile fun scope => s.stateOf scope.number != .active }

theorem Session.trimmed_eq_nil {s : Session σ} : s.trimmed.openScopes = [] ↔
    ∀ scope ∈ s.openScopes, s.stateOf scope.number ≠ .active := by
  show s.openScopes.dropWhile _ = [] ↔ _
  rw [List.dropWhile_eq_nil_iff]
  simp

/-- An active scope that is tracked stays so. -/
theorem Session.mem_trimmed {s : Session σ} {scope : Scope} (tracked : scope ∈ s.openScopes)
    (active : s.stateOf scope.number = .active) : scope ∈ s.trimmed.openScopes := by
  rw [← List.takeWhile_append_dropWhile (p := fun o : Scope => s.stateOf o.number != .active)
    (l := s.openScopes), List.mem_append] at tracked
  rcases tracked with ended | kept
  · have inactive := List.mem_takeWhile_imp ended
    simp [active] at inactive
  · exact kept

namespace DataSource

variable (ds : DataSource σ) (isolation : Option IsolationLevel)

/-- Begin `scope`, and keep track of it. -/
def beginTracked (scope : Scope) : SessionM σ Scope := do
  scope.begin ds.connection
  modify fun session => { session with openScopes := scope :: session.openScopes }
  return scope

variable {ds isolation} {s s' : Session σ}

theorem dropEnded_trims (s : Session σ) : dropEnded s = (.ok (), s.trimmed) := rfl

theorem begin_root (h : dropEnded s = (.ok (), s')) (untracked : s'.openScopes = []) :
    ds.begin isolation s = (ds.makeScope isolation >>= ds.beginTracked) s' := by
  have session : (get : SessionM σ (Session σ)) s' = (.ok s', s') := rfl
  unfold begin
  rw [bind_ok h, bind_ok session]
  simp only [untracked]
  rfl

theorem begin_within (h : dropEnded s = (.ok (), s')) (tracked : s'.openScopes ≠ []) :
    ds.begin isolation s = (Scope.nested >>= ds.beginTracked) s' := by
  have session : (get : SessionM σ (Session σ)) s' = (.ok s', s') := rfl
  unfold begin
  rw [bind_ok h, bind_ok session]
  cases scopes : s'.openScopes with
  | nil => exact absurd scopes tracked
  | cons scope rest =>
    rfl

theorem beginTracked_ok {scope : Scope} (h : scope.begin ds.connection s = (.ok (), s')) :
    ds.beginTracked scope s = (.ok scope, { s' with openScopes := scope :: s'.openScopes }) := by
  unfold beginTracked
  rw [bind_ok h]
  rfl

theorem beginTracked_error {scope : Scope} {e : Error}
    (h : scope.begin ds.connection s = (.error e, s')) :
    ds.beginTracked scope s = (.error e, s') := by
  unfold beginTracked
  rw [bind_error h]

/-- After a scope was ended, the data source no longer tracks it. -/
theorem transaction_ok {body : Scope → SessionM σ Unit} {begun done ended : Session σ}
    {scope : Scope} {result result' : Except Error Unit}
    (hbegin : ds.begin isolation s = (.ok scope, begun)) (hrun : body scope begun = (result, done))
    (hfinish : scope.finish ds.connection result done = (result', ended)) :
    ds.transaction isolation body s =
      (result', { ended with openScopes := ended.openScopes.drop 1 }) := by
  unfold transaction
  rw [bind_ok hbegin, SessionM.outcome_bind, hrun, SessionM.outcome_bind, hfinish]
  exact SessionM.ofExcept_apply result' _

theorem transaction_error {body : Scope → SessionM σ Unit} {e : Error}
    (hbegin : ds.begin isolation s = (.error e, s')) :
    ds.transaction isolation body s = (.error e, s') := by
  unfold transaction
  rw [bind_error hbegin]

end DataSource

end EntityStore
