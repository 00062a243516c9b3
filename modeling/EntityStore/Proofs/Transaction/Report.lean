import EntityStore.Migration
import EntityStore.Proofs.Transaction.Program

/-!
# What a structured scope reports

There are three ways to do something between the beginning and the end of a scope: in a scope within
another one, in a scope of a data source, and in the transaction of a migration. In each of them the
scope is ended once, as the result of what was done in it says, and the result that is handed on is
true of both. What is done in the scope may be anything, the ending of that very scope included.
-/

namespace EntityStore

variable {σ α : Type}

/-- A way to do something between the beginning and the end of a scope. -/
inductive Way (σ : Type) : Type → Type 1 where
  /-- In a scope within another one. -/
  | nested {α : Type} (c : Connection σ) : Way σ α
  /-- In a scope of a data source. -/
  | dataSource {α : Type} (ds : DataSource σ) (isolation : Option IsolationLevel) : Way σ α
  /-- In the transaction of a migration, of whose result the time that it took is left out. -/
  | migration (c : Connection σ) : Way σ Unit

namespace Way

/-- Where the statements are made. -/
def connection : Way σ α → Connection σ
  | nested c | migration c => c
  | dataSource ds _ => ds.connection

/-- Begin the scope that is `made`. -/
def opened (made : SessionM σ Scope) (c : Connection σ) : SessionM σ Scope := do
  let scope ← made
  scope.begin c
  return scope

/-- What comes before the body: a scope is begun. -/
def opening : Way σ α → SessionM σ Scope
  | nested c => opened Scope.nested c
  | dataSource ds isolation => ds.begin isolation
  | migration c => do
    let _ ← SessionM.stopwatch
    opened (Scope.root none false) c

/-- The whole, with the body in the scope. -/
def enter : Way σ α → (Scope → SessionM σ α) → SessionM σ α
  | nested c, body => Scope.transaction c body
  | dataSource ds isolation, body => ds.transaction isolation body
  | migration c, body => do
    let _ ← runTimed c fun _ => body

/-- What is done around the end of the scope. -/
def closing : Way σ α → SessionM σ α → SessionM σ α
  | nested _, finish => finish
  | dataSource _ _, finish => do
    let ended ← finish.outcome
    modify fun session => { session with openScopes := session.openScopes.drop 1 }
    MonadExcept.ofExcept ended
  | migration _, finish => do
    finish
    let _ ← SessionM.stopwatch

theorem enter_eq (way : Way σ α) (body : Scope → SessionM σ α) :
    way.enter body = (way.opening >>= fun scope => (body scope).outcome >>= fun result =>
      way.closing (scope.finish way.connection result)) := by
  cases way with
  | nested c => simp [enter, opening, opened, closing, connection, Scope.transaction, Scope.run]
  | dataSource ds isolation => rfl
  | migration c =>
    simp [enter, opening, opened, closing, connection, runTimed, Scope.run]

/-- What `closing` does around the end of the scope changes neither the result nor the database, nor
how far the scopes got. -/
theorem closing_apply (way : Way σ α) (finish : SessionM σ α) (s : Session σ) :
    (way.closing finish s).1 = (finish s).1 ∧
      (way.closing finish s).2.database = (finish s).2.database ∧
      (way.closing finish s).2.stateOf = (finish s).2.stateOf := by
  cases way with
  | nested c => exact ⟨rfl, rfl, rfl⟩
  | dataSource ds isolation =>
    have closed : (dataSource ds isolation).closing finish s =
        ((finish s).1, { (finish s).2 with openScopes := (finish s).2.openScopes.drop 1 }) :=
      SessionM.ofExcept_apply _ _
    rw [closed]
    exact ⟨rfl, rfl, rfl⟩
  | migration c =>
    cases answer : finish s with
    | mk result s' =>
      cases result with
      | ok u =>
        have closed : (migration c).closing finish s =
            (.ok (), { s' with uses := s'.uses + 1 }) := bind_ok answer
        rw [closed]
        exact ⟨rfl, rfl, rfl⟩
      | error e =>
        have closed : (migration c).closing finish s = (.error e, s') := bind_error answer
        rw [closed]
        exact ⟨rfl, rfl, rfl⟩

theorem enter_unbegun {way : Way σ α} {s s' : Session σ} {e : Error}
    (unbegun : way.opening s = (.error e, s')) (body : Scope → SessionM σ α) :
    way.enter body s = (.error e, s') := by
  rw [enter_eq, bind_error unbegun]

theorem enter_begun {way : Way σ α} {s begun done : Session σ} {scope : Scope}
    {body : Scope → SessionM σ α} {result : Except Error α}
    (begins : way.opening s = (.ok scope, begun)) (ran : body scope begun = (result, done)) :
    way.enter body s = way.closing (scope.finish way.connection result) done := by
  rw [enter_eq, bind_ok begins, SessionM.outcome_bind, ran]

/-! ## A scope that was begun -/

theorem supported_of_opened {c : Connection σ} {made : SessionM σ Scope} {scope : Scope}
    {s s' : Session σ} (begins : opened made c s = (.ok scope, s')) :
    c.driver.supportsTransactions = true := by
  obtain ⟨scope, s₁, -, begins⟩ := exists_of_bind_ok begins
  obtain ⟨u, s₂, begins, -⟩ := exists_of_bind_ok begins
  exact Scope.supported_of_begin begins

/-- A scope is begun only where the driver has transactions. -/
theorem supported_of_opening {way : Way σ α} {scope : Scope} {s s' : Session σ}
    (begins : way.opening s = (.ok scope, s')) :
    way.connection.driver.supportsTransactions = true := by
  cases way with
  | nested c => exact supported_of_opened begins
  | dataSource ds isolation =>
    have tracked : ∃ made : SessionM σ Scope, (made >>= ds.beginTracked) s.trimmed =
        (.ok scope, s') := by
      have begins : ds.begin isolation s = (.ok scope, s') := begins
      by_cases untracked : s.trimmed.openScopes = []
      · rw [DataSource.begin_root (DataSource.dropEnded_trims s) untracked] at begins
        exact ⟨_, begins⟩
      · rw [DataSource.begin_within (DataSource.dropEnded_trims s) untracked] at begins
        exact ⟨_, begins⟩
    obtain ⟨made, begins⟩ := tracked
    obtain ⟨scope, s₁, -, begins⟩ := exists_of_bind_ok begins
    obtain ⟨u, s₂, begins, -⟩ := exists_of_bind_ok begins
    exact Scope.supported_of_begin begins
  | migration c =>
    obtain ⟨started, s₁, -, begins⟩ := exists_of_bind_ok begins
    exact supported_of_opened begins

end Way

/-! ## The end of the scope -/

namespace Scope

/-- From `done` to `ended`, `scope` took one turn, and nothing else was written to the log. -/
structure EndsBy (scope : Scope) (c : Connection σ) (log : σ → List (Statement × Bool)) (call : Call)
    (done ended : Session σ) : Prop where
  outcome : Outcome scope c (scope.turn c log call done)
  written : log ended.database = log done.database ++ (scope.turn c log call done).made
  after : ended.stateOf scope.number = (scope.turn c log call done).after

end Scope

/-- What a structured scope does and reports. -/
structure Way.Truthful (way : Way σ α) (log : σ → List (Statement × Bool)) (s : Session σ)
    (body : Scope → SessionM σ α) : Prop where
  /-- Where no scope begins, the result is that, whatever would have been done in it. -/
  unbegun : ∀ e s', way.opening s = (.error e, s') → ∀ other, way.enter other s = (.error e, s')
  /-- After the body, the scope is ended by one call. -/
  ends : ∀ scope begun result done, way.opening s = (.ok scope, begun) →
    body scope begun = (result, done) →
    scope.EndsBy way.connection log (.closing result.isOk) done (way.enter body s).2
  kept_iff : ∀ a, (way.enter body s).1 = .ok a ↔ ∃ scope begun done,
    way.opening s = (.ok scope, begun) ∧ body scope begun = (.ok a, done) ∧
      (scope.commit way.connection done).1 = .ok ()
  /-- The error of the body is the result, whether or not its changes are undone. -/
  failed : ∀ scope begun e done, way.opening s = (.ok scope, begun) →
    body scope begun = (.error e, done) → (way.enter body s).1 = .error e
  /-- The error for which the changes are not kept is the result. -/
  unkept : ∀ scope begun a done e, way.opening s = (.ok scope, begun) →
    body scope begun = (.ok a, done) → (scope.commit way.connection done).1 = .error e →
    (way.enter body s).1 = .error e

/-- Whatever is done in a scope and whichever statements fail, the scope is ended at most once, and
the result tells how it went. -/
theorem Way.enter_truthful (way : Way σ α) {log : σ → List (Statement × Bool)}
    (logs : way.connection.driver.Logs log) (s : Session σ) (body : Scope → SessionM σ α) :
    way.Truthful log s body := by
  have failed : ∀ scope begun e done, way.opening s = (.ok scope, begun) →
      body scope begun = (.error e, done) → (way.enter body s).1 = .error e := by
    intro scope begun e done begins ran
    rw [enter_begun begins ran, (way.closing_apply _ done).1, Scope.finish_error]
  have unkept : ∀ scope begun a done e, way.opening s = (.ok scope, begun) →
      body scope begun = (.ok a, done) → (scope.commit way.connection done).1 = .error e →
      (way.enter body s).1 = .error e := by
    intro scope begun a done e begins ran committed
    rw [enter_begun begins ran, (way.closing_apply _ done).1,
      Scope.finish_unkept (Prod.ext committed rfl)]
  have kept : ∀ scope begun a done, way.opening s = (.ok scope, begun) →
      body scope begun = (.ok a, done) → (scope.commit way.connection done).1 = .ok () →
      (way.enter body s).1 = .ok a := by
    intro scope begun a done begins ran committed
    rw [enter_begun begins ran, (way.closing_apply _ done).1,
      Scope.finish_ok (Prod.ext committed rfl)]
  refine ⟨fun e s' unbegun => enter_unbegun unbegun, ?ends, ?kept_iff, failed, unkept⟩
  case ends =>
    intro scope begun result done begins ran
    have seen : scope.Seen way.connection log (.closing result.isOk) done
        (scope.turn way.connection log (.closing result.isOk) done) :=
      Scope.seen logs _ fun _ => supported_of_opening begins
    obtain ⟨-, database, states⟩ := way.closing_apply (scope.finish way.connection result) done
    rw [enter_begun begins ran]
    refine ⟨seen.outcome, ?_, ?_⟩
    · rw [database, Scope.finish_session, seen.written]
    · rw [states, Scope.finish_session]
      rfl
  case kept_iff =>
    intro a
    constructor
    · intro ok
      cases begins : way.opening s with
      | mk opened begun =>
        cases opened with
        | error e =>
          rw [enter_unbegun begins] at ok
          cases ok
        | ok scope =>
          cases ran : body scope begun with
          | mk result done =>
            cases result with
            | error e =>
              rw [failed scope begun e done begins ran] at ok
              cases ok
            | ok b =>
              cases committed : (scope.commit way.connection done).1 with
              | error e =>
                rw [unkept scope begun b done e begins ran committed] at ok
                cases ok
              | ok u =>
                rw [kept scope begun b done begins ran committed] at ok
                cases ok
                exact ⟨scope, begun, done, rfl, ran, committed⟩
    · rintro ⟨scope, begun, done, begins, ran, committed⟩
      exact kept scope begun a done begins ran committed

/-! ## A body that ends its own scope -/

namespace Meddling

/-- A database that refuses to release savepoints. -/
def driver : Driver (Unit × List (Statement × Bool)) := Driver.withLog
  { all := fun _ db => (.ok (.bare []), db)
    run := fun st db =>
      if "RELEASE".isPrefixOf st.sql then (.error (.database "refused"), db) else (.ok {}, db) }

def connection : Connection (Unit × List (Statement × Bool)) := ⟨driver, .sqlite⟩

def fresh : Session (Unit × List (Statement × Bool)) where
  database := ((), [])
  outside := ⟨fun _ => 0, fun _ => .epoch, fun _ => 0⟩

/-- The changes are undone, and then all is well. -/
def undoing (scope : Scope) : SessionM (Unit × List (Statement × Bool)) Nat := do
  let _ ← (scope.rollback connection).outcome
  return 7

theorem undoing_truthful :
    (Way.nested (α := Nat) connection).connection.driver.Logs Prod.snd ∧
      (Way.nested connection).Truthful Prod.snd fresh undoing := by
  have logs : (Way.nested (α := Nat) connection).connection.driver.Logs Prod.snd :=
    Driver.withLog_logs _
  exact ⟨logs, Way.enter_truthful (.nested connection) logs fresh undoing⟩

/-- The scope is ended already, so that its changes cannot be kept: no statement is made. -/
example :
    (Scope.transaction connection undoing fresh).1 = .error .transactionInactive ∧
      ((Scope.transaction connection undoing fresh).2.database.2.map fun made => made.1.sql) =
        ["SAVEPOINT sp_0_000000", "ROLLBACK TO SAVEPOINT sp_0_000000",
          "RELEASE SAVEPOINT sp_0_000000"] :=
  ⟨by decide +kernel, by decide +kernel⟩

end Meddling

end EntityStore
