import EntityStore.Proofs.Transaction.Session
import Mathlib.Tactic.Common

/-!
# A call of a scope

A call that begins or ends a scope makes statements up to the first that fails, and one of them is
decisive: the state moves on with it. There are five ways in which a call can turn out, for a driver
whose statements may fail in any way.
-/

namespace EntityStore

variable {σ : Type}

/-- The `log` tells every statement that `d` was given, and whether it succeeded. -/
structure Driver.Logs (d : Driver σ) (log : σ → List (Statement × Bool)) : Prop where
  run : ∀ st db, log (d.run st db).2 = log db ++ [(st, (d.run st db).1.isOk)]
  exec : ∀ own ∈ d.ownExec, ∀ sql db,
    log (own sql db).2 = log db ++ [(.plain sql, (own sql db).1.isOk)]

/-- The driver `d`, with a log beside its database. -/
def Driver.withLog (d : Driver σ) : Driver (σ × List (Statement × Bool)) where
  all st db := ((d.all st db.1).1, ((d.all st db.1).2, db.2))
  run st db := ((d.run st db.1).1, ((d.run st db.1).2, db.2 ++ [(st, (d.run st db.1).1.isOk)]))
  ownFirst := d.ownFirst.map fun own st db => ((own st db.1).1, ((own st db.1).2, db.2))
  ownExec := d.ownExec.map fun own sql db =>
    ((own sql db.1).1, ((own sql db.1).2, db.2 ++ [(.plain sql, (own sql db.1).1.isOk)]))
  supportsTransactions := d.supportsTransactions

theorem Driver.withLog_logs (d : Driver σ) : d.withLog.Logs Prod.snd where
  run _ _ := rfl
  exec own hown sql db := by
    obtain ⟨own', -, rfl⟩ := Option.map_eq_some_iff.1 hown
    rfl

/-- A statement that is executed is told like one that is run. -/
theorem Driver.Logs.executed {d : Driver σ} {log : σ → List (Statement × Bool)} (logs : d.Logs log)
    (sql : String) (db : σ) :
    log (d.exec sql db).2 = log db ++ [(.plain sql, (d.exec sql db).1.isOk)] := by
  refine Driver.exec_of (P := fun answer => log answer.2 = log db ++ [(.plain sql, answer.1.isOk)])
    ?_ fun own hown => logs.exec own hown sql db
  rw [logs.run]
  cases (d.run (.plain sql) db).1 <;> rfl

namespace Scope

/-- A call that begins or ends a scope. -/
inductive Call where
  | begin
  | commit
  | rollback
  deriving DecidableEq

namespace Call

variable (scope : Scope)

def run (c : Connection σ) : Call → SessionM σ Unit
  | begin => scope.begin c
  | commit => scope.commit c
  | rollback => scope.rollback c

/-- The state in which a call is allowed. -/
def required : Call → ScopeState
  | begin => .idle
  | commit | rollback => .active

/-- The state that a call leads to. -/
def target : Call → ScopeState
  | begin => .active
  | commit => .committed
  | rollback => .rolledBack

/-- The statement that a call is for. -/
def decisive (d : Dialect) : Call → String
  | begin => match scope.savepoint with
    | some name => "SAVEPOINT " ++ name
    | none => d.begin
  | commit => match scope.savepoint with
    | some name => "RELEASE SAVEPOINT " ++ name
    | none => "COMMIT"
  | rollback => match scope.savepoint with
    | some name => "ROLLBACK TO SAVEPOINT " ++ name
    | none => "ROLLBACK"

/-- The statements before it: the isolation level of a transaction is set. -/
def leading (d : Dialect) : Call → List String
  | begin => match scope.savepoint with
    | some _ => []
    | none => (scope.isolation.bind d.isolation?).toList
  | commit | rollback => []

/-- The statements after it: a savepoint is given up after its changes were undone. -/
def trailing : Call → List String
  | rollback => scope.savepoint.toList.map ("RELEASE SAVEPOINT " ++ ·)
  | begin | commit => []

def statements (d : Dialect) (call : Call) : List String :=
  call.leading scope d ++ call.decisive scope d :: call.trailing scope

end Call

/-- The scope cannot begin: the driver has no transactions, or a level has to be set that the
dialect cannot set. -/
def Barred (scope : Scope) (c : Connection σ) : Prop :=
  c.driver.supportsTransactions = false ∨ (scope.savepoint = none ∧ scope.strict = true ∧
    ∃ level, scope.isolation = some level ∧ c.dialect.isolation? level = none)

/-! ## Statements one after another -/

/-- Make controlling statements up to the first that fails. -/
def controls (c : Connection σ) : List String → SessionM σ Unit
  | [] => pure ()
  | sql :: rest => control c sql >>= fun _ => controls c rest

def allMade (texts : List String) : List (Statement × Bool) := texts.map fun sql => (.plain sql, true)

section

variable {c : Connection σ} {log : σ → List (Statement × Bool)} (logs : c.driver.Logs log)

include logs

theorem control_made (sql : String) (s : Session σ) :
    ∃ result db, control c sql s = (result, { s with database := db }) ∧
      log db = log s.database ++ [(.plain sql, result.isOk)] :=
  ⟨_, _, control_apply c sql s, logs.executed sql s.database⟩

theorem controls_made (texts : List String) (s : Session σ) :
    ∃ result db made, controls c texts s = (result, { s with database := db }) ∧
      log db = log s.database ++ made ∧
      ((result = .ok () ∧ made = allMade texts) ∨
        ∃ e done failed rest, result = .error e ∧ texts = done ++ failed :: rest ∧
          made = allMade done ++ [(.plain failed, false)]) := by
  induction texts generalizing s with
  | nil => exact ⟨.ok (), s.database, [], rfl, by simp, .inl ⟨rfl, rfl⟩⟩
  | cons sql rest ih =>
    obtain ⟨result, db, hfirst, hlog⟩ := control_made logs sql s
    cases result with
    | error e =>
      refine ⟨.error e, db, [(.plain sql, false)], bind_error hfirst, hlog, ?_⟩
      exact .inr ⟨e, [], sql, rest, rfl, rfl, rfl⟩
    | ok u =>
      obtain ⟨result, db', made, hrest, hlog', outcome⟩ := ih { s with database := db }
      refine ⟨result, db', (.plain sql, true) :: made, (bind_ok hfirst).trans hrest, ?_, ?_⟩
      · rw [hlog', hlog, List.append_assoc]
        rfl
      · rcases outcome with ⟨rfl, rfl⟩ | ⟨e, done, failed, others, rfl, rfl, rfl⟩
        · exact .inl ⟨rfl, rfl⟩
        · exact .inr ⟨e, sql :: done, failed, others, rfl, rfl, rfl⟩

end

/-! ## One call -/

/-- What is seen of a call. -/
structure Turn where
  call : Call
  before : ScopeState
  result : Except Error Unit
  made : List (Statement × Bool)
  after : ScopeState

/-- The turn that `call` takes in the session `s`. -/
def turn (scope : Scope) (c : Connection σ) (log : σ → List (Statement × Bool)) (call : Call)
    (s : Session σ) : Turn where
  call := call
  before := s.stateOf scope.number
  result := (call.run scope c s).1
  made := (log (call.run scope c s).2.database).drop (log s.database).length
  after := (call.run scope c s).2.stateOf scope.number

/-- Everything that a call can do. -/
inductive Outcome (scope : Scope) (c : Connection σ) : Turn → Prop where
  /-- It is not allowed in this state. -/
  | inactive {call : Call} {state : ScopeState} (other : state ≠ call.required) :
    Outcome scope c ⟨call, state, .error .transactionInactive, [], state⟩
  | barred (e : Error) (barred : scope.Barred c) :
    Outcome scope c ⟨.begin, .idle, .error e, [], .idle⟩
  /-- A statement fails up to the decisive one. -/
  | stopped {call : Call} (e : Error) {done rest : List String} {failed : String}
    (free : call = .begin → ¬ scope.Barred c)
    (upTo : call.leading scope c.dialect ++ [call.decisive scope c.dialect] = done ++ failed :: rest) :
    Outcome scope c ⟨call, call.required, .error e, allMade done ++ [(.plain failed, false)],
      call.required⟩
  /-- The changes of a nested scope are undone, but its savepoint cannot be given up. -/
  | halfway (e : Error) {name : String} (nested : scope.savepoint = some name) :
    Outcome scope c ⟨.rollback, .active, .error e,
      [(.plain ("ROLLBACK TO SAVEPOINT " ++ name), true),
        (.plain ("RELEASE SAVEPOINT " ++ name), false)], .rolledBack⟩
  | done {call : Call} (free : call = .begin → ¬ scope.Barred c) :
    Outcome scope c ⟨call, call.required, .ok (), allMade (call.statements scope c.dialect),
      call.target⟩

/-- The turn `t` is one of the outcomes, and the log tells what was made in it. -/
structure Seen (scope : Scope) (c : Connection σ) (log : σ → List (Statement × Bool)) (call : Call)
    (s : Session σ) (t : Turn) : Prop where
  outcome : Outcome scope c t
  written : log (call.run scope c s).2.database = log s.database ++ t.made

theorem require_error {scope : Scope} {expected : ScopeState} {s : Session σ}
    (h : s.stateOf scope.number ≠ expected) :
    scope.require expected s = (.error .transactionInactive, s) := by
  show (if s.stateOf scope.number ≠ expected then _ else _ : SessionM σ Unit) s = _
  rw [if_pos h]
  rfl

section

variable {scope : Scope} {c : Connection σ} {s : Session σ}

theorem run_inactive {call : Call} (other : s.stateOf scope.number ≠ call.required)
    (supported : call = .begin → c.driver.supportsTransactions = true) :
    call.run scope c s = (.error .transactionInactive, s) := by
  cases call with
  | begin =>
    show scope.begin c s = _
    unfold begin
    rw [supported rfl]
    exact bind_error (require_error other)
  | commit => exact bind_error (require_error other)
  | rollback => exact bind_error (require_error other)

theorem run_barred (idle : s.stateOf scope.number = .idle) (barred : scope.Barred c) :
    ∃ e, Call.run scope c .begin s = (.error e, s) := by
  show ∃ e, scope.begin c s = (.error e, s)
  cases supported : c.driver.supportsTransactions with
  | false => exact ⟨_, begin_unsupported supported⟩
  | true =>
    obtain unsupported | ⟨root, strict, level, isolation, unset⟩ := barred
    · rw [supported] at unsupported
      cases unsupported
    · refine ⟨.unsupportedIsolation level.name, ?_⟩
      rw [begin_root_eq supported root idle]
      refine bind_error ?_
      rw [applyIsolation_unsettable isolation unset, if_pos strict]

theorem applyIsolation_eq (strict : scope.strict = true → ∀ level, scope.isolation = some level →
    c.dialect.isolation? level ≠ none) :
    scope.applyIsolation c s = controls c (scope.isolation.bind c.dialect.isolation?).toList s := by
  cases isolation : scope.isolation with
  | none => exact applyIsolation_none isolation
  | some level =>
    cases settable : c.dialect.isolation? level with
    | some sql =>
      rw [applyIsolation_settable isolation settable, Option.bind_some, settable]
      exact congrFun (bind_pure (control c sql)).symm s
    | none =>
      have lenient : ¬ scope.strict = true := fun h => strict h level isolation settable
      rw [applyIsolation_unsettable isolation settable, if_neg lenient, Option.bind_some, settable]
      rfl

theorem controls_append (c : Connection σ) (first second : List String) :
    controls c (first ++ second) = controls c first >>= fun _ => controls c second := by
  induction first with
  | nil => exact (pure_bind _ _).symm
  | cons sql rest ih => simp only [List.cons_append, controls, ih, bind_assoc]

/-- A call that is allowed makes its statements, and the state moves on after the decisive one. -/
theorem run_eq {call : Call} (allowed : s.stateOf scope.number = call.required)
    (free : call = .begin → ¬ scope.Barred c) :
    call.run scope c s =
      (controls c (call.leading scope c.dialect ++ [call.decisive scope c.dialect]) >>= fun _ =>
        scope.setState call.target >>= fun _ => controls c (call.trailing scope)) s := by
  have setLast : (scope.setState call.target >>= fun _ => controls c []) =
      (scope.setState call.target : SessionM σ Unit) := bind_pure _
  have single : ∀ sql, controls c [sql] = control c sql := fun sql => bind_pure _
  cases call with
  | begin =>
    have free := free rfl
    have supported : c.driver.supportsTransactions = true := by
      cases h : c.driver.supportsTransactions with
      | true => rfl
      | false => exact absurd (.inl h) free
    show scope.begin c s = _
    rw [controls_append, single]
    simp only [Call.leading, Call.decisive, Call.trailing]
    rw [setLast]
    cases savepoint : scope.savepoint with
    | some name =>
      rw [begin_nested_eq supported savepoint allowed]
      rfl
    | none =>
      have settable : scope.strict = true → ∀ level, scope.isolation = some level →
          c.dialect.isolation? level ≠ none := by
        intro strict level isolation unset
        exact free (.inr ⟨savepoint, strict, level, isolation, unset⟩)
      rw [begin_root_eq supported savepoint allowed, bind_assoc]
      have applied := applyIsolation_eq (s := s) settable
      cases answer : scope.applyIsolation c s with
      | mk result s' =>
        rw [answer] at applied
        cases result with
        | ok u =>
          rw [bind_ok answer, bind_ok applied.symm]
          rfl
        | error e => rw [bind_error answer, bind_error applied.symm]
  | commit =>
    show scope.commit c s = _
    simp only [Call.leading, Call.decisive, Call.trailing, List.nil_append]
    rw [single, setLast]
    cases savepoint : scope.savepoint with
    | some name => exact commit_nested_eq savepoint allowed
    | none => exact commit_root_eq savepoint allowed
  | rollback =>
    show scope.rollback c s = _
    simp only [Call.leading, Call.decisive, Call.trailing, List.nil_append]
    rw [single]
    cases savepoint : scope.savepoint with
    | some name =>
      rw [rollback_nested_eq savepoint allowed]
      simp only [Option.toList_some, List.map_cons, List.map_nil, single]
      rfl
    | none =>
      rw [rollback_root_eq savepoint allowed]
      simp only [Option.toList_none, List.map_nil, setLast]
      rfl

/-- What is seen of a call whose run is known. -/
theorem turn_seen {log : σ → List (Statement × Bool)} {call : Call} {result : Except Error Unit}
    {s' : Session σ} {made : List (Statement × Bool)} {before after : ScopeState}
    (ran : call.run scope c s = (result, s')) (written : log s'.database = log s.database ++ made)
    (hbefore : s.stateOf scope.number = before) (hafter : s'.stateOf scope.number = after)
    (outcome : Outcome scope c ⟨call, before, result, made, after⟩) :
    scope.Seen c log call s (scope.turn c log call s) := by
  have same : scope.turn c log call s = ⟨call, before, result, made, after⟩ := by
    simp only [turn, ran, written, List.drop_left, hbefore, hafter]
  rw [same]
  refine ⟨outcome, ?_⟩
  rw [ran]
  exact written

theorem trailing_eq_cons {call : Call} {done rest : List String} {failed : String}
    (h : call.trailing scope = done ++ failed :: rest) :
    ∃ name, scope.savepoint = some name ∧ call = .rollback ∧ done = [] ∧
      failed = "RELEASE SAVEPOINT " ++ name := by
  cases call with
  | begin | commit => simp [Call.trailing] at h
  | rollback =>
    cases savepoint : scope.savepoint with
    | none => simp [Call.trailing, savepoint] at h
    | some name =>
      simp only [Call.trailing, savepoint, Option.toList_some, List.map_cons, List.map_nil] at h
      cases done with
      | nil => exact ⟨name, rfl, rfl, rfl, (List.cons.inj h).1.symm⟩
      | cons first others => simp at h

variable {log : σ → List (Statement × Bool)} (logs : c.driver.Logs log)

include logs

theorem seen_allowed {call : Call} (allowed : s.stateOf scope.number = call.required)
    (free : call = .begin → ¬ scope.Barred c) :
    scope.Seen c log call s (scope.turn c log call s) := by
  have ran := run_eq allowed free
  obtain ⟨result, db, made, hupTo, hlog, ⟨rfl, rfl⟩ | ⟨e, done, failed, rest, rfl, upTo, rfl⟩⟩ :=
    controls_made logs (call.leading scope c.dialect ++ [call.decisive scope c.dialect]) s
  · rw [bind_ok hupTo, bind_ok (setState_apply scope call.target _)] at ran
    have moved : (afterState scope call.target { s with database := db }).stateOf scope.number =
        call.target := by
      simp [afterState]
    obtain ⟨result, db', made, hafter, hlog', ⟨rfl, rfl⟩ | ⟨e, done, failed, rest, rfl, after, rfl⟩⟩ :=
      controls_made logs (call.trailing scope) (afterState scope call.target { s with database := db })
    · have written : log db' = log s.database ++ allMade (call.statements scope c.dialect) := by
        rw [hlog']
        show log db ++ _ = _
        rw [hlog, allMade, allMade, allMade, Call.statements, List.append_assoc,
          ← List.map_append, List.append_assoc, List.singleton_append]
      exact turn_seen (ran.trans hafter) written allowed moved (.done free)
    · obtain ⟨name, nested, rfl, rfl, rfl⟩ := trailing_eq_cons after
      have written : log db' = log s.database ++
          [(.plain ("ROLLBACK TO SAVEPOINT " ++ name), true),
            (.plain ("RELEASE SAVEPOINT " ++ name), false)] := by
        rw [hlog']
        show log db ++ _ = _
        rw [hlog, List.append_assoc]
        simp [allMade, Call.leading, Call.decisive, nested]
      exact turn_seen (ran.trans hafter) written allowed moved (.halfway e nested)
  · rw [bind_error hupTo] at ran
    exact turn_seen ran hlog allowed allowed (.stopped e free upTo)

/-- A call does one of the things that a call can do. -/
theorem seen (call : Call)
    (supported : s.stateOf scope.number ≠ .idle → c.driver.supportsTransactions = true) :
    scope.Seen c log call s (scope.turn c log call s) := by
  by_cases allowed : s.stateOf scope.number = call.required
  · by_cases free : call = .begin → ¬ scope.Barred c
    · exact seen_allowed logs allowed free
    · obtain ⟨rfl, barred⟩ := Classical.not_imp.1 free
      obtain ⟨e, ran⟩ := run_barred allowed (not_not.1 barred)
      exact turn_seen ran (List.append_nil _).symm allowed allowed (.barred e (not_not.1 barred))
  · have possible : call = .begin → c.driver.supportsTransactions = true := by
      rintro rfl
      exact supported allowed
    exact turn_seen (run_inactive allowed possible) (List.append_nil _).symm rfl rfl
      (.inactive allowed)

end

/-! ## What a call changes -/

/-- Beside the database, a `call` of `scope` changes only how far that scope got. -/
structure Called (scope : Scope) (call : Call) (s s' : Session σ) : Prop where
  scopes : s'.scopes = s.scopes
  savepoints : s'.savepoints = s.savepoints
  tracked : s'.openScopes = s.openScopes
  others : ∀ number, number ≠ scope.number → s'.stateOf number = s.stateOf number
  own : s'.stateOf scope.number = s.stateOf scope.number ∨
    s.stateOf scope.number = call.required ∧ s'.stateOf scope.number = call.target

section

variable {scope : Scope} {c : Connection σ} {s : Session σ}

theorem Called.refl (scope : Scope) (call : Call) (s : Session σ) : scope.Called call s s :=
  ⟨rfl, rfl, rfl, fun _ _ => rfl, .inl rfl⟩

theorem controls_session (c : Connection σ) (texts : List String) (s : Session σ) :
    ∃ result db, controls c texts s = (result, { s with database := db }) := by
  induction texts generalizing s with
  | nil => exact ⟨.ok (), s.database, rfl⟩
  | cons sql rest ih =>
    have first : control c sql s = _ := SessionM.atDatabase_apply (c.driver.exec sql) s
    cases answer : (c.driver.exec sql s.database).1 with
    | error e =>
      rw [answer] at first
      exact ⟨.error e, _, bind_error first⟩
    | ok u =>
      rw [answer] at first
      obtain ⟨result, db, others⟩ := ih { s with database := (c.driver.exec sql s.database).2 }
      exact ⟨result, db, (bind_ok first).trans others⟩

theorem run_refused {call : Call} (other : s.stateOf scope.number ≠ call.required) :
    ∃ e, call.run scope c s = (.error e, s) := by
  by_cases supported : call = .begin → c.driver.supportsTransactions = true
  · exact ⟨_, run_inactive other supported⟩
  · obtain ⟨rfl, unsupported⟩ := Classical.not_imp.1 supported
    exact ⟨_, begin_unsupported (by simpa using unsupported)⟩

theorem run_called (scope : Scope) (c : Connection σ) (call : Call) (s : Session σ) :
    scope.Called call s (call.run scope c s).2 := by
  by_cases allowed : s.stateOf scope.number = call.required
  · by_cases free : call = .begin → ¬ scope.Barred c
    · rw [run_eq allowed free]
      obtain ⟨result, db, upTo⟩ :=
        controls_session c (call.leading scope c.dialect ++ [call.decisive scope c.dialect]) s
      cases result with
      | error e =>
        rw [bind_error upTo]
        exact ⟨rfl, rfl, rfl, fun _ _ => rfl, .inl rfl⟩
      | ok u =>
        obtain ⟨result', db', after⟩ := controls_session c (call.trailing scope)
          (afterState scope call.target { s with database := db })
        rw [bind_ok upTo, bind_ok (setState_apply _ _ _), after]
        refine ⟨rfl, rfl, rfl, fun number other => if_neg other, .inr ⟨allowed, if_pos rfl⟩⟩
    · obtain ⟨rfl, barred⟩ := Classical.not_imp.1 free
      obtain ⟨e, ran⟩ := run_barred allowed (not_not.1 barred)
      rw [ran]
      exact .refl scope .begin s
  · obtain ⟨e, ran⟩ := run_refused (c := c) allowed
    rw [ran]
    exact .refl scope call s

end

end Scope

end EntityStore
