import EntityStore.Proofs.Migration.History

/-!
# Migrations in their transactions

The body of a migration is run in a transaction of its own. Either the transaction ends as its
changes are kept, or nothing of it stays, whichever of the statements around the body fails.
-/

namespace EntityStore

variable {σ γ α : Type}

/-- A `body` is run in a scope of its own, which has just been made, between two readings of the
stopwatch. -/
theorem runTimed_eq (c : Connection σ) (body : Connection σ → Scope → SessionM σ Unit)
    (s : Session σ) :
    ∃ (scope : Scope) (fresh : Session σ), scope.number = s.scopes ∧ scope.savepoint = none ∧
      scope.isolation = none ∧ fresh.scopes = s.scopes + 1 ∧ fresh.database = s.database ∧
      fresh.outside = s.outside ∧ fresh.stateOf scope.number = .idle ∧
      runTimed c body s = (scope.run c (body c) >>= fun _ => SessionM.stopwatch >>= fun stopped =>
        pure ((stopped - s.outside.stopwatch s.uses : Nat) : Int)) fresh := by
  have started : (SessionM.stopwatch : SessionM σ Nat) s =
      (.ok (s.outside.stopwatch s.uses), { s with uses := s.uses + 1 }) := rfl
  refine ⟨⟨s.scopes, none, none, false⟩, Scope.afterMake { s with uses := s.uses + 1 },
    rfl, rfl, rfl, rfl, rfl, rfl, by simp [Scope.afterMake], ?_⟩
  unfold runTimed Scope.root
  rw [bind_ok started, bind_ok (Scope.make_apply none none false _)]

/-- The stopwatch is read at the end of a run that has succeeded. -/
theorem stopwatch_apply (s : Session σ) (started : Nat) :
    (SessionM.stopwatch >>= fun stopped => pure ((stopped - started : Nat) : Int) :
        SessionM σ Int) s =
      (.ok ((s.outside.stopwatch s.uses - started : Nat) : Int), { s with uses := s.uses + 1 }) :=
  rfl

namespace Account

variable {a : Account σ γ} {h : History σ}

/-- What is left as it is from `s` to `s'` by something that is done in `scope`, within an open
transaction. -/
structure Within (a : Account σ γ) (h : History σ) (scope : Scope) (s s' : Session σ) : Prop where
  state : s'.stateOf scope.number = s.stateOf scope.number
  opened : (a.store s'.database).current.isSome = true
  durable : (a.store s'.database).durable = (a.store s.database).durable
  listed : (a.seen s'.database).listed = (a.seen s.database).listed
  fails : a.Fails h s.database s'.database

/-- A `body` keeps to the scope that is begun for it and leaves the history alone, and if it ends
with a result, then its `change` is there. -/
def Performs (a : Account σ γ) (h : History σ) (change : Change)
    (body : Connection σ → Scope → SessionM σ Unit) : Prop :=
  ∀ scope s, scope.number < s.scopes → s.stateOf scope.number = .active →
    (a.store s.database).current.isSome = true →
      a.Within h scope s (body h.connection scope s).2 ∧
      ((body h.connection scope s).1 = .ok () →
        (a.seen (body h.connection scope s).2.database).changes =
          change :: (a.seen s.database).changes)

/-! ## The statements around a body -/

namespace Keeps

variable (keeps : a.Keeps h)

include keeps

/-- A controlling statement has its effect, or it fails and has none. -/
theorem control {text : String} {c : Control} (hc : Control.ofText? text = some c) (s : Session σ) :
    ∃ db, a.Fails h s.database db ∧
      ((Scope.control h.connection text s = (.ok (), { s with database := db }) ∧
          (a.store s.database).control c = some (a.store db)) ∨
        ∃ e, Scope.control h.connection text s = (.error e, { s with database := db }) ∧
          a.store db = a.store s.database) := by
  have taken := keeps.executes text s.database
  rw [Scope.control_apply]
  cases answer : h.connection.driver.exec text s.database with
  | mk result db =>
    rw [answer] at taken
    refine ⟨db, ⟨_, taken.failed, spares_failures (h.not_isEntry_plain hc) result⟩, ?_⟩
    cases result with
    | ok r =>
      left
      refine ⟨rfl, ?_⟩
      rw [← Store.step_control a.effect hc]
      exact taken.1
    | error e =>
      right
      exact ⟨e, rfl, taken.1⟩

/-- A transaction begins where none is open, or it does not begin at all. -/
theorem begin_root {scope : Scope} (root : scope.savepoint = none) (plain : scope.isolation = none)
    {s : Session σ} (idle : s.stateOf scope.number = .idle) :
    ∃ db, a.Fails h s.database db ∧
      ((∃ d, a.store s.database = ⟨d, none⟩ ∧ a.store db = ⟨d, some ⟨d, []⟩⟩ ∧
          scope.begin h.connection s =
            (.ok (), Scope.afterState scope .active { s with database := db })) ∨
        ∃ e, scope.begin h.connection s = (.error e, { s with database := db }) ∧
          a.store db = a.store s.database) := by
  cases supported : h.connection.driver.supportsTransactions with
  | false =>
    exact ⟨s.database, .refl a h _, .inr ⟨_, Scope.begin_unsupported supported, rfl⟩⟩
  | true =>
    rw [Scope.begin_root_eq supported root idle, bind_ok (Scope.applyIsolation_none plain)]
    obtain ⟨db, fails, ⟨hcontrol, hstore⟩ | ⟨e, hcontrol, hstore⟩⟩ :=
      keeps.control (Control.ofText?_begin h.connection.dialect) s
    · refine ⟨db, fails, .inl ?_⟩
      rw [bind_ok hcontrol, Scope.setState_apply]
      rcases store : a.store s.database with ⟨d, _ | t⟩
      · rw [store] at hstore
        exact ⟨d, rfl, (Option.some.inj hstore).symm, rfl⟩
      · rw [store] at hstore
        cases hstore
    · exact ⟨db, fails, .inr ⟨e, bind_error hcontrol, hstore⟩⟩

/-- At the end of a transaction its changes are kept, or they are undone, or it stays open and the
result is an error. -/
theorem finish_root {scope : Scope} (root : scope.savepoint = none) {s : Session σ}
    (active : s.stateOf scope.number = .active) {d : γ} {t : OpenTransaction γ}
    (store : a.store s.database = ⟨d, some t⟩) (result : Except Error Unit) :
    ∃ result' s', scope.finish h.connection result s = (result', s') ∧
      a.Fails h s.database s'.database ∧
      ((result = .ok () ∧ result' = .ok () ∧ a.store s'.database = ⟨t.working, none⟩) ∨
        ∃ e, result' = .error e ∧
          (a.store s'.database = ⟨d, none⟩ ∨ a.store s'.database = ⟨d, some t⟩)) := by
  cases result with
  | ok u =>
    have commit := Scope.commit_root_eq (c := h.connection) root active
    obtain ⟨db, fails, ⟨hcontrol, hstore⟩ | ⟨e, hcontrol, hstore⟩⟩ :=
      keeps.control Control.ofText?_commit s
    · rw [bind_ok hcontrol, Scope.setState_apply] at commit
      rw [store] at hstore
      exact ⟨_, _, Scope.finish_ok commit, fails, .inl ⟨rfl, rfl, (Option.some.inj hstore).symm⟩⟩
    · rw [bind_error hcontrol] at commit
      exact ⟨_, _, Scope.finish_unkept commit, fails,
        .inr ⟨e, rfl, .inr (hstore.trans store)⟩⟩
  | error e =>
    rw [Scope.finish_error, Scope.rollback_root_eq root active]
    obtain ⟨db, fails, ⟨hcontrol, hstore⟩ | ⟨_, hcontrol, hstore⟩⟩ :=
      keeps.control Control.ofText?_rollback s
    · rw [bind_ok hcontrol, Scope.setState_apply]
      rw [store] at hstore
      exact ⟨_, _, rfl, fails, .inr ⟨e, rfl, .inl (Option.some.inj hstore).symm⟩⟩
    · rw [bind_error hcontrol]
      exact ⟨_, _, rfl, fails, .inr ⟨e, rfl, .inr (hstore.trans store)⟩⟩

/-- A `body` in a transaction that has just begun, and the end of the transaction. -/
theorem body_outcome {change : Change} {body : Connection σ → Scope → SessionM σ Unit}
    (performs : a.Performs h change body) {scope : Scope} (root : scope.savepoint = none)
    {begun done : Session σ} {result : Except Error Unit} (made : scope.number < begun.scopes)
    (active : begun.stateOf scope.number = .active) {d : γ}
    (opened : a.store begun.database = ⟨d, some ⟨d, []⟩⟩)
    (answer : body h.connection scope begun = (result, done)) :
    ∃ result' s', scope.finish h.connection result done = (result', s') ∧
      a.Fails h begun.database s'.database ∧
      ((result' = .ok () ∧ a.Idle s'.database ∧ a.durable s'.database = (a.books d).push change) ∨
        ∃ e, result' = .error e ∧ a.Settled s'.database ∧ a.durable s'.database = a.books d) := by
  have current : (a.store begun.database).current.isSome = true := by rw [opened]; rfl
  have performed := performs scope begun made active current
  rw [answer] at performed
  obtain ⟨within, performed⟩ := performed
  obtain ⟨t, ht⟩ := Option.isSome_iff_exists.1 within.opened
  have durable : (a.store done.database).durable = d := by rw [within.durable, opened]
  have store : a.store done.database = ⟨d, some t⟩ := congrArg₂ Store.mk durable ht
  have seenBegun : a.seen begun.database = a.books d := by rw [seen, opened]; rfl
  have seenDone : a.seen done.database = a.books t.working := by rw [seen, store]; rfl
  have listed : (a.books t.working).listed = (a.books d).listed := by
    rw [← seenDone, within.listed, seenBegun]
  obtain ⟨result', s', hfinish, fails, outcome⟩ :=
    keeps.finish_root root (within.state.trans active) store result
  refine ⟨result', s', hfinish, within.fails.trans fails, ?_⟩
  rcases outcome with ⟨ok, ok', kept⟩ | ⟨e, error, undone | stuck⟩
  · left
    have changes := performed ok
    rw [seenDone, seenBegun] at changes
    refine ⟨ok', by rw [Idle, kept], ?_⟩
    rw [Account.durable, kept, Books.push, ← changes, ← listed]
  · right
    have idle : a.Idle s'.database := by rw [Idle, undone]
    exact ⟨e, error, idle.settled, by rw [Account.durable, undone]⟩
  · right
    refine ⟨e, error, ?_, by rw [Account.durable, stuck]⟩
    rw [Settled, seen, Account.durable, stuck]
    exact listed

/-- If a migration ends with a result, then its `change` stays, and else nothing that stays is
changed. -/
theorem runTimed_outcome {change : Change} {body : Connection σ → Scope → SessionM σ Unit}
    (performs : a.Performs h change body) {s : Session σ} (settled : a.Settled s.database) :
    ∃ result s' failures, runTimed h.connection body s = (result, s') ∧ h.Spares failures ∧
      ((∃ elapsed, result = .ok elapsed ∧ a.Idle s'.database ∧
          a.Reaches s.database s'.database failures ((a.durable s.database).push change)) ∨
        ∃ e, result = .error e ∧
          a.Reaches s.database s'.database failures (a.durable s.database)) := by
  obtain ⟨scope, fresh, number, root, plain, scopes, database, -, idle, timed⟩ :=
    runTimed_eq h.connection body s
  rw [timed]
  obtain ⟨db, fails, ⟨d, closed, opened, hbegin⟩ | ⟨e, hbegin, same⟩⟩ :=
    keeps.begin_root root plain idle
  · have active : (Scope.afterState scope .active { fresh with database := db }).stateOf
        scope.number = .active := by
      simp [Scope.afterState]
    have made : scope.number <
        (Scope.afterState scope .active { fresh with database := db }).scopes := by
      show scope.number < fresh.scopes
      rw [number, scopes]
      exact Nat.lt_succ_self _
    rw [database] at closed fails
    have before : a.durable s.database = a.books d := by rw [durable, closed]
    cases answer : body h.connection scope
        (Scope.afterState scope .active { fresh with database := db }) with
    | mk result done =>
      obtain ⟨result', s', hfinish, fails', outcome⟩ :=
        keeps.body_outcome performs root made active opened answer
      obtain ⟨failures, failed, spares⟩ := fails.trans fails'
      have run := (Scope.run_ok hbegin answer).trans hfinish
      rcases outcome with ⟨rfl, idle', durable'⟩ | ⟨e, rfl, settled', durable'⟩
      · refine ⟨_, _, failures, (bind_ok run).trans rfl, spares, .inl ⟨_, rfl, idle', ?_⟩⟩
        exact ⟨failed, idle'.settled, by rw [before]; exact durable'⟩
      · refine ⟨_, _, failures, bind_error run, spares, .inr ⟨e, rfl, ?_⟩⟩
        exact ⟨failed, settled', by rw [before]; exact durable'⟩
  · rw [database] at fails same
    obtain ⟨failures, failed, spares⟩ := fails
    refine ⟨.error e, _, failures, bind_error (Scope.run_error hbegin), spares, .inr ⟨e, rfl, ?_⟩⟩
    exact Reaches.of_store failed same settled

end Keeps

end Account

end EntityStore
