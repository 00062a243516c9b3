import EntityStore.Proofs.Migration.Body
import EntityStore.Proofs.Transaction.Nesting

/-!
# Bodies with scopes

The body of a migration may make statements and open scopes within its transaction, and any of the
statements may fail, those around the scopes included. A scope that cannot be ended leaves savepoints
behind. But all of them were set within the body, so no statement of the body can reach behind its
beginning.
-/

namespace EntityStore

variable {σ γ : Type}

/-- Run a callback whose scopes are opened by the manager of the scope in which it is run. -/
def Callback.runNested {P : Statement → Prop} (c : Connection σ) (body : Callback P Unit) :
    SessionM σ Unit :=
  body.run c fun _ inner => Scope.transaction c fun _ => inner

/-- A body that makes the statement `st`, and runs a callback if it has succeeded. -/
def structured {P : Statement → Prop} (st : Statement) (next : RunResult → Callback P Unit)
    (c : Connection σ) (_ : Scope) : SessionM σ Unit := do
  let answer ← SessionM.atDatabase (c.execute st.sql st.params)
  (next answer).runNested c

namespace Account

variable {a : Account σ γ} {h : History σ}

/-! ## Savepoints that are left behind -/

/-- From `t` to `t'` what is told of migrations is the same, and savepoints were only added, at
which the same was told. -/
structure Grows (a : Account σ γ) (t t' : OpenTransaction γ) : Prop where
  books : a.books t'.working = a.books t.working
  savepoints : ∃ added, t'.savepoints = added ++ t.savepoints ∧
    ∀ savepoint ∈ added, a.books savepoint.2 = a.books t.working

theorem Grows.refl (a : Account σ γ) (t : OpenTransaction γ) : a.Grows t t :=
  ⟨rfl, [], rfl, by simp⟩

theorem Grows.trans {t t' t'' : OpenTransaction γ} (h : a.Grows t t') (h' : a.Grows t' t'') :
    a.Grows t t'' := by
  obtain ⟨added, hadded, same⟩ := h.savepoints
  obtain ⟨added', hadded', same'⟩ := h'.savepoints
  refine ⟨h'.books.trans h.books, added' ++ added, ?_, ?_⟩
  · rw [hadded', hadded, List.append_assoc]
  · intro savepoint hsavepoint
    rcases List.mem_append.1 hsavepoint with new | old
    · exact (same' savepoint new).trans h.books
    · exact same savepoint old

/-- The transaction after the savepoint `name` was set. -/
def marked (t : OpenTransaction γ) (name : String) : OpenTransaction γ :=
  ⟨t.working, (name, t.working) :: t.savepoints⟩

theorem grows_marked (a : Account σ γ) (t : OpenTransaction γ) (name : String) :
    a.Grows t (marked t name) := by
  refine ⟨rfl, [(name, t.working)], rfl, ?_⟩
  intro savepoint hsavepoint
  obtain rfl := List.mem_singleton.1 hsavepoint
  rfl

/-- The innermost savepoint called `name` lies no deeper than any other one of that name. -/
theorem downTo_of_append {t : OpenTransaction γ} {name : String} {contents : γ}
    {added rest : List (String × γ)} (h : t.savepoints = added ++ (name, contents) :: rest) :
    ∃ kept, t.downTo name = kept ++ (name, contents) :: rest ∧
      ∀ savepoint ∈ kept, savepoint ∈ added := by
  unfold OpenTransaction.downTo
  rw [h]
  clear h
  induction added with
  | nil => exact ⟨[], by simp, by simp⟩
  | cons first others ih =>
    by_cases same : first.1 = name
    · exact ⟨first :: others, by simp [same], fun savepoint hsavepoint => hsavepoint⟩
    · obtain ⟨kept, hkept, among⟩ := ih
      refine ⟨kept, ?_, fun savepoint hsavepoint => List.mem_cons_of_mem _ (among _ hsavepoint)⟩
      rw [List.cons_append, List.dropWhile_cons_of_pos (by simpa using same), hkept]

/-- Undoing the changes since a savepoint, with what was added to the transaction after it. -/
theorem Grows.rollbackTo {t t' : OpenTransaction γ} {name : String} {d : γ} {store : Store γ}
    (h : a.Grows (marked t name) t')
    (step : (Store.mk d (some t')).control (.rollbackTo name) = some store) :
    ∃ t'', store = ⟨d, some t''⟩ ∧ a.Grows (marked t name) t'' := by
  obtain ⟨added, hadded, same⟩ := h.savepoints
  obtain ⟨kept, hkept, among⟩ := downTo_of_append hadded
  simp only [Store.control, hkept] at step
  -- The innermost savepoint of the name is the one that was set, or one that was left behind since.
  cases kept with
  | nil =>
    obtain rfl := Option.some.inj step
    exact ⟨_, rfl, .refl a _⟩
  | cons first others =>
    obtain rfl := Option.some.inj step
    refine ⟨_, rfl, same first (among first (List.mem_cons_self ..)), first :: others, rfl, ?_⟩
    intro savepoint hsavepoint
    exact same savepoint (among savepoint hsavepoint)

/-- Giving a savepoint up, with what was added to the transaction after it. -/
theorem Grows.release {t t' : OpenTransaction γ} {name : String} {d : γ} {store : Store γ}
    (h : a.Grows (marked t name) t')
    (step : (Store.mk d (some t')).control (.release name) = some store) :
    ∃ t'', store = ⟨d, some t''⟩ ∧ a.Grows t t'' := by
  obtain ⟨added, hadded, same⟩ := h.savepoints
  obtain ⟨kept, hkept, among⟩ := downTo_of_append hadded
  simp only [Store.control, hkept] at step
  cases kept with
  | nil =>
    obtain rfl := Option.some.inj step
    exact ⟨_, rfl, h.books, [], rfl, by simp⟩
  | cons first others =>
    obtain rfl := Option.some.inj step
    refine ⟨_, rfl, (grows_marked a t name).trans ⟨h.books, others, rfl, ?_⟩⟩
    intro savepoint hsavepoint
    exact same savepoint (among savepoint (List.mem_cons_of_mem _ hsavepoint))

/-! ## Statements and scopes -/

/-- What a callback leaves as it was: earlier scopes, what stays, and what is told of migrations. -/
structure Inside (a : Account σ γ) (h : History σ) (s s' : Session σ) : Prop where
  scopes : s.scopes ≤ s'.scopes
  states : ∀ number < s.scopes, s'.stateOf number = s.stateOf number
  grows : ∃ d t t', a.store s.database = ⟨d, some t⟩ ∧ a.store s'.database = ⟨d, some t'⟩ ∧
    a.Grows t t'
  fails : a.Fails h s.database s'.database

theorem Inside.trans {s s' s'' : Session σ} (first : a.Inside h s s') (second : a.Inside h s' s'') :
    a.Inside h s s'' where
  scopes := Nat.le_trans first.scopes second.scopes
  states := by
    intro number hnumber
    rw [second.states number (Nat.lt_of_lt_of_le hnumber first.scopes),
      first.states number hnumber]
  grows := by
    obtain ⟨d, t, t', before, middle, grows⟩ := first.grows
    obtain ⟨d', t₁, t'', middle', after, grows'⟩ := second.grows
    rw [middle] at middle'
    cases middle'
    exact ⟨d, t, t'', before, after, grows.trans grows'⟩
  fails := first.fails.trans second.fails

theorem Inside.refl {s : Session σ} {d : γ} {t : OpenTransaction γ}
    (opened : a.store s.database = ⟨d, some t⟩) : a.Inside h s s where
  scopes := Nat.le_refl _
  states _ _ := rfl
  grows := ⟨d, t, t, opened, opened, .refl a t⟩
  fails := .refl a h _

/-- A statement that has nothing to do with migrations and transactions. -/
def Neutral (a : Account σ γ) (h : History σ) (st : Statement) : Prop :=
  st.IsData ∧ ¬ h.IsEntry st ∧ ∀ contents, a.books (a.effect st contents) = a.books contents

theorem Takes.inside {α : Type} {st : Statement} {s : Session σ} {db : σ} {result : Except Error α}
    (taken : a.Takes st s.database (result, db)) (neutral : a.Neutral h st) {d : γ}
    {t : OpenTransaction γ} (opened : a.store s.database = ⟨d, some t⟩) :
    a.Inside h s { s with database := db } := by
  obtain ⟨data, other, same⟩ := neutral
  refine ⟨Nat.le_refl _, fun _ _ => rfl, ?_, _, taken.failed, spares_failures other result⟩
  cases result with
  | error e => exact ⟨d, t, t, opened, taken.1.trans opened, .refl a t⟩
  | ok r =>
    have step := taken.1
    rw [Store.step_change a.effect data, opened] at step
    exact ⟨d, t, _, opened, (Option.some.inj step).symm, same t.working, [], rfl, by simp⟩

namespace Keeps

variable (keeps : a.Keeps h)

include keeps

/-- A nested scope begins, or it does not begin at all. -/
theorem begin_nested {scope : Scope} {name : String} (nested : scope.savepoint = some name)
    {s : Session σ} (idle : s.stateOf scope.number = .idle) {d : γ} {t : OpenTransaction γ}
    (opened : a.store s.database = ⟨d, some t⟩) :
    ∃ db, a.Fails h s.database db ∧
      ((a.store db = ⟨d, some (marked t name)⟩ ∧ scope.begin h.connection s =
          (.ok (), Scope.afterState scope .active { s with database := db })) ∨
        ∃ e, scope.begin h.connection s = (.error e, { s with database := db }) ∧
          a.store db = ⟨d, some t⟩) := by
  cases supported : h.connection.driver.supportsTransactions with
  | false =>
    exact ⟨s.database, .refl a h _, .inr ⟨_, Scope.begin_unsupported supported, opened⟩⟩
  | true =>
    rw [Scope.begin_nested_eq supported nested idle]
    obtain ⟨db, fails, ⟨hcontrol, hstore⟩ | ⟨e, hcontrol, hstore⟩⟩ :=
      keeps.control (Control.ofText?_savepoint name) s
    · rw [opened] at hstore
      refine ⟨db, fails, .inl ⟨(Option.some.inj hstore).symm, ?_⟩⟩
      rw [bind_ok hcontrol, Scope.setState_apply]
    · exact ⟨db, fails, .inr ⟨e, bind_error hcontrol, hstore.trans opened⟩⟩

/-- However a nested scope ends, nothing is told of migrations that was not told before it. -/
theorem finish_nested {scope : Scope} {name : String} (nested : scope.savepoint = some name)
    {s : Session σ} (active : s.stateOf scope.number = .active) {d : γ} {t t' : OpenTransaction γ}
    (store : a.store s.database = ⟨d, some t'⟩) (grows : a.Grows (marked t name) t')
    (result : Except Error Unit) :
    ∃ result' s', scope.finish h.connection result s = (result', s') ∧
      a.Fails h s.database s'.database ∧ s'.scopes = s.scopes ∧
      (∀ number, number ≠ scope.number → s'.stateOf number = s.stateOf number) ∧
      ∃ t'', a.store s'.database = ⟨d, some t''⟩ ∧ a.Grows t t'' := by
  have other : ∀ (state : ScopeState) (s : Session σ) (number : Nat), number ≠ scope.number →
      (Scope.afterState scope state s).stateOf number = s.stateOf number := by
    intro state s number hnumber
    simp [Scope.afterState, hnumber]
  have whole : a.Grows t t' := (grows_marked a t name).trans grows
  cases result with
  | ok u =>
    have commit := Scope.commit_nested_eq (c := h.connection) nested active
    obtain ⟨db, fails, ⟨hcontrol, hstore⟩ | ⟨e, hcontrol, hstore⟩⟩ :=
      keeps.control (Control.ofText?_release name) s
    · rw [bind_ok hcontrol, Scope.setState_apply] at commit
      rw [store] at hstore
      obtain ⟨t'', hstore, grows'⟩ := grows.release hstore
      exact ⟨_, _, Scope.finish_ok commit, fails, rfl, other _ _, t'', hstore, grows'⟩
    · rw [bind_error hcontrol] at commit
      exact ⟨_, _, Scope.finish_unkept commit, fails, rfl, fun _ _ => rfl, t',
        hstore.trans store, whole⟩
  | error e =>
    rw [Scope.finish_error, Scope.rollback_nested_eq nested active]
    obtain ⟨db, fails, ⟨hcontrol, hstore⟩ | ⟨_, hcontrol, hstore⟩⟩ :=
      keeps.control (Control.ofText?_rollbackTo name) s
    · rw [bind_ok hcontrol, bind_ok (Scope.setState_apply _ _ _)]
      rw [store] at hstore
      obtain ⟨undone, hundone, growsUndone⟩ := grows.rollbackTo hstore
      obtain ⟨db', fails', ⟨hrelease, hstore'⟩ | ⟨_, hrelease, hstore'⟩⟩ :=
        keeps.control (Control.ofText?_release name)
          (Scope.afterState scope .rolledBack { s with database := db })
      · rw [hrelease]
        have step : (a.store db).control (.release name) = some (a.store db') := hstore'
        rw [hundone] at step
        obtain ⟨t'', hstore'', grows'⟩ := growsUndone.release step
        exact ⟨_, _, rfl, fails.trans fails', rfl, other _ _, t'', hstore'', grows'⟩
      · rw [hrelease]
        exact ⟨_, _, rfl, fails.trans fails', rfl, other _ _, undone, hstore'.trans hundone,
          (grows_marked a t name).trans growsUndone⟩
    · rw [bind_error hcontrol]
      exact ⟨_, _, rfl, fails, rfl, fun _ _ => rfl, t', hstore.trans store, whole⟩

theorem inside_run {scope : Scope} {name : String} (nested : scope.savepoint = some name)
    {body : SessionM σ Unit}
    (hbody : ∀ {s : Session σ} {d : γ} {t : OpenTransaction γ},
      a.store s.database = ⟨d, some t⟩ → a.Inside h s (body s).2)
    {s : Session σ} (made : scope.number < s.scopes) (idle : s.stateOf scope.number = .idle) {d : γ}
    {t : OpenTransaction γ} (opened : a.store s.database = ⟨d, some t⟩) :
    ∃ result s', scope.run h.connection (fun _ => body) s = (result, s') ∧ s.scopes ≤ s'.scopes ∧
      (∀ number < s.scopes, number ≠ scope.number → s'.stateOf number = s.stateOf number) ∧
      (∃ t', a.store s'.database = ⟨d, some t'⟩ ∧ a.Grows t t') ∧
      a.Fails h s.database s'.database := by
  obtain ⟨db, fails, ⟨hstore, hbegin⟩ | ⟨e, hbegin, hstore⟩⟩ := keeps.begin_nested nested idle opened
  · cases answer : body (Scope.afterState scope .active { s with database := db }) with
    | mk result done =>
      have inside := hbody (s := Scope.afterState scope .active { s with database := db }) hstore
      rw [answer] at inside
      obtain ⟨d', begun, t', before, after, grows⟩ := inside.grows
      have same : (⟨d', some begun⟩ : Store γ) = ⟨d, some (marked t name)⟩ := before.symm.trans hstore
      cases same
      have active : done.stateOf scope.number = .active := by
        rw [inside.states scope.number made]
        simp [Scope.afterState]
      obtain ⟨result', ended, hfinish, fails', scopes, states, t'', hended, grows'⟩ :=
        keeps.finish_nested nested active after grows result
      refine ⟨result', ended, (Scope.run_ok hbegin answer).trans hfinish, ?_, ?_,
        ⟨t'', hended, grows'⟩, fails.trans (inside.fails.trans fails')⟩
      · rw [scopes]
        exact inside.scopes
      · intro number hnumber apart
        rw [states number apart, inside.states number hnumber]
        simp [Scope.afterState, apart]
  · exact ⟨_, _, Scope.run_error hbegin, Nat.le_refl _, fun _ _ _ => rfl, ⟨t, hstore, .refl a t⟩,
      fails⟩

theorem inside_scope {body : SessionM σ Unit}
    (hbody : ∀ {s : Session σ} {d : γ} {t : OpenTransaction γ},
      a.store s.database = ⟨d, some t⟩ → a.Inside h s (body s).2)
    {s : Session σ} {d : γ} {t : OpenTransaction γ} (opened : a.store s.database = ⟨d, some t⟩) :
    a.Inside h s (Scope.transaction h.connection (fun _ => body) s).2 := by
  obtain ⟨fresh, hnested, database, scopes, _, idle, states⟩ := Scope.nested_next s
  have made : (Scope.next s).number < fresh.scopes := by
    rw [scopes]
    exact Nat.lt_succ_self _
  have openedFresh : a.store fresh.database = ⟨d, some t⟩ := by rw [database, opened]
  obtain ⟨result, s', hrun, scopes', states', ⟨t', hstore, grows⟩, fails⟩ :=
    keeps.inside_run rfl hbody made idle openedFresh
  have whole : Scope.transaction h.connection (fun _ => body) s = (result, s') :=
    (bind_ok hnested).trans hrun
  rw [database] at fails
  rw [whole]
  have later : s.scopes < s'.scopes := by omega
  refine ⟨Nat.le_of_lt later, ?_, ⟨d, t, t', opened, hstore, grows⟩, fails⟩
  intro number hnumber
  have apart : number ≠ s.scopes := Nat.ne_of_lt hnumber
  rw [states' number (by omega) apart, states number apart]

/-- A callback of statements that leave migrations alone, in which any statement may fail. -/
theorem inside_callback (body : Callback (a.Neutral h) Unit) {s : Session σ} {d : γ}
    {t : OpenTransaction γ} (opened : a.store s.database = ⟨d, some t⟩) :
    a.Inside h s (body.runNested h.connection s).2 := by
  unfold Callback.runNested
  induction body generalizing s d t with
  | ends result =>
    rw [Callback.run, SessionM.ofExcept_apply]
    exact .refl opened
  | execute st allowed next ih =>
    rw [Callback.run, SessionM.outcome_bind, Connection.execute_apply]
    have first := Takes.inside (keeps.run st s.database) allowed opened
    obtain ⟨_, _, _, _, after, _⟩ := first.grows
    exact first.trans (ih _ after)
  | query st allowed next ih =>
    rw [Callback.run, SessionM.outcome_bind, Connection.query_apply]
    have first := Takes.inside (keeps.all st s.database) allowed opened
    obtain ⟨_, _, _, _, after, _⟩ := first.grows
    exact first.trans (ih _ after)
  | scope opening body next ihBody ihNext =>
    rw [Callback.run, SessionM.outcome_bind]
    have first := keeps.inside_scope ihBody opened
    obtain ⟨_, _, _, _, after, _⟩ := first.grows
    exact first.trans (ihNext _ after)

/-- A body that makes its `change` by one statement and then leaves migrations alone performs it. -/
theorem performs_structured {change : Change} {st : Statement} (data : st.IsData)
    (other : ¬ h.IsEntry st)
    (changes : ∀ contents, a.books (a.effect st contents) = (a.books contents).push change)
    (next : RunResult → Callback (a.Neutral h) Unit) :
    a.Performs h change (structured st next) := by
  intro scope s made active current
  obtain ⟨t, ht⟩ := Option.isSome_iff_exists.1 current
  have opened : a.store s.database = ⟨(a.store s.database).durable, some t⟩ :=
    congrArg (Store.mk (a.store s.database).durable) ht
  have seen : a.seen s.database = a.books t.working := by rw [Account.seen, opened]; rfl
  have taken := keeps.run st s.database
  have executed := Connection.execute_apply h.connection st s
  unfold structured
  cases answer : h.connection.driver.run st s.database with
  | mk result db =>
    rw [answer] at taken executed
    have fails : a.Fails h s.database db := ⟨_, taken.failed, spares_failures other result⟩
    cases result with
    | error e =>
      rw [bind_error executed]
      have same : a.store db = a.store s.database := taken.1
      refine ⟨⟨rfl, by rw [same]; exact current, by rw [same], ?_, fails⟩, fun ok => by cases ok⟩
      show (a.seen db).listed = (a.seen s.database).listed
      rw [Account.seen, same]
      rfl
    | ok r =>
      rw [bind_ok executed]
      have step := taken.1
      rw [Store.step_change a.effect data, opened] at step
      have after : a.store db = ⟨(a.store s.database).durable,
          some ⟨a.effect st t.working, t.savepoints⟩⟩ := (Option.some.inj step).symm
      have inside := keeps.inside_callback (next r) (s := { s with database := db }) after
      obtain ⟨d, first, last, before, store, grows⟩ := inside.grows
      cases before.symm.trans after
      have seenDone : a.seen ((next r).runNested h.connection
          { s with database := db }).2.database = (a.books t.working).push change := by
        rw [Account.seen, store]
        exact grows.books.trans (changes t.working)
      refine ⟨⟨inside.states _ made, by rw [store]; rfl, by rw [store], ?_,
        fails.trans inside.fails⟩, fun _ => ?_⟩
      · rw [seenDone, seen]
        rfl
      · rw [seenDone, seen]
        rfl

end Keeps

end Account

end EntityStore
