import EntityStore.Proofs.Transaction.Callback
import EntityStore.Proofs.Transaction.Store

/-!
# Nested scopes

Whether the next scope is a transaction or lies between savepoints is decided by the scopes that the
data source tracks; below a scope that it has begun this is always a savepoint, whoever opens it. So
the statements of a nested scope take any open transaction to the same transaction with the changes
that stay, and its savepoints are as they were. That is proved by induction on the callback.
-/

namespace EntityStore

variable {σ : Type}

/-- The driver `d` executes every statement, and `log` is a list of them. -/
structure Driver.Records (d : Driver σ) (log : σ → List Statement) : Prop where
  run : ∀ s db, ∃ answer db', d.run s db = (.ok answer, db') ∧ log db' = log db ++ [s]
  all : ∀ s db, ∃ answer db', d.all s db = (.ok answer, db') ∧ log db' = log db ++ [s]
  exec : ∀ own ∈ d.ownExec, ∀ sql db, ∃ db', own sql db = (.ok (), db') ∧
    log db' = log db ++ [.plain sql]

/-- A statement that is executed is kept like one that is run. -/
theorem Driver.Records.executed {d : Driver σ} {log : σ → List Statement} (records : d.Records log)
    (sql : String) (db : σ) :
    ∃ db', d.exec sql db = (.ok (), db') ∧ log db' = log db ++ [.plain sql] := by
  refine Driver.exec_of (P := fun answer => ∃ db', answer = (.ok (), db') ∧
    log db' = log db ++ [.plain sql]) ?_ fun own hown => records.exec own hown sql db
  obtain ⟨answer, db', hrun, hlog⟩ := records.run (.plain sql) db
  rw [hrun]
  exact ⟨db', rfl, hlog⟩

/-- The ways in which a callback opens a scope: through the data source, or through the manager of a
scope that is open. -/
inductive Opening where
  /-- Through the data source, which applies `isolation` to transactions only. -/
  | source (isolation : Option IsolationLevel)
  | manager

/-- Do something in a scope that is opened. -/
def Opening.enter (ds : DataSource σ) : Opening → SessionM σ Unit → SessionM σ Unit
  | source isolation, body => ds.transaction isolation fun _ => body
  | manager, body => Scope.transaction ds.connection fun _ => body

/-- The `contents` after statements were made one after another. -/
def Store.changed {γ : Type} (effect : Statement → γ → γ) (contents : γ) (made : List Statement) : γ :=
  made.foldl (fun contents s => effect s contents) contents

/-! ## Statements within a transaction -/

/-- From `s` to `s'` the scopes that there were got no further, and the statements `stream` take any
open transaction to the same one with the changes that stay. -/
structure Passage (log : σ → List Statement) (s s' : Session σ) (stream : List Statement)
    (made : List (Statement × Bool)) : Prop where
  written : log s'.database = log s.database ++ stream
  scopes : s.scopes ≤ s'.scopes
  states : ∀ number < s.scopes, s'.stateOf number = s.stateOf number
  data : (stream.filter fun s => s.IsData) = made.map Prod.fst
  replays : ∀ (γ : Type) (effect : Statement → γ → γ) (durable : γ) (t : OpenTransaction γ),
    (Store.mk durable (some t)).replay effect stream = some ⟨durable,
      some ⟨Store.changed effect t.working (Callback.kept made), t.savepoints⟩⟩

namespace Passage

variable {log : σ → List Statement} {s s' s'' : Session σ}

theorem refl (log : σ → List Statement) (s : Session σ) : Passage log s s [] [] where
  written := by simp
  scopes := Nat.le_refl _
  states _ _ := rfl
  data := rfl
  replays _ _ _ _ := rfl

theorem trans {stream stream' : List Statement} {made made' : List (Statement × Bool)}
    (h : Passage log s s' stream made) (h' : Passage log s' s'' stream' made') :
    Passage log s s'' (stream ++ stream') (made ++ made') where
  written := by rw [h'.written, h.written, List.append_assoc]
  scopes := Nat.le_trans h.scopes h'.scopes
  states := by
    intro number hnumber
    rw [h'.states number (Nat.lt_of_lt_of_le hnumber h.scopes), h.states number hnumber]
  data := by rw [List.filter_append, h.data, h'.data, List.map_append]
  replays := by
    intro γ effect durable t
    rw [Store.replay_append, h.replays, Option.bind_some, h'.replays]
    simp [Store.changed]

theorem statement {st : Statement} (hst : st.IsData) {db : σ}
    (h : log db = log s.database ++ [st]) :
    Passage log s { s with database := db } [st] [(st, true)] where
  written := h
  scopes := Nat.le_refl _
  states _ _ := rfl
  data := by simp [hst]
  replays := by
    intro γ effect durable t
    rw [Store.replay_cons, Store.step_change effect hst]
    rfl

/-- Keeping track of scopes is nothing that a passage sees. -/
theorem track {stream : List Statement} {made : List (Statement × Bool)}
    (h : Passage log s s' stream made) (before after : List Scope) :
    Passage log { s with openScopes := before } { s' with openScopes := after } stream made where
  written := h.written
  scopes := h.scopes
  states := h.states
  data := h.data
  replays := h.replays

end Passage

/-! ## Nested scopes -/

/-- The statements that end a nested scope. -/
def closing (name : String) : Except Error Unit → List Statement
  | .ok _ => [.plain ("RELEASE SAVEPOINT " ++ name)]
  | .error _ => [.plain ("ROLLBACK TO SAVEPOINT " ++ name), .plain ("RELEASE SAVEPOINT " ++ name)]

section

variable {γ : Type} (effect : Statement → γ → γ) (durable : γ) (name : String)

theorem replay_savepoint (t : OpenTransaction γ) :
    (Store.mk durable (some t)).replay effect [.plain ("SAVEPOINT " ++ name)] =
      some ⟨durable, some ⟨t.working, (name, t.working) :: t.savepoints⟩⟩ := by
  rw [Store.replay_cons, Store.step_control effect (Control.ofText?_savepoint name)]
  rfl

/-- At the end of a nested scope its savepoint is gone, and so are its changes if it failed. -/
theorem replay_closing (result : Except Error Unit) (working before : γ)
    (savepoints : List (String × γ)) :
    (Store.mk durable (some ⟨working, (name, before) :: savepoints⟩)).replay effect
        (closing name result) =
      some ⟨durable, some ⟨if result.isOk then working else before, savepoints⟩⟩ := by
  have release : ∀ working : γ,
      (Store.mk durable (some ⟨working, (name, before) :: savepoints⟩)).control (.release name) =
        some ⟨durable, some ⟨working, savepoints⟩⟩ := by
    intro working
    simp [Store.control]
  cases result with
  | ok _ =>
    rw [closing, Store.replay_cons, Store.step_control effect (Control.ofText?_release name), release]
    rfl
  | error e =>
    have rollback : (Store.mk durable (some ⟨working, (name, before) :: savepoints⟩)).control
        (.rollbackTo name) = some ⟨durable, some ⟨before, (name, before) :: savepoints⟩⟩ := by
      simp [Store.control]
    rw [closing, Store.replay_cons, Store.step_control effect (Control.ofText?_rollbackTo name),
      rollback, Option.bind_some, Store.replay_cons,
      Store.step_control effect (Control.ofText?_release name), release]
    rfl

end

/-- What is made in a nested scope, with the statements that begin and end it. -/
theorem Passage.nested {log : σ → List Statement} {s begun done ended : Session σ} {name : String}
    {result : Except Error Unit} {stream : List Statement} {made : List (Statement × Bool)}
    (begins : log begun.database = log s.database ++ [.plain ("SAVEPOINT " ++ name)])
    (scopes : begun.scopes = s.scopes + 1)
    (states : ∀ number < s.scopes, begun.stateOf number = s.stateOf number)
    (inner : Passage log begun done stream made)
    (ends : log ended.database = log done.database ++ closing name result)
    (scopes' : ended.scopes = done.scopes)
    (states' : ∀ number, number ≠ s.scopes → ended.stateOf number = done.stateOf number) :
    Passage log s ended ([.plain ("SAVEPOINT " ++ name)] ++ stream ++ closing name result)
      (Callback.within result made) where
  written := by rw [ends, inner.written, begins, List.append_assoc, List.append_assoc,
    List.append_assoc]
  scopes := by
    have := inner.scopes
    omega
  states := by
    intro number hnumber
    rw [states' number (by omega), inner.states number (by omega), states number hnumber]
  data := by
    have opening : ([.plain ("SAVEPOINT " ++ name)] : List Statement).filter (fun s => s.IsData) =
        [] := by
      simp [Statement.IsData, Statement.plain]
    have closed : (closing name result).filter (fun s => s.IsData) = [] := by
      cases result <;> simp [closing, Statement.IsData, Statement.plain]
    rw [List.filter_append, List.filter_append, opening, closed, inner.data]
    simp
  replays := by
    intro γ effect durable t
    rw [Store.replay_append, Store.replay_append, replay_savepoint, Option.bind_some,
      inner.replays, Option.bind_some, replay_closing]
    cases result with
    | ok _ => simp [Except.isOk, Except.toBool]
    | error e => simp [Except.isOk, Except.toBool, Store.changed]

/-! ## Beginning and ending a nested scope -/

namespace Scope

variable {c : Connection σ} {log : σ → List Statement} (records : c.driver.Records log)

include records

/-- A recorded controlling statement changes nothing but the database. -/
theorem control_recorded (sql : String) (s : Session σ) :
    ∃ db, control c sql s = (.ok (), { s with database := db }) ∧
      log db = log s.database ++ [.plain sql] := by
  obtain ⟨db, hexec, hlog⟩ := records.executed sql s.database
  rw [control_apply, hexec]
  exact ⟨db, rfl, hlog⟩

theorem begin_nested (supported : c.driver.supportsTransactions = true) {scope : Scope}
    {name : String} (hname : scope.savepoint = some name) {s : Session σ}
    (idle : s.stateOf scope.number = .idle) :
    ∃ db, scope.begin c s = (.ok (), afterState scope .active { s with database := db }) ∧
      log db = log s.database ++ [.plain ("SAVEPOINT " ++ name)] := by
  obtain ⟨db, hcontrol, hlog⟩ := control_recorded records ("SAVEPOINT " ++ name) s
  refine ⟨db, ?_, hlog⟩
  rw [begin_nested_eq supported hname idle, bind_ok hcontrol, setState_apply]

/-- A nested scope that has begun is ended according to the result. -/
theorem finish_nested {scope : Scope} {name : String} (hname : scope.savepoint = some name)
    {s : Session σ} (active : s.stateOf scope.number = .active) (result : Except Error Unit) :
    ∃ db state, scope.finish c result s = (result, afterState scope state { s with database := db }) ∧
      log db = log s.database ++ closing name result := by
  cases result with
  | ok u =>
    obtain ⟨db, hcontrol, hlog⟩ := control_recorded records ("RELEASE SAVEPOINT " ++ name) s
    refine ⟨db, .committed, ?_, hlog⟩
    have commit : scope.commit c s = (.ok (), afterState scope .committed { s with database := db }) := by
      rw [commit_nested_eq hname active, bind_ok hcontrol, setState_apply]
    exact finish_ok commit
  | error e =>
    obtain ⟨undone, hundone, hlogUndone⟩ :=
      control_recorded records ("ROLLBACK TO SAVEPOINT " ++ name) s
    obtain ⟨db, hcontrol, hlog⟩ := control_recorded records ("RELEASE SAVEPOINT " ++ name)
      (afterState scope .rolledBack { s with database := undone })
    refine ⟨db, .rolledBack, ?_, ?_⟩
    · have rollback : scope.rollback c s =
          (.ok (), afterState scope .rolledBack { s with database := db }) := by
        rw [rollback_nested_eq hname active, bind_ok hundone, bind_ok (setState_apply _ _ _), hcontrol]
        rfl
      rw [finish_error, rollback]
    · rw [hlog]
      show log undone ++ _ = _
      rw [hlogUndone, closing, List.append_assoc]
      rfl

/-- The nested scope that is made next. -/
def next (s : Session σ) : Scope := ⟨s.scopes, some (nextName s), none, false⟩

/-- From `s` to `begun`, the next nested scope has begun. -/
structure Begun (log : σ → List Statement) (s begun : Session σ) : Prop where
  written : log begun.database = log s.database ++ [.plain ("SAVEPOINT " ++ nextName s)]
  scopes : begun.scopes = s.scopes + 1
  active : begun.stateOf s.scopes = .active
  states : ∀ number, number ≠ s.scopes → begun.stateOf number = s.stateOf number
  tracked : begun.openScopes = s.openScopes

omit records in
theorem nested_next (s : Session σ) :
    ∃ fresh, nested s = (.ok (next s), fresh) ∧ fresh.database = s.database ∧
      fresh.scopes = s.scopes + 1 ∧ fresh.openScopes = s.openScopes ∧
      fresh.stateOf s.scopes = .idle ∧
      ∀ number, number ≠ s.scopes → fresh.stateOf number = s.stateOf number := by
  refine ⟨_, nested_apply s, rfl, rfl, rfl, by simp [afterMake], ?_⟩
  intro number hnumber
  simp [afterMake, hnumber]

theorem next_begun (supported : c.driver.supportsTransactions = true) (s : Session σ) :
    ∃ fresh begun, nested s = (.ok (next s), fresh) ∧ (next s).begin c fresh = (.ok (), begun) ∧
      Begun log s begun := by
  obtain ⟨fresh, hnested, database, scopes, tracked, idle, states⟩ := nested_next s
  have isIdle : fresh.stateOf (next s).number = .idle := idle
  obtain ⟨db, hbegin, hlog⟩ := begin_nested records supported rfl isIdle
  rw [database] at hlog
  refine ⟨fresh, _, hnested, hbegin, hlog, scopes, ?_, ?_, tracked⟩
  · simp [afterState, next]
  · intro number hnumber
    rw [← states number hnumber]
    simp [afterState, next, hnumber]

/-- After a nested scope was ended, its session differs from before in the database and in how far
it got. -/
theorem next_finish {s done : Session σ} (active : done.stateOf s.scopes = .active)
    (result : Except Error Unit) :
    ∃ ended, (next s).finish c result done = (result, ended) ∧
      log ended.database = log done.database ++ closing (nextName s) result ∧
      ended.scopes = done.scopes ∧ ended.openScopes = done.openScopes ∧
      ∀ number, number ≠ s.scopes → ended.stateOf number = done.stateOf number := by
  have isActive : done.stateOf (next s).number = .active := active
  obtain ⟨db, state, hfinish, hlog⟩ := finish_nested records rfl isActive result
  refine ⟨_, hfinish, hlog, rfl, rfl, ?_⟩
  intro number hnumber
  simp [afterState, next, hnumber]

theorem Begun.finish {s begun done : Session σ} (hbegun : Begun log s begun)
    {stream : List Statement} {made : List (Statement × Bool)}
    (inner : Passage log begun done stream made) (result : Except Error Unit) :
    ∃ stream' ended, (next s).finish c result done = (result, ended) ∧
      Passage log s ended stream' (Callback.within result made) ∧
      ended.openScopes = done.openScopes := by
  have active : done.stateOf s.scopes = .active := by
    rw [inner.states s.scopes (by rw [hbegun.scopes]; exact Nat.lt_succ_self _), hbegun.active]
  have earlier : ∀ number < s.scopes, begun.stateOf number = s.stateOf number := by
    intro number hnumber
    exact hbegun.states number (Nat.ne_of_lt hnumber)
  obtain ⟨ended, hfinish, hlog, hscopes, htracked, hstates⟩ := next_finish records active result
  have passage := Passage.nested hbegun.written hbegun.scopes earlier inner hlog hscopes hstates
  exact ⟨_, ended, hfinish, passage, htracked⟩

end Scope

/-! ## Callbacks within a tracked scope -/

/-- The data source tracks scopes, and all of them are active. -/
structure Session.Tracking (s : Session σ) : Prop where
  nonempty : s.openScopes ≠ []
  made : ∀ scope ∈ s.openScopes, scope.number < s.scopes
  active : ∀ scope ∈ s.openScopes, s.stateOf scope.number = .active

theorem Session.Tracking.passage {log : σ → List Statement} {s s' : Session σ}
    {stream : List Statement} {made : List (Statement × Bool)} (h : s.Tracking)
    (passage : Passage log s s' stream made) (tracked : s'.openScopes = s.openScopes) :
    s'.Tracking where
  nonempty := by rw [tracked]; exact h.nonempty
  made := by
    rw [tracked]
    intro scope hscope
    exact Nat.lt_of_lt_of_le (h.made scope hscope) passage.scopes
  active := by
    rw [tracked]
    intro scope hscope
    rw [passage.states _ (h.made scope hscope)]
    exact h.active scope hscope

theorem Session.Tracking.begun {log : σ → List Statement} {s begun : Session σ} (h : s.Tracking)
    (hbegun : Scope.Begun log s begun) : begun.Tracking where
  nonempty := by rw [hbegun.tracked]; exact h.nonempty
  made := by
    rw [hbegun.tracked, hbegun.scopes]
    intro scope hscope
    exact Nat.lt_succ_of_lt (h.made scope hscope)
  active := by
    rw [hbegun.tracked]
    intro scope hscope
    rw [hbegun.states _ (Nat.ne_of_lt (h.made scope hscope))]
    exact h.active scope hscope

theorem Session.Tracking.push {log : σ → List Statement} {s begun : Session σ} (h : s.Tracking)
    (hbegun : Scope.Begun log s begun) :
    ({ begun with openScopes := Scope.next s :: begun.openScopes } : Session σ).Tracking where
  nonempty := List.cons_ne_nil _ _
  made := by
    intro scope hscope
    rcases List.mem_cons.1 hscope with rfl | hscope
    · show s.scopes < begun.scopes
      rw [hbegun.scopes]
      exact Nat.lt_succ_self _
    · exact (h.begun hbegun).made scope hscope
  active := by
    intro scope hscope
    rcases List.mem_cons.1 hscope with rfl | hscope
    · exact hbegun.active
    · exact (h.begun hbegun).active scope hscope

/-- What is done within tracked scopes is a passage: whatever sessions `x` is done in, it ends there
with a result and with statements for which `Q` holds, and the same scopes are tracked. -/
def Passes (log : σ → List Statement) (x : SessionM σ Unit)
    (Q : Except Error Unit → List (Statement × Bool) → Prop) : Prop :=
  ∀ s : Session σ, s.Tracking → ∃ result made stream s', x s = (result, s') ∧ Q result made ∧
    Passage log s s' stream made ∧ s'.openScopes = s.openScopes

section

variable {ds : DataSource σ} {log : σ → List Statement} (records : ds.driver.Records log)
  (supported : ds.driver.supportsTransactions = true)

include records supported

theorem Passes.manager {body : SessionM σ Unit}
    {Q : Except Error Unit → List (Statement × Bool) → Prop} (hbody : Passes log body Q) :
    Passes log (Opening.manager.enter ds body) fun result made =>
      ∃ first, Q result first ∧ made = Callback.within result first := by
  intro s hs
  obtain ⟨fresh, begun, hnested, hbegin, hbegun⟩ :=
    Scope.next_begun (c := ds.connection) records supported s
  obtain ⟨result, first, stream, done, hrun, hQ, inner, tracked⟩ := hbody begun (hs.begun hbegun)
  obtain ⟨_, ended, hfinish, passage, htracked⟩ :=
    hbegun.finish (c := ds.connection) records inner result
  refine ⟨result, _, _, ended, ?_, ⟨first, hQ, rfl⟩, passage, ?_⟩
  · show (Scope.nested >>= fun scope => scope.run ds.connection fun _ => body) s = _
    rw [bind_ok hnested, Scope.run_ok hbegin hrun, hfinish]
  · rw [htracked, tracked, hbegun.tracked]

omit records supported in
theorem dropEnded_apply {s : Session σ} (h : s.Tracking) :
    DataSource.dropEnded s = (.ok (), s) := by
  have same : s.trimmed.openScopes = s.openScopes := by
    show (s.openScopes.dropWhile fun scope => s.stateOf scope.number != .active) = _
    cases tracked : s.openScopes with
    | nil => rfl
    | cons scope rest =>
      have active := h.active scope (by simp [tracked])
      simp [active]
  show ((.ok (), { s with openScopes := s.trimmed.openScopes }) : Except Error Unit × Session σ) = _
  rw [same]

theorem Passes.source (isolation : Option IsolationLevel) {body : SessionM σ Unit}
    {Q : Except Error Unit → List (Statement × Bool) → Prop} (hbody : Passes log body Q) :
    Passes log ((Opening.source isolation).enter ds body) fun result made =>
      ∃ first, Q result first ∧ made = Callback.within result first := by
  intro s hs
  obtain ⟨fresh, begun, hnested, hbegin, hbegun⟩ :=
    Scope.next_begun (c := ds.connection) records supported s
  obtain ⟨result, first, stream, done, hrun, hQ, tracking, tracked⟩ := hbody _ (hs.push hbegun)
  have inner : Passage log begun done stream first :=
    tracking.track begun.openScopes done.openScopes
  obtain ⟨_, ended, hfinish, passage, htracked⟩ :=
    hbegun.finish (c := ds.connection) records inner result
  have hsource : ds.begin isolation s =
      (.ok (Scope.next s), { begun with openScopes := Scope.next s :: begun.openScopes }) := by
    rw [DataSource.begin_within (dropEnded_apply hs) hs.nonempty, bind_ok hnested,
      DataSource.beginTracked_ok hbegin]
  refine ⟨result, _, _, _, DataSource.transaction_ok hsource hrun hfinish, ⟨first, hQ, rfl⟩,
    passage.track s.openScopes _, ?_⟩
  show ended.openScopes.drop 1 = s.openScopes
  rw [htracked, tracked, List.drop_one, List.tail_cons, hbegun.tracked]

/-- A callback that is run within tracked scopes does what happens in atomic blocks. -/
theorem Callback.passes (body : Callback Statement.IsData Opening) :
    Passes log (body.run ds.connection (Opening.enter ds)) body.Happens := by
  induction body with
  | ends result =>
    intro s hs
    exact ⟨result, [], [], s, SessionM.ofExcept_apply result s, .ends result, Passage.refl log s, rfl⟩
  | execute st allowed next ih =>
    intro s hs
    obtain ⟨answer, db, hrun, hlog⟩ := records.run st s.database
    have first := Passage.statement allowed hlog
    obtain ⟨result, made, stream, s', hnext, happens, passage, tracked⟩ :=
      ih (.ok answer) _ (hs.passage first rfl)
    refine ⟨result, _, _, s', ?_, .execute answer happens, first.trans passage, tracked⟩
    rw [Callback.run, SessionM.outcome_bind, Connection.execute_apply]
    show (next (ds.driver.run st s.database).1).run _ _
      { s with database := (ds.driver.run st s.database).2 } = _
    rw [hrun]
    exact hnext
  | query st allowed next ih =>
    intro s hs
    obtain ⟨answer, db, hall, hlog⟩ := records.all st s.database
    have first := Passage.statement allowed hlog
    obtain ⟨result, made, stream, s', hnext, happens, passage, tracked⟩ :=
      ih (.ok answer.toList) _ (hs.passage first rfl)
    refine ⟨result, _, _, s', ?_, .query answer.toList happens, first.trans passage, tracked⟩
    rw [Callback.run, SessionM.outcome_bind, Connection.query_apply]
    show (next ((ds.driver.all st s.database).1.map Rows.toList)).run _ _
      { s with database := (ds.driver.all st s.database).2 } = _
    rw [hall]
    exact hnext
  | scope opening body next ihBody ihNext =>
    intro s hs
    have entered : Passes log (opening.enter ds (body.run ds.connection (Opening.enter ds)))
        fun result made => ∃ first, body.Happens result first ∧
          made = Callback.within result first := by
      cases opening with
      | source isolation => exact Passes.source records supported isolation ihBody
      | manager => exact Passes.manager records supported ihBody
    obtain ⟨inner, made, stream, middle, henter, ⟨first, happensBody, rfl⟩, passage, tracked⟩ :=
      entered s hs
    obtain ⟨result, made', stream', s', hnext, happens, passage', tracked'⟩ :=
      ihNext inner middle (hs.passage passage tracked)
    refine ⟨result, _, _, s', ?_, .scope happensBody happens, passage.trans passage', ?_⟩
    · rw [Callback.run, SessionM.outcome_bind, henter]
      exact hnext
    · rw [tracked', tracked]

end

end EntityStore
