import EntityStore.Proofs.Transaction.Atomicity
import EntityStore.Proofs.Transaction.Life
import EntityStore.Proofs.Transaction.Program
import Mathlib.Data.Nat.Find

/-!
# Root transactions

The data source begins a root transaction where it tracks no active scope, and elsewhere a scope
within the innermost one. When scopes are ended innermost first, the outermost active one stays
tracked through everything but the end of a transaction, which drops whatever is tracked as the
innermost then. So these drops alone decide whether a root transaction can begin while another scope
is active.
-/

namespace EntityStore

variable {σ : Type}

/-! ## The scope that is begun next -/

namespace DataSource

variable (ds : DataSource σ) (isolation : Option IsolationLevel) (s : Session σ)

/-- The `scope` is made to be begun next, in the session `fresh`. -/
structure Made (scope : Scope) (fresh : Session σ) : Prop where
  begins : ds.begin isolation s = ds.beginTracked scope fresh
  number : scope.number = s.scopes
  idle : fresh.stateOf scope.number = .idle
  database : fresh.database = s.database
  scopes : fresh.scopes = s.scopes + 1
  tracked : fresh.openScopes = s.trimmed.openScopes
  others : ∀ number, number ≠ s.scopes → fresh.stateOf number = s.stateOf number
  /-- It is a transaction of its own where no active scope is tracked. -/
  root : s.trimmed.openScopes = [] → scope = Scope.rootOf ds isolation s.scopes
  within : s.trimmed.openScopes ≠ [] → scope.savepoint = some (Scope.nextName s)

theorem made : ∃ scope fresh, ds.Made isolation s scope fresh := by
  have others : ∀ number, number ≠ s.scopes →
      (Scope.afterMake s.trimmed).stateOf number = s.stateOf number :=
    fun number other => if_neg other
  by_cases untracked : s.trimmed.openScopes = []
  · have make : ds.makeScope isolation s.trimmed =
        (.ok (Scope.rootOf ds isolation s.scopes), Scope.afterMake s.trimmed) := Scope.make_apply _ _ _ _
    refine ⟨_, _, (begin_root (dropEnded_trims s) untracked).trans (bind_ok make), rfl, if_pos rfl, rfl, rfl, rfl,
      others, fun _ => rfl, fun tracked => absurd untracked tracked⟩
  · exact ⟨_, _, (begin_within (dropEnded_trims s) untracked).trans (bind_ok (Scope.nested_apply s.trimmed)), rfl,
      if_pos rfl, rfl, rfl, rfl, others, fun root => absurd root untracked, fun _ => rfl⟩

variable {ds isolation s}

/-- Whether it begins or not, only a scope that does is tracked. -/
theorem Made.cases {scope : Scope} {fresh : Session σ} (h : ds.Made isolation s scope fresh) :
    ∃ result s', scope.begin ds.connection fresh = (result, s') ∧ scope.Called .begin fresh s' ∧
      (result = .ok () ∧ ds.begin isolation s =
          (.ok scope, { s' with openScopes := scope :: s.trimmed.openScopes }) ∨
        ∃ e, result = .error e ∧ ds.begin isolation s = (.error e, s')) := by
  have called := scope.run_called ds.connection .begin fresh
  cases answer : scope.begin ds.connection fresh with
  | mk result s' =>
    rw [show Scope.Call.begin.run scope ds.connection fresh = _ from answer] at called
    refine ⟨result, s', rfl, called, ?_⟩
    cases result with
    | error e => exact .inr ⟨e, rfl, by rw [h.begins, beginTracked_error answer]⟩
    | ok u =>
      refine .inl ⟨rfl, ?_⟩
      rw [h.begins, beginTracked_ok answer, called.tracked.trans h.tracked]

end DataSource

/-! ## What is known of every point -/

namespace Point

def Active (p : Point σ) (scope : Scope) : Prop := p.session.stateOf scope.number = .active

instance (p : Point σ) (scope : Scope) : Decidable (p.Active scope) :=
  inferInstanceAs (Decidable (_ = _))

/-- Whether a scope that was begun through the data source is active. -/
def Busy (p : Point σ) : Prop := ∃ scope ∈ p.begun, p.Active scope

/-- The scopes that were begun are numbered in that order, and only they are tracked. -/
structure Sound (ds : DataSource σ) (p : Point σ) : Prop where
  made : ∀ scope ∈ p.begun, scope.number < p.session.scopes
  latestFirst : p.begun.Pairwise fun a b => b.number < a.number
  tracked : p.session.openScopes.Sublist p.begun
  supported : p.begun ≠ [] → ds.driver.supportsTransactions = true

/-- The outermost active scope is tracked. -/
def Grounded (p : Point σ) : Prop :=
  ∀ scope ∈ p.begun, p.Active scope →
    (∀ other ∈ p.begun, p.Active other → scope.number ≤ other.number) →
    scope ∈ p.session.openScopes

variable {ds : DataSource σ} {p : Point σ}

theorem Sound.begin (sound : p.Sound ds) (isolation : Option IsolationLevel) :
    ((Move.begin isolation).play ds p).Sound ds := by
  obtain ⟨scope, fresh, made⟩ := ds.made isolation p.session
  obtain ⟨result, s', ran, called, ⟨rfl, begins⟩ | ⟨e, rfl, begins⟩⟩ := made.cases
  · have supported : ds.driver.supportsTransactions = true := Scope.supported_of_begin ran
    have later : ∀ other ∈ p.begun, other.number < scope.number := by
      intro other begun
      rw [made.number]
      exact sound.made other begun
    have counted : s'.scopes = p.session.scopes + 1 := called.scopes.trans made.scopes
    rw [Move.play_begin_ok begins]
    refine ⟨?_, List.pairwise_cons.2 ⟨later, sound.latestFirst⟩, ?_, fun _ => supported⟩
    · intro other begun
      show other.number < s'.scopes
      rcases List.mem_cons.1 begun with rfl | begun
      · rw [counted, made.number]
        exact Nat.lt_succ_self _
      · rw [counted]
        exact Nat.lt_succ_of_lt (sound.made other begun)
    · exact ((List.dropWhile_sublist _).trans sound.tracked).cons_cons scope
  · have counted : s'.scopes = p.session.scopes + 1 := called.scopes.trans made.scopes
    have tracked : s'.openScopes = p.session.trimmed.openScopes := called.tracked.trans made.tracked
    rw [Move.play_begin_error begins]
    refine ⟨?_, sound.latestFirst, ?_, sound.supported⟩
    · intro other begun
      show other.number < s'.scopes
      rw [counted]
      exact Nat.lt_succ_of_lt (sound.made other begun)
    · show s'.openScopes.Sublist p.begun
      rw [tracked]
      exact (List.dropWhile_sublist _).trans sound.tracked

theorem Sound.play (sound : p.Sound ds) (move : Move) : (move.play ds p).Sound ds := by
  cases move with
  | execute st => exact ⟨sound.made, sound.latestFirst, sound.tracked, sound.supported⟩
  | query st => exact ⟨sound.made, sound.latestFirst, sound.tracked, sound.supported⟩
  | begin isolation => exact sound.begin isolation
  | close keep scope =>
    have called := scope.run_called ds.connection (.closing keep) p.session
    refine ⟨?_, sound.latestFirst, ?_, sound.supported⟩
    · intro other begun
      exact Nat.lt_of_lt_of_eq (sound.made other begun) called.scopes.symm
    · exact called.tracked.symm ▸ sound.tracked
  | drop =>
    have fewer := (List.drop_sublist 1 p.session.openScopes).trans sound.tracked
    exact ⟨sound.made, sound.latestFirst, fewer, sound.supported⟩

/-! ## The outermost active scope -/

theorem Grounded.begin (sound : p.Sound ds) (grounded : p.Grounded)
    (isolation : Option IsolationLevel) : ((Move.begin isolation).play ds p).Grounded := by
  obtain ⟨scope, fresh, made⟩ := ds.made isolation p.session
  obtain ⟨result, s', -, called, begins⟩ := made.cases
  -- the scopes that were begun before are as far as they were
  have kept : ∀ other ∈ p.begun, s'.stateOf other.number = p.session.stateOf other.number := by
    intro other begun
    have earlier : other.number ≠ p.session.scopes := Nat.ne_of_lt (sound.made other begun)
    rw [called.others _ (by rw [made.number]; exact earlier), made.others _ earlier]
  have outermost : ∀ other ∈ p.begun, s'.stateOf other.number = .active →
      (∀ b ∈ p.begun, s'.stateOf b.number = .active → other.number ≤ b.number) →
      other ∈ p.session.trimmed.openScopes := by
    intro other begun active least
    rw [kept other begun] at active
    refine Session.mem_trimmed (grounded other begun active ?_) active
    intro b hb hactive
    exact least b hb ((kept b hb).trans hactive)
  rcases begins with ⟨-, begins⟩ | ⟨e, -, begins⟩
  · rw [Move.play_begin_ok begins]
    intro other begun active least
    show other ∈ scope :: p.session.trimmed.openScopes
    rcases List.mem_cons.1 begun with rfl | begun
    · exact List.mem_cons_self
    · refine List.mem_cons_of_mem scope (outermost other begun active ?_)
      intro b hb hactive
      exact least b (List.mem_cons_of_mem scope hb) hactive
  · rw [Move.play_begin_error begins]
    intro other begun active least
    show other ∈ s'.openScopes
    rw [called.tracked, made.tracked]
    exact outermost other begun active least

/-- No scope that was begun after `scope` is active. -/
def Innermost (p : Point σ) (scope : Scope) : Prop :=
  scope ∈ p.begun ∧ ∀ other ∈ p.begun, p.Active other → other.number ≤ scope.number

instance (p : Point σ) (scope : Scope) : Decidable (p.Innermost scope) :=
  inferInstanceAs (Decidable (_ ∧ _))

theorem Grounded.close (grounded : p.Grounded) {keep : Bool} {scope : Scope}
    (innermost : p.Active scope → p.Innermost scope) :
    ((Move.close keep scope).play ds p).Grounded := by
  have called := scope.run_called ds.connection (.closing keep) p.session
  intro other begun active least
  show other ∈ ((Scope.Call.closing keep).run scope ds.connection p.session).2.openScopes
  rw [called.tracked]
  have ends : (Scope.Call.closing keep).target ≠ .active := by cases keep <;> decide
  -- no call that ends a scope makes one active
  have was : p.Active other := by
    by_cases same : other.number = scope.number
    · have after := called.own
      rw [← same] at after
      rcases after with unmoved | ⟨-, moved⟩
      · exact unmoved.symm.trans active
      · exact absurd (moved.symm.trans active) ends
    · exact (called.others _ same).symm.trans active
  refine grounded other begun was ?_
  intro b hb hactive
  by_cases same : b.number = scope.number
  · have after := called.own
    rw [← same] at after
    rcases after with unmoved | ⟨allowed, -⟩
    · exact least b hb (unmoved.trans hactive)
    · have scopeActive : p.Active scope := by rw [Active, ← same]; exact hactive
      rw [same]
      exact (innermost scopeActive).2 other begun was
  · exact least b hb ((called.others _ same).trans hactive)

/-- The scope that is tracked as the innermost is the only active one that is tracked. -/
def SoleTracked (p : Point σ) : Prop :=
  ∃ top ∈ p.session.openScopes.head?, p.Active top ∧
    ∀ other ∈ p.session.openScopes.tail, ¬ p.Active other

instance (p : Point σ) : Decidable p.SoleTracked :=
  inferInstanceAs (Decidable (∃ top ∈ p.session.openScopes.head?, _))

theorem Grounded.drop (sound : p.Sound ds) (grounded : p.Grounded) (others : ¬ p.SoleTracked) :
    (Move.drop.play ds p).Grounded := by
  intro scope begun active least
  show scope ∈ p.session.openScopes.drop 1
  have tracked := grounded scope begun active least
  cases scopes : p.session.openScopes with
  | nil =>
    rw [scopes] at tracked
    cases tracked
  | cons top rest =>
    rw [scopes] at tracked
    rcases List.mem_cons.1 tracked with rfl | below
    · exfalso
      refine others ⟨scope, by rw [scopes]; rfl, active, ?_⟩
      intro other hother otherActive
      rw [scopes, List.tail_cons] at hother
      have order := sound.tracked
      rw [scopes] at order
      have later : other.number < scope.number :=
        List.rel_of_pairwise_cons (sound.latestFirst.sublist order) hother
      have notLess := least other (order.subset (List.mem_cons_of_mem scope hother)) otherActive
      omega
    · exact below

/-- The outermost of the active scopes exists, if there are any. -/
theorem Busy.outermost (busy : p.Busy) : ∃ scope ∈ p.begun, p.Active scope ∧
    ∀ other ∈ p.begun, p.Active other → scope.number ≤ other.number := by
  classical
  have some : ∃ number, ∃ scope ∈ p.begun, p.Active scope ∧ scope.number = number := by
    obtain ⟨scope, begun, active⟩ := busy
    exact ⟨_, scope, begun, active, rfl⟩
  obtain ⟨scope, begun, active, number⟩ := Nat.find_spec some
  refine ⟨scope, begun, active, ?_⟩
  intro other hother otherActive
  rw [number]
  exact Nat.find_min' some ⟨other, hother, otherActive, rfl⟩

end Point

/-! ## What is written at a beginning -/

section

variable {ds : DataSource σ} {log : σ → List (Statement × Bool)} (logs : ds.driver.Logs log)

include logs

/-- What is written when a scope is begun: a savepoint, or the statements that open a
transaction. -/
theorem DataSource.Made.written {isolation : Option IsolationLevel} {s fresh : Session σ}
    {scope : Scope} (made : ds.Made isolation s scope fresh) :
    ∃ entries, log (ds.begin isolation s).2.database = log s.database ++ entries ∧
      (∀ name, scope.savepoint = some name → ds.driver.supportsTransactions = true →
        entries = [(.plain ("SAVEPOINT " ++ name), (ds.begin isolation s).1.isOk)]) ∧
      (scope = Scope.rootOf ds isolation s.scopes →
        entries.map Prod.fst <+: opening ds.options.dialect isolation) := by
  obtain ⟨t, seen, call, before, result⟩ : ∃ t, scope.Seen ds.connection log .begin fresh t ∧
      t.call = .begin ∧ t.before = .idle ∧ t.result = (scope.begin ds.connection fresh).1 :=
    ⟨_, Scope.seen logs .begin fun begun => absurd made.idle begun, rfl, made.idle, rfl⟩
  have lawful := seen.outcome.lawful
  have written : log (scope.begin ds.connection fresh).2.database = log s.database ++ t.made := by
    rw [← made.database]
    exact seen.written
  have allowed : t.before = t.call.required := by rw [before, call]; rfl
  obtain ⟨answer, s', ran, -, begins⟩ := made.cases
  rw [ran] at written result
  have database : (ds.begin isolation s).2.database = s'.database := by
    rcases begins with ⟨-, begins⟩ | ⟨e, -, begins⟩ <;> rw [begins]
  have isOk : (ds.begin isolation s).1.isOk = t.result.isOk := by
    rw [result]
    rcases begins with ⟨rfl, begins⟩ | ⟨e, rfl, begins⟩ <;> rw [begins] <;> rfl
  refine ⟨t.made, by rw [database]; exact written, ?_, ?_⟩
  · intro name savepoint supported
    have free : t.call = .begin → ¬ scope.Barred ds.connection := by
      rintro - (unsupported | ⟨root, -⟩)
      · exact absurd (supported.symm.trans unsupported) (by decide)
      · rw [savepoint] at root
        cases root
    have statements : t.call.statements scope ds.connection.dialect = ["SAVEPOINT " ++ name] := by
      rw [call]
      simp [Scope.Call.statements, Scope.Call.leading, Scope.Call.decisive, Scope.Call.trailing,
        savepoint]
    obtain ⟨some, upTo, complete, -⟩ := lawful.made allowed free
    rw [statements] at upTo complete
    rw [isOk]
    cases entries : t.made with
    | nil => exact absurd entries some
    | cons entry rest =>
      rw [entries, List.map_cons] at upTo
      obtain ⟨text, none⟩ := List.cons_prefix_cons.1 upTo
      obtain rfl := List.map_eq_nil_iff.1 (List.prefix_nil.1 none)
      have whole : t.made = Scope.allMade ["SAVEPOINT " ++ name] ↔ entry.2 = true := by
        rw [entries]
        constructor
        · intro same
          rw [(List.cons.inj same).1]
        · intro succeeded
          exact congrArg (fun e => [e]) (Prod.ext text succeeded)
      have answered : entry.2 = t.result.isOk := by
        cases outcome : t.result with
        | ok u => exact whole.1 (complete.1 outcome)
        | error e =>
          refine Bool.eq_false_iff.2 fun succeeded => ?_
          rw [complete.2 (whole.2 succeeded)] at outcome
          cases outcome
      exact congrArg (fun e => [e]) (Prod.ext text answered)
  · rintro rfl
    by_cases barred : t.call = .begin → ¬ (Scope.rootOf ds isolation s.scopes).Barred ds.connection
    · obtain ⟨-, upTo, -, -⟩ := lawful.made allowed barred
      have statements : (t.call.statements (Scope.rootOf ds isolation s.scopes)
          ds.options.dialect).map .plain = opening ds.options.dialect isolation := by
        rw [call]
        simp [Scope.Call.statements, Scope.Call.leading, Scope.Call.decisive, Scope.Call.trailing,
          Scope.rootOf, opening]
      rw [← statements]
      exact upTo
    · obtain ⟨-, barred⟩ := Classical.not_imp.1 barred
      obtain ⟨-, none, -⟩ := lawful.barred call (not_not.1 barred)
      rw [none]
      exact List.nil_prefix

/-! ## Beginning rightly -/

/-- A scope that is begun at `p`, with whatever isolation level, begins with a savepoint where a
scope that was begun earlier is active, and elsewhere as a transaction. -/
def Point.BeginsRightly (ds : DataSource σ) (log : σ → List (Statement × Bool)) (p : Point σ) :
    Prop :=
  ∀ isolation, ∃ entries,
    log (ds.begin isolation p.session).2.database = log p.session.database ++ entries ∧
    (p.Busy → entries = [(.plain ("SAVEPOINT " ++ Scope.nextName p.session),
      (ds.begin isolation p.session).1.isOk)]) ∧
    (¬ p.Busy → entries.map Prod.fst <+: opening ds.options.dialect isolation)

theorem Point.Sound.beginsRightly_iff {p : Point σ} (sound : p.Sound ds) :
    p.BeginsRightly ds log ↔ (p.Busy → ∃ scope ∈ p.session.openScopes, p.Active scope) := by
  constructor
  · intro rightly busy
    by_contra untracked
    have root : p.session.trimmed.openScopes = [] :=
      Session.trimmed_eq_nil.2 fun scope tracked active => untracked ⟨scope, tracked, active⟩
    obtain ⟨scope, fresh, made⟩ := ds.made none p.session
    obtain ⟨entries, written, -, opens⟩ := made.written logs
    obtain ⟨entries', written', savepoint, -⟩ := rightly none
    obtain rfl := List.append_cancel_left (written.symm.trans written')
    have begins := opens (made.root root)
    rw [savepoint busy] at begins
    have same : "SAVEPOINT " ++ Scope.nextName p.session = ds.options.dialect.begin :=
      congrArg Statement.sql (List.cons_prefix_cons.1 begins).1
    have controls := congrArg Control.ofText? same
    rw [Control.ofText?_savepoint, Control.ofText?_begin] at controls
    cases controls
  · intro tracked isolation
    obtain ⟨scope, fresh, made⟩ := ds.made isolation p.session
    obtain ⟨entries, written, nests, opens⟩ := made.written logs
    refine ⟨entries, written, ?_, ?_⟩
    · intro busy
      obtain ⟨outer, trackedOuter, active⟩ := tracked busy
      have within : p.session.trimmed.openScopes ≠ [] :=
        List.ne_nil_of_mem (Session.mem_trimmed trackedOuter active)
      have begun : p.begun ≠ [] := List.ne_nil_of_mem (sound.tracked.subset trackedOuter)
      exact nests _ (made.within within) (sound.supported begun)
    · intro idle
      refine opens (made.root (Session.trimmed_eq_nil.2 fun outer trackedOuter active => ?_))
      exact idle ⟨outer, sound.tracked.subset trackedOuter, active⟩

/-! ## Runs -/

/-- A scope that is ended while it is active is the innermost one. -/
def Visit.InnermostFirst (v : Visit σ) : Prop :=
  ∀ scope ∈ v.move.ended?, v.point.Active scope → v.point.Innermost scope

instance (v : Visit σ) : Decidable v.InnermostFirst :=
  inferInstanceAs (Decidable (∀ scope ∈ v.move.ended?, _))

/-- A transaction drops at its end the only active scope that is tracked. -/
def Visit.Abandons (v : Visit σ) : Prop := v.move.isDrop = true ∧ v.point.SoleTracked

instance (v : Visit σ) : Decidable v.Abandons := inferInstanceAs (Decidable (_ ∧ _))

omit logs in
theorem Point.Grounded.play {p : Point σ} (sound : p.Sound ds) (grounded : p.Grounded) {move : Move}
    (innermost : Visit.InnermostFirst ⟨p, move⟩) (keeps : ¬ Visit.Abandons ⟨p, move⟩) :
    (move.play ds p).Grounded := by
  cases move with
  | execute st => exact grounded
  | query st => exact grounded
  | begin isolation => exact grounded.begin sound isolation
  | close keep scope => exact grounded.close (innermost scope rfl)
  | drop => exact grounded.drop sound fun sole => keeps ⟨rfl, sole⟩

/-- After an active scope was dropped so, none that is tracked is active any more. -/
theorem Point.SoleTracked.not_beginsRightly {p : Point σ} (sound : p.Sound ds)
    (sole : p.SoleTracked) : ¬ (Move.drop.play ds p).BeginsRightly ds log := by
  obtain ⟨top, first, active, others⟩ := sole
  rw [(sound.play Move.drop).beginsRightly_iff logs]
  intro tracked
  have begun : top ∈ p.begun := sound.tracked.subset (List.mem_of_mem_head? first)
  obtain ⟨scope, below, stillActive⟩ := tracked ⟨top, begun, active⟩
  have below : scope ∈ p.session.openScopes.drop 1 := below
  rw [List.drop_one] at below
  exact others scope below stillActive

theorem Point.Grounded.beginsRightly {p : Point σ} (sound : p.Sound ds) (grounded : p.Grounded) :
    p.BeginsRightly ds log := by
  rw [sound.beginsRightly_iff logs]
  intro busy
  obtain ⟨scope, begun, active, least⟩ := busy.outermost
  exact ⟨scope, grounded scope begun active least, active⟩

omit logs in
theorem Point.mem_along (p : Point σ) (moves : List Move) : p ∈ p.along ds moves := by
  cases moves <;> exact List.mem_cons_self

theorem Point.along_rightly_iff (moves : List Move) {p : Point σ} (sound : p.Sound ds)
    (grounded : p.Grounded) (innermost : ∀ v ∈ p.visits ds moves, v.InnermostFirst) :
    (∀ q ∈ p.along ds moves, q.BeginsRightly ds log) ↔ ∀ v ∈ p.visits ds moves, ¬ v.Abandons := by
  induction moves generalizing p with
  | nil =>
    refine iff_of_true ?_ nofun
    intro q here
    obtain rfl := List.mem_singleton.1 here
    exact grounded.beginsRightly logs sound
  | cons move rest ih =>
    obtain ⟨first, others⟩ := List.forall_mem_cons.1 innermost
    rw [along, visits, List.forall_mem_cons, List.forall_mem_cons]
    -- such a drop spoils the very next point; before the first one, every point is grounded
    by_cases abandons : Visit.Abandons ⟨p, move⟩
    · refine iff_of_false ?_ fun keeps => keeps.1 abandons
      rintro ⟨-, rightly⟩
      obtain ⟨isDrop, sole⟩ : move.isDrop = true ∧ p.SoleTracked := abandons
      cases move with
      | drop => exact sole.not_beginsRightly logs sound (rightly _ (mem_along _ rest))
      | _ => cases isDrop
    · have later := ih (sound.play move) (grounded.play sound first abandons) others
      exact and_congr (iff_of_true (grounded.beginsRightly logs sound) abandons) later

/-- The points of a run in a session in which `ds` has not been used. -/
def Program.points (ds : DataSource σ) (program : Program) (s : Session σ) : List (Point σ) :=
  Point.along ds ⟨s, []⟩ (program.moves ds s)

/-- The moves of such a run, each with its point. -/
def Program.visits (ds : DataSource σ) (program : Program) (s : Session σ) : List (Visit σ) :=
  Point.visits ds ⟨s, []⟩ (program.moves ds s)

/-- In a run that ends its scopes innermost first, all scopes begin rightly, and would at any point
of it, if and only if no transaction drops at its end the only active scope that is tracked. -/
theorem Program.begins_rightly_iff (program : Program) {s : Session σ} (unused : s.openScopes = [])
    (innermost : ∀ v ∈ program.visits ds s, v.InnermostFirst) :
    (program.run ds s).2 = (Point.played ds ⟨s, []⟩ (program.moves ds s)).session ∧
      ((∀ p ∈ program.points ds s, p.BeginsRightly ds log) ↔
        ∀ v ∈ program.visits ds s, ¬ v.Abandons) := by
  have sound : Point.Sound ds ⟨s, []⟩ :=
    ⟨nofun, .nil, by rw [unused], fun some => absurd rfl some⟩
  exact ⟨program.run_session ⟨s, []⟩, Point.along_rightly_iff logs _ sound nofun innermost⟩

end

namespace Planned

/-- A data source whose driver fails as a plan says, statement by statement. -/
def source : DataSource (List Bool × List (Statement × Bool)) where
  driver := Scope.planned.withLog
  registry := .empty
  options := {}

def session (failures : List Bool) : Session (List Bool × List (Statement × Bool)) where
  database := (failures, [])
  outside := ⟨fun _ => 0, fun _ => .epoch, fun _ => 0⟩

/-- A transaction goes on after one within it has failed, and another one begins later. -/
def recovering : Program :=
  .transaction none
    (fun _ => .transaction none (fun _ => .ends (.error .transactionInactive)) fun _ => .ends (.ok ()))
    fun _ => .begin none fun _ => .ends (.ok ())

/-- The savepoint of the inner transaction cannot be given up, and yet all scopes begin rightly. -/
theorem recovering_begins_rightly :
    source.driver.Logs Prod.snd ∧ (session [false, false, false, true]).openScopes = [] ∧
    (∀ v ∈ recovering.visits source (session [false, false, false, true]), v.InnermostFirst) ∧
    ∀ p ∈ recovering.points source (session [false, false, false, true]),
      p.BeginsRightly source Prod.snd := by
  have logs : source.driver.Logs Prod.snd := Scope.planned.withLog_logs
  have innermost : ∀ v ∈ recovering.visits source (session [false, false, false, true]),
      v.InnermostFirst := by decide +kernel
  have keeps : ∀ v ∈ recovering.visits source (session [false, false, false, true]),
      ¬ v.Abandons := by decide +kernel
  exact ⟨logs, rfl, innermost, (recovering.begins_rightly_iff logs rfl innermost).2.2 keeps⟩

/-- A transaction that succeeds, and a scope that is begun after it. -/
def following : Program :=
  .transaction none (fun _ => .ends (.ok ())) fun _ => .begin none fun _ => .ends (.ok ())

/-- A transaction whose changes cannot be kept stays active and is tracked no longer: the next scope
begins as a transaction of its own. -/
theorem unkept_not_begins_rightly :
    (∀ v ∈ following.visits source (session [false, true]), v.InnermostFirst) ∧
    (following.run source (session [false, true])).2.stateOf 0 = .active ∧
    (following.run source (session [false, true])).2.database.2.map (fun m => (m.1.sql, m.2)) =
      [("BEGIN TRANSACTION", true), ("COMMIT", false), ("BEGIN TRANSACTION", true)] ∧
    ¬ ∀ p ∈ following.points source (session [false, true]), p.BeginsRightly source Prod.snd := by
  have innermost : ∀ v ∈ following.visits source (session [false, true]), v.InnermostFirst := by
    decide +kernel
  have abandons : ¬ ∀ v ∈ following.visits source (session [false, true]), ¬ v.Abandons := by
    decide +kernel
  have sound : Point.Sound source ⟨session [false, true], []⟩ :=
    ⟨nofun, .nil, .slnil, fun some => absurd rfl some⟩
  refine ⟨innermost, by decide +kernel, by decide +kernel, fun rightly => abandons ?_⟩
  exact (Point.along_rightly_iff Scope.planned.withLog_logs _ sound nofun innermost).1 rightly

end Planned

end EntityStore
