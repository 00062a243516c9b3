import EntityStore.Proofs.Transaction.Store
import EntityStore.Proofs.Transaction.Turn
import Mathlib.Algebra.Ring.Nat

/-!
# The life of a scope

A scope is begun once and ended once, in whatever order it is called and whichever statements fail:
its state tells which decisive statements have succeeded since it was made.
-/

namespace EntityStore

variable {σ : Type}

namespace Scope

/-! ## What holds of every turn -/

/-- How many statements of the text `text` succeeded. -/
def successes (text : String) (made : List (Statement × Bool)) : Nat :=
  made.countP fun m => m.2 && m.1.sql == text

/-- The turn `t` keeps the rules of a scope that is used once. -/
structure Turn.Lawful (scope : Scope) (c : Connection σ) (t : Turn) : Prop where
  moves : t.after = t.before ∨ (t.before = t.call.required ∧ t.after = t.call.target)
  inactive : t.before ≠ t.call.required → t.result = .error .transactionInactive ∧ t.made = []
  barred : t.call = .begin → scope.Barred c →
    (∃ e, t.result = .error e) ∧ t.made = [] ∧ t.after = t.before
  /-- Only a savepoint that cannot be given up is an error after the state has moved on. -/
  failed : ∀ e, t.result = .error e → t.after = t.before ∨
    (t.call = .rollback ∧ t.after = .rolledBack ∧ ∃ name, scope.savepoint = some name ∧
      t.made = [(.plain ("ROLLBACK TO SAVEPOINT " ++ name), true),
        (.plain ("RELEASE SAVEPOINT " ++ name), false)])
  /-- A call that is allowed makes its statements up to the first that fails. -/
  made : t.before = t.call.required → (t.call = .begin → ¬ scope.Barred c) → t.made ≠ [] ∧
    t.made.map Prod.fst <+: (t.call.statements scope c.dialect).map .plain ∧
    (t.result = .ok () ↔ t.made = allMade (t.call.statements scope c.dialect)) ∧
    (t.after = t.call.target ↔ successes (t.call.decisive scope c.dialect) t.made = 1)

theorem successes_allMade (text : String) (texts : List String) :
    successes text (allMade texts) = texts.count text := by
  simp [successes, allMade, List.countP_map, List.count, Function.comp_def, Statement.plain]

theorem successes_append (text : String) (first second : List (Statement × Bool)) :
    successes text (first ++ second) = successes text first + successes text second :=
  List.countP_append

@[simp] theorem successes_failed (text : String) (st : Statement) : successes text [(st, false)] = 0 :=
  rfl

theorem decisive_notMem_leading (scope : Scope) (d : Dialect) (call : Call) :
    call.decisive scope d ∉ call.leading scope d := by
  cases call with
  | commit | rollback => simp [Call.leading]
  | begin =>
    cases savepoint : scope.savepoint with
    | some name => simp [Call.leading, savepoint]
    | none =>
      have apart : ∀ level, d.isolation? level ≠ some d.begin := by
        intro level
        cases level <;> cases d <;> decide
      simp [Call.leading, Call.decisive, savepoint, Option.bind_eq_some_iff, apart]

theorem decisive_notMem_trailing (scope : Scope) (d : Dialect) (call : Call) :
    call.decisive scope d ∉ call.trailing scope := by
  cases call with
  | begin | commit => simp [Call.trailing]
  | rollback =>
    cases savepoint : scope.savepoint with
    | none => simp [Call.trailing, savepoint]
    | some name =>
      have apart : "RELEASE SAVEPOINT " ++ name ≠ "ROLLBACK TO SAVEPOINT " ++ name := by
        intro same
        have controls := congrArg Control.ofText? same
        simp at controls
      simp [Call.trailing, Call.decisive, savepoint, apart.symm]

/-- The decisive statement is made once in a call that does not fail. -/
theorem successes_statements (scope : Scope) (d : Dialect) (call : Call) :
    successes (call.decisive scope d) (allMade (call.statements scope d)) = 1 := by
  have before := List.count_eq_zero.2 (decisive_notMem_leading scope d call)
  have after := List.count_eq_zero.2 (decisive_notMem_trailing scope d call)
  rw [successes_allMade, Call.statements, List.count_append, List.count_cons_self, before, after]

/-- What was made before the first failure is before the decisive statement. -/
theorem successes_stopped {scope : Scope} {d : Dialect} {call : Call} {done rest : List String}
    {failed : String}
    (upTo : call.leading scope d ++ [call.decisive scope d] = done ++ failed :: rest) :
    successes (call.decisive scope d) (allMade done ++ [(.plain failed, false)]) = 0 := by
  have before : done <+: call.leading scope d := by
    have length := congrArg List.length upTo
    simp only [List.length_append, List.length_cons, List.length_nil] at length
    have whole : call.leading scope d <+: done ++ failed :: rest := ⟨_, upTo⟩
    exact List.prefix_of_prefix_length_le (List.prefix_append _ _) whole (by omega)
  rw [successes_append, successes_allMade, successes_failed, Nat.add_zero, List.count_eq_zero]
  exact fun hmem => decisive_notMem_leading scope d call (before.subset hmem)

variable {scope : Scope} {c : Connection σ}

/-- The state moves on with the decisive statement, and only with it. -/
theorem Outcome.moves {t : Turn} (h : Outcome scope c t) :
    (t.after = t.before ∧ successes (t.call.decisive scope c.dialect) t.made = 0) ∨
      (t.before = t.call.required ∧ t.after = t.call.target ∧
        successes (t.call.decisive scope c.dialect) t.made = 1) := by
  cases h with
  | inactive | barred => exact .inl ⟨rfl, rfl⟩
  | stopped e free upTo => exact .inl ⟨rfl, successes_stopped upTo⟩
  | @halfway e name nested =>
    have text : Call.rollback.decisive scope c.dialect = "ROLLBACK TO SAVEPOINT " ++ name := by
      simp only [Call.decisive, nested]
    refine .inr ⟨rfl, rfl, ?_⟩
    show successes _ (allMade [_] ++ [(_, false)]) = 1
    rw [text, successes_append, successes_allMade, successes_failed, List.count_cons_self]
    rfl
  | done free => exact .inr ⟨rfl, rfl, successes_statements scope c.dialect _⟩

theorem map_fst_allMade (texts : List String) :
    (allMade texts).map Prod.fst = texts.map .plain := by
  simp [allMade, Function.comp_def]

theorem notMem_allMade (texts : List String) (st : Statement) : (st, false) ∉ allMade texts := by
  simp [allMade]

theorem required_ne_target (call : Call) : call.required ≠ call.target := by
  cases call <;> decide

/-- The statements made up to the first failure are the first of the call. -/
theorem prefix_stopped {d : Dialect} {call : Call} {done rest : List String} {failed : String}
    (upTo : call.leading scope d ++ [call.decisive scope d] = done ++ failed :: rest) :
    (allMade done ++ [(Statement.plain failed, false)]).map Prod.fst <+:
      (call.statements scope d).map .plain := by
  have whole : call.statements scope d = done ++ failed :: (rest ++ call.trailing scope) := by
    rw [Call.statements, ← List.singleton_append, ← List.append_assoc, upTo, List.append_assoc,
      List.cons_append]
  refine ⟨(rest ++ call.trailing scope).map .plain, ?_⟩
  rw [whole, List.map_append, map_fst_allMade]
  simp only [List.map_cons, List.map_nil, List.map_append, List.append_assoc, List.cons_append,
    List.nil_append]

theorem stopped_ne_allMade (done texts : List String) (failed : Statement) :
    allMade done ++ [(failed, false)] ≠ allMade texts := by
  intro same
  refine notMem_allMade texts failed ?_
  rw [← same]
  simp

/-- What is seen of a call keeps the rules. -/
theorem Outcome.lawful {t : Turn} (h : Outcome scope c t) : t.Lawful scope c := by
  cases h with
  | inactive other =>
    exact
      { moves := .inl rfl
        inactive := fun _ => ⟨rfl, rfl⟩
        barred := fun _ _ => ⟨⟨_, rfl⟩, rfl, rfl⟩
        failed := fun _ _ => .inl rfl
        made := fun allowed => absurd allowed other }
  | barred e barred =>
    exact
      { moves := .inl rfl
        inactive := fun other => absurd rfl other
        barred := fun _ _ => ⟨⟨_, rfl⟩, rfl, rfl⟩
        failed := fun _ _ => .inl rfl
        made := fun _ free => absurd barred (free rfl) }
  | @stopped call e done rest failed free upTo =>
    have result : (Except.error e : Except Error Unit) = .ok () ↔
        allMade done ++ [(.plain failed, false)] = allMade (call.statements scope c.dialect) :=
      iff_of_false (by rintro ⟨⟩) (stopped_ne_allMade _ _ _)
    have state : call.required = call.target ↔
        successes (call.decisive scope c.dialect) (allMade done ++ [(.plain failed, false)]) = 1 := by
      rw [successes_stopped upTo]
      exact iff_of_false (required_ne_target call) (by rintro ⟨⟩)
    exact
      { moves := .inl rfl
        inactive := fun other => absurd rfl other
        barred := fun begins barred => absurd barred (free begins)
        failed := fun _ _ => .inl rfl
        made := fun _ _ => ⟨by simp, prefix_stopped upTo, result, state⟩ }
  | @halfway e name nested =>
    have statements : Call.rollback.statements scope c.dialect =
        ["ROLLBACK TO SAVEPOINT " ++ name, "RELEASE SAVEPOINT " ++ name] := by
      simp [Call.statements, Call.leading, Call.decisive, Call.trailing, nested]
    obtain ⟨same, -⟩ | ⟨-, -, once⟩ := (Outcome.halfway (c := c) e nested).moves
    · cases same
    · exact
        { moves := .inr ⟨rfl, rfl⟩
          inactive := fun other => absurd rfl other
          barred := by rintro ⟨⟩
          failed := fun _ _ => .inr ⟨rfl, rfl, name, nested, rfl⟩
          made := fun _ _ => ⟨by simp, by rw [statements]; exact List.prefix_rfl,
            iff_of_false (by rintro ⟨⟩) (stopped_ne_allMade [_] _ _), iff_of_true rfl once⟩ }
  | @done call free =>
    have once := successes_statements scope c.dialect call
    exact
      { moves := .inr ⟨rfl, rfl⟩
        inactive := fun other => absurd rfl other
        barred := fun begins barred => absurd barred (free begins)
        failed := by rintro _ ⟨⟩
        made := fun _ _ => ⟨by simp [allMade, Call.statements],
          ⟨[], by rw [List.append_nil, map_fst_allMade]⟩, iff_of_true rfl rfl, iff_of_true rfl once⟩ }

/-! ## Calls one after another -/

/-- The turns that calls take, one after another, whether or not they fail. -/
def turns (scope : Scope) (c : Connection σ) (log : σ → List (Statement × Bool)) :
    List Call → Session σ → List Turn
  | [], _ => []
  | call :: rest, s => scope.turn c log call s :: scope.turns c log rest (call.run scope c s).2

/-- The session after them. -/
def serve (scope : Scope) (c : Connection σ) : List Call → Session σ → Session σ
  | [], s => s
  | call :: rest, s => scope.serve c rest (call.run scope c s).2

/-- Turns that lead from one state to another. -/
def Follows : ScopeState → List Turn → ScopeState → Prop
  | before, [], after => before = after
  | before, t :: rest, after => t.before = before ∧ Follows t.after rest after

/-- How often the decisive statement of `call` succeeded in such calls. -/
def performed (scope : Scope) (d : Dialect) (call : Call) (seen : List Turn) : Nat :=
  (seen.map fun t => if t.call = call then successes (call.decisive scope d) t.made else 0).sum

theorem performed_cons (scope : Scope) (d : Dialect) (call : Call) (t : Turn) (seen : List Turn) :
    performed scope d call (t :: seen) =
      (if t.call = call then successes (call.decisive scope d) t.made else 0) +
        performed scope d call seen := by
  rw [performed, List.map_cons, List.sum_cons]
  rfl

/-- How often it has succeeded when a scope is in a state. -/
def tally : ScopeState → Call → Nat
  | .active, .begin | .committed, .begin | .rolledBack, .begin => 1
  | .committed, .commit => 1
  | .rolledBack, .rollback => 1
  | _, _ => 0

theorem tally_target (call other : Call) :
    tally call.target other = tally call.required other + if call = other then 1 else 0 := by
  cases call <;> cases other <;> rfl

/-- In every turn the `tally` of the state grows by what succeeded. -/
theorem Outcome.tally {t : Turn} (h : Outcome scope c t) (call : Call) :
    Scope.tally t.after call = Scope.tally t.before call +
      if t.call = call then successes (call.decisive scope c.dialect) t.made else 0 := by
  rcases h.moves with ⟨unmoved, none⟩ | ⟨before, after, once⟩
  · rw [unmoved]
    split
    · rename_i same
      rw [← same, none, Nat.add_zero]
    · rfl
  · rw [before, after, tally_target]
    split
    · rename_i same
      rw [← same, once]
    · rfl

/-- Only a call that begins the scope makes the statement with which it begins. -/
theorem begin_notMem_statements (scope : Scope) (d : Dialect) {call : Call} (other : call ≠ .begin) :
    Call.begin.decisive scope d ∉ call.statements scope d := by
  intro hmem
  cases savepoint : scope.savepoint with
  | none =>
    cases call with
    | begin => exact other rfl
    | commit | rollback =>
      simp only [Call.statements, Call.leading, Call.decisive, Call.trailing, savepoint,
        Option.toList_none, List.map_nil, List.nil_append, List.mem_singleton] at hmem
      revert hmem
      cases d <;> decide
  | some name =>
    have apart : ∀ text, Control.ofText? text ≠ some (.savepoint name) →
        "SAVEPOINT " ++ name ≠ text := by
      rintro _ ne rfl
      exact ne (Control.ofText?_savepoint name)
    cases call with
    | begin => exact other rfl
    | commit =>
      simp only [Call.statements, Call.leading, Call.decisive, Call.trailing, savepoint,
        List.nil_append, List.mem_singleton] at hmem
      exact apart _ (by simp) hmem
    | rollback =>
      simp only [Call.statements, Call.leading, Call.decisive, Call.trailing, savepoint,
        Option.toList_some, List.map_cons, List.map_nil, List.nil_append, List.mem_cons,
        List.not_mem_nil, or_false] at hmem
      rcases hmem with hmem | hmem
      · exact apart _ (by simp) hmem
      · exact apart _ (by simp) hmem

theorem Turn.Lawful.begins {t : Turn} (h : t.Lawful scope c) (other : t.call ≠ .begin) :
    successes (Call.begin.decisive scope c.dialect) t.made = 0 := by
  by_cases allowed : t.before = t.call.required
  · obtain ⟨-, upTo, -, -⟩ := h.made allowed (fun begins => absurd begins other)
    refine List.countP_eq_zero.2 ?_
    intro m hm succeeded
    simp only [Bool.and_eq_true, beq_iff_eq] at succeeded
    obtain ⟨text, htext, plain⟩ := List.mem_map.1 (upTo.subset (List.mem_map_of_mem hm))
    refine begin_notMem_statements scope c.dialect other ?_
    rw [← succeeded.2, ← plain]
    exact htext
  · rw [(h.inactive allowed).2]
    rfl

/-- The life of `scope` over the `calls`. -/
structure Life (scope : Scope) (c : Connection σ) (log : σ → List (Statement × Bool))
    (calls : List Call) (s : Session σ) : Prop where
  lawful : ∀ t ∈ scope.turns c log calls s, t.Lawful scope c
  follows : Follows (s.stateOf scope.number) (scope.turns c log calls s)
    ((scope.serve c calls s).stateOf scope.number)
  /-- The turns tell all that was made. -/
  written : log (scope.serve c calls s).database =
    log s.database ++ (scope.turns c log calls s).flatMap Turn.made
  tally : ∀ call, tally ((scope.serve c calls s).stateOf scope.number) call =
    tally (s.stateOf scope.number) call + performed scope c.dialect call (scope.turns c log calls s)

section

variable {log : σ → List (Statement × Bool)} {s : Session σ}

/-- A scope leaves the state before its beginning only if the driver has transactions. -/
theorem Seen.supported {call : Call} (h : scope.Seen c log call s (scope.turn c log call s))
    (supported : s.stateOf scope.number ≠ .idle → c.driver.supportsTransactions = true)
    (begun : (call.run scope c s).2.stateOf scope.number ≠ .idle) :
    c.driver.supportsTransactions = true := by
  have lawful := h.outcome.lawful
  rcases lawful.moves with unmoved | ⟨before, after⟩
  · refine supported ?_
    rw [show s.stateOf scope.number = _ from unmoved.symm]
    exact begun
  · cases call with
    | begin =>
      by_contra unsupported
      obtain ⟨-, -, unmoved⟩ := lawful.barred rfl (.inl (Bool.eq_false_iff.2 unsupported))
      rw [after, before] at unmoved
      cases unmoved
    | commit | rollback =>
      refine supported ?_
      rw [show s.stateOf scope.number = ScopeState.active from before]
      nofun

theorem life (logs : c.driver.Logs log) (calls : List Call)
    (supported : s.stateOf scope.number ≠ .idle → c.driver.supportsTransactions = true) :
    scope.Life c log calls s := by
  induction calls generalizing s with
  | nil =>
    exact
      { lawful := nofun
        follows := rfl
        written := (List.append_nil _).symm
        tally := fun _ => rfl }
  | cons call rest ih =>
    have first := seen logs call supported
    have others := ih (first.supported supported)
    exact
      { lawful := by
          intro t ht
          rcases List.mem_cons.1 ht with rfl | ht
          · exact first.outcome.lawful
          · exact others.lawful t ht
        follows := ⟨rfl, others.follows⟩
        written := by
          show log (scope.serve c rest _).database = _
          rw [others.written, first.written, turns, List.flatMap_cons, List.append_assoc]
        tally := by
          intro other
          show Scope.tally ((scope.serve c rest _).stateOf scope.number) other = _
          rw [others.tally, turns, performed_cons, ← Nat.add_assoc]
          exact congrArg (· + _) (first.outcome.tally other) }

/-- What begins the scope is only counted in calls that begin it. -/
theorem successes_begin {seen : List Turn} (lawful : ∀ t ∈ seen, t.Lawful scope c) :
    successes (Call.begin.decisive scope c.dialect) (seen.flatMap Turn.made) =
      performed scope c.dialect .begin seen := by
  induction seen with
  | nil => rfl
  | cons t rest ih =>
    have rest := ih fun t ht => lawful t (List.mem_cons_of_mem _ ht)
    rw [List.flatMap_cons, successes_append, rest, performed_cons]
    congr 1
    split
    · rfl
    · rename_i other
      exact (lawful t List.mem_cons_self).begins other

theorem tally_begin_le (state : ScopeState) : tally state .begin ≤ 1 := by
  cases state <;> decide

theorem tally_ends_le (state : ScopeState) : tally state .commit + tally state .rollback ≤ 1 := by
  cases state <;> decide

/-- A scope that has not begun lives once, whichever `calls` are made and whichever statements fail:
every turn keeps the rules, each leads on from the one before, the state tells which decisive
statements have succeeded, the statement that begins it succeeds at most once, and so does one of
the statements that end it. -/
theorem lives_once (logs : c.driver.Logs log) (calls : List Call)
    (idle : s.stateOf scope.number = .idle) :
    scope.Life c log calls s ∧
      successes (Call.begin.decisive scope c.dialect)
        ((scope.turns c log calls s).flatMap Turn.made) ≤ 1 ∧
      performed scope c.dialect .commit (scope.turns c log calls s) +
        performed scope c.dialect .rollback (scope.turns c log calls s) ≤ 1 := by
  have lives := life logs calls fun begun => absurd idle begun
  have account : ∀ call, performed scope c.dialect call (scope.turns c log calls s) =
      tally ((scope.serve c calls s).stateOf scope.number) call := by
    intro call
    rw [lives.tally, idle]
    exact (Nat.zero_add _).symm
  refine ⟨lives, ?_, ?_⟩
  · rw [successes_begin lives.lawful, account]
    exact tally_begin_le _
  · rw [account, account]
    exact tally_ends_le _

end

/-- A driver that fails as a plan says, statement by statement. -/
def planned : Driver (List Bool) where
  all := fun _ plan => (.ok (.bare []), plan)
  run := fun _ plan =>
    (if plan.headD false then .error (.database "refused") else .ok {}, plan.tail)

def faulty : Connection (List Bool × List (Statement × Bool)) := ⟨planned.withLog, .sqlite⟩

/-- A session in which the first statement and the fourth one fail. -/
def troubled : Session (List Bool × List (Statement × Bool)) where
  database := ([true, false, false, true], [])
  outside := ⟨fun _ => 0, fun _ => .epoch, fun _ => 0⟩

/-- A scope that cannot begin at first, and whose savepoint cannot be given up at last. -/
def within : Scope := { number := 0, savepoint := some "sp" }

/-- Calls in any order. -/
def mixed : List Call := [.commit, .begin, .begin, .begin, .rollback, .commit, .rollback]

theorem within_lives_once :
    faulty.driver.Logs Prod.snd ∧ troubled.stateOf within.number = .idle ∧
    within.Life faulty Prod.snd mixed troubled ∧
    successes (Call.begin.decisive within faulty.dialect)
      ((within.turns faulty Prod.snd mixed troubled).flatMap Turn.made) ≤ 1 ∧
    within.performed faulty.dialect .commit (within.turns faulty Prod.snd mixed troubled) +
      within.performed faulty.dialect .rollback (within.turns faulty Prod.snd mixed troubled) ≤ 1 :=
  ⟨planned.withLog_logs, rfl, lives_once planned.withLog_logs mixed rfl⟩

example :
    (within.serve faulty mixed troubled).stateOf 0 = .rolledBack ∧
    (within.serve faulty mixed troubled).database.2.map (fun m => (m.1.sql, m.2)) =
      [("SAVEPOINT sp", false), ("SAVEPOINT sp", true), ("ROLLBACK TO SAVEPOINT sp", true),
        ("RELEASE SAVEPOINT sp", false)] := by
  decide +kernel

end Scope

end EntityStore
