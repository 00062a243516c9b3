import EntityStore.Proofs.Migration.Executor
import EntityStore.Proofs.Migration.Structured
import Mathlib.Data.List.Sort

/-!
# Calls of an executor

Whatever fails in a sequence of calls, the history agrees with the applied migrations after every one
of them exactly if every statement succeeds that enters a migration in the history or removes it.
-/

namespace EntityStore

variable {σ γ : Type}

/-- A call that makes migrations or takes them back. -/
inductive Call where
  | executePending
  | revert (steps : Nat)
  | bootstrap
  deriving DecidableEq, Repr

def Call.run (e : Executor σ) : Call → SessionM σ (List Int)
  | executePending => e.executePending
  | revert steps => e.revert steps
  | bootstrap => e.bootstrap

/-- The session after calls, one after another, whether or not they fail. -/
def Executor.serve (e : Executor σ) : List Call → Session σ → Session σ
  | [], s => s
  | call :: rest, s => e.serve rest (call.run e s).2

theorem Executor.serve_append (e : Executor σ) (first second : List Call) (s : Session σ) :
    e.serve (first ++ second) s = e.serve second (e.serve first s) := by
  induction first generalizing s with
  | nil => rfl
  | cons call rest ih => exact ih _

namespace Account.Keeps

variable {a : Account σ γ} {e : Executor σ} (keeps : a.Keeps e.history) (performs : e.Performs a)
  (columns : e.history.table.columns = historyColumns)

include keeps performs columns

theorem call_outcome (call : Call) {s : Session σ} (settled : a.Settled s.database) :
    ∃ failures b, a.Reaches s.database (call.run e s).2.database failures b ∧
      (e.Agrees (a.durable s.database) → e.InStepOrLapsed failures (a.durable s.database) b) := by
  cases call with
  | executePending =>
    obtain ⟨result, s', failures, b, hpending, reaches, outcome⟩ :=
      executePending_outcome keeps performs columns settled
    refine ⟨failures, b, ?_, ?_⟩
    · show a.Reaches _ (e.executePending s).2.database _ _
      rw [hpending]
      exact reaches
    · intro agrees
      rcases outcome agrees with ⟨inStep, _⟩ | ⟨failed, _, m, hm, applied, unlisted⟩
      · exact .inl inStep
      · exact .inr ⟨failed, Executor.not_agrees_of_unlisted hm applied unlisted⟩
  | revert steps =>
    obtain ⟨result, s', failures, b, hrevert, reaches, _, outcome⟩ :=
      revert_outcome keeps performs columns steps settled
    refine ⟨failures, b, ?_, outcome⟩
    show a.Reaches _ (e.revert steps s).2.database _ _
    rw [hrevert]
    exact reaches
  | bootstrap =>
    obtain ⟨result, s', failures, b, hbootstrap, reaches, outcome⟩ :=
      bootstrap_outcome keeps performs columns settled
    refine ⟨failures, b, ?_, outcome⟩
    show a.Reaches _ (e.bootstrap s).2.database _ _
    rw [hbootstrap]
    exact reaches

/-- A sequence of `calls`. Once an entry has failed, the history does not agree after that call. -/
theorem serve_outcome (calls : List Call) {s : Session σ} (settled : a.Settled s.database) :
    ∃ failures b, a.Reaches s.database (e.serve calls s).database failures b ∧
      (e.Agrees (a.durable s.database) →
        ((∀ before, before <+: calls → e.Agrees (a.durable (e.serve before s).database)) ↔
          e.history.Spares failures) ∧
        (e.history.Spares failures → e.InStep failures (a.durable s.database) b)) := by
  induction calls generalizing s with
  | nil =>
    refine ⟨[], _, .refl settled, ?_⟩
    intro agrees
    refine ⟨⟨fun _ => History.spares_nil, ?_⟩, agrees.inStep⟩
    intro _ before hbefore
    obtain rfl := List.prefix_nil.1 hbefore
    exact agrees
  | cons call rest ih =>
    obtain ⟨failures, b, reaches, outcome⟩ := call_outcome keeps performs columns call settled
    obtain ⟨failures', b', reaches', outcome'⟩ := ih reaches.settled
    refine ⟨failures ++ failures', b', reaches.trans reaches', ?_⟩
    intro agrees
    rcases outcome agrees with inStep | ⟨failed, apart⟩
    · rw [reaches.durable] at outcome'
      obtain ⟨iff, inStep'⟩ := outcome' inStep.agrees
      refine ⟨⟨?_, ?_⟩, ?_⟩
      · intro all
        refine History.spares_append.2 ⟨inStep.spares, iff.1 ?_⟩
        intro before hbefore
        exact all (call :: before) (List.prefix_cons_inj call |>.2 hbefore)
      · intro spares before hbefore
        cases before with
        | nil => exact agrees
        | cons first before =>
          obtain ⟨rfl, hrest⟩ := List.cons_prefix_cons.1 hbefore
          exact iff.2 (History.spares_append.1 spares).2 before hrest
      · intro spares
        exact inStep.trans (inStep' (History.spares_append.1 spares).2)
    · have impossible : ¬ e.history.Spares (failures ++ failures') :=
        History.not_spares_append_of_left failed _
      refine ⟨⟨?_, fun spares => absurd spares impossible⟩, fun spares => absurd spares impossible⟩
      intro all
      have agreed := all [call] ⟨rest, rfl⟩
      exact absurd (reaches.durable ▸ agreed) apart

end Account.Keeps

/-- Of a history that agrees with the applied migrations at the beginning, and of a database in
which any statement may fail: the history agrees after every call exactly if no statement fails that
enters a migration or removes it. Then every migration is made only when it is not applied, and
taken back only when it is; and where the pending migrations were made without an error, all are
applied. -/
theorem Executor.agrees_iff {a : Account σ γ} {e : Executor σ} {c : Connection σ} {name : String}
    (history : History.make c name = .ok e.history) (keeps : a.Keeps e.history)
    (performs : e.Performs a) {s : Session σ} (idle : a.Idle s.database)
    (agrees : e.Agrees (a.durable s.database)) (calls : List Call) :
    ∃ failures, a.failed (e.serve calls s).database = a.failed s.database ++ failures ∧
      ((∀ before, before <+: calls → e.Agrees (a.durable (e.serve before s).database)) ↔
        ∀ st ∈ failures, ¬ e.history.IsEntry st) ∧
      ((∀ st ∈ failures, ¬ e.history.IsEntry st) →
        (a.durable s.database).Progress (a.durable (e.serve calls s).database) ∧
        ∀ before, before ++ [.executePending] <+: calls →
          (e.executePending (e.serve before s)).1.isOk → ∀ m ∈ e.migrations,
            Applied m.timestamp
              (a.durable (e.serve (before ++ [.executePending]) s).database).changes) := by
  have columns := History.columns_make history
  obtain ⟨failures, b, reaches, outcome⟩ :=
    keeps.serve_outcome performs columns calls idle.settled
  obtain ⟨iff, inStep⟩ := outcome agrees
  refine ⟨failures, reaches.failed, iff, ?_⟩
  intro spares
  refine ⟨?_, ?_⟩
  · rw [reaches.durable]
    exact (inStep spares).progress
  · intro before hbefore ok m hm
    have agreed := iff.2 spares before ((List.prefix_append _ _).trans hbefore)
    obtain ⟨_, _, reaches', _⟩ := keeps.serve_outcome performs columns before idle.settled
    obtain ⟨result, s', failures', b', hpending, reaches'', outcome'⟩ :=
      keeps.executePending_outcome performs columns reaches'.settled
    rw [hpending] at ok
    have after : (e.serve (before ++ [.executePending]) s) = s' := by
      rw [e.serve_append]
      show (e.executePending (e.serve before s)).2 = s'
      rw [hpending]
    rw [after, reaches''.durable]
    rcases outcome' agreed with ⟨inStep', all⟩ | ⟨_, error, _⟩
    · exact (inStep'.agrees m hm).2 (all ok m hm)
    · rw [ok] at error
      cases error

/-! ## A database in memory -/

/-- The contents of a database with a history and one further table. -/
structure Shelf where
  listed : List Int := []
  /-- When the further table was created and dropped, the newest change first. -/
  changes : List Change := []
  deriving DecidableEq

/-- A database with a `plan` of which of the next statements fail. -/
structure Memory where
  store : Store Shelf := ⟨{}, none⟩
  failed : List Statement := []
  plan : List Bool := []

namespace Memory

def effect (st : Statement) (contents : Shelf) : Shelf :=
  if (after? "INSERT INTO " st.sql).isSome then
    match st.params with
    | .int t :: _ => { contents with listed := t :: contents.listed }
    | _ => contents
  else if (after? "DELETE FROM " st.sql).isSome then
    match st.params with
    | .int t :: _ => { contents with listed := contents.listed.filter (· ≠ t) }
    | _ => contents
  else if (after? "CREATE TABLE users" st.sql).isSome then
    { contents with changes := .made 1 :: contents.changes }
  else if (after? "DROP TABLE users" st.sql).isSome then
    { contents with changes := .takenBack 1 :: contents.changes }
  else contents

/-- Take a statement: it fails if that is planned, or if it is not allowed. -/
def take {α : Type} (answer : Shelf → α) (st : Statement) : DatabaseM Memory α := fun m =>
  match if m.plan.head? = some true then none else m.store.step effect st with
  | some store => (.ok (answer m.store.contents), { m with store := store, plan := m.plan.tail })
  | none =>
    (.error (.database "refused"), { m with failed := m.failed ++ [st], plan := m.plan.tail })

def row (t : Int) : Record :=
  .ofList [("timestamp", .int t), ("name", .text "Users"), ("execution_time", .int 0)]

def rows (contents : Shelf) : Rows := .bare ((contents.listed.dedup.insertionSort (· ≤ ·)).map row)

/-- Every question is answered with the rows of the history. -/
def driver : Driver Memory where
  all := take rows
  run := take fun _ => {}

def history : History Memory :=
  ⟨⟨driver, .sqlite⟩, { name := "migrations", columns := historyColumns }⟩

def account : Account Memory Shelf where
  store := store
  failed := failed
  effect := effect
  books contents := ⟨contents.listed.toFinset, contents.changes⟩

theorem takes_take {α : Type} (answer : Shelf → α) (st : Statement) (m : Memory) :
    account.Takes st m (take answer st m) := by
  unfold take
  split
  · rename_i allowed
    split at allowed
    · cases allowed
    · exact ⟨allowed, rfl⟩
  · exact ⟨rfl, rfl⟩

/-- The rows are those of the listed timestamps, each once and the least first. -/
theorem lists_rows (contents : Shelf) :
    (account.books contents).Lists (contents.listed.dedup.insertionSort (· ≤ ·)) := by
  constructor
  · have sorted := List.pairwise_insertionSort (· ≤ ·) contents.listed.dedup
    have distinct : (contents.listed.dedup.insertionSort (· ≤ ·)).Nodup :=
      (List.perm_insertionSort _ _).nodup_iff.2 (List.nodup_dedup _)
    exact (sorted.and distinct).imp fun h => lt_of_le_of_ne h.1 h.2
  · intro t
    rw [List.mem_insertionSort, List.mem_dedup, account, List.mem_toFinset]

theorem effect_insert (text : String) (t : Int) (params : List Value) (contents : Shelf) :
    account.effect ⟨"INSERT INTO " ++ text, .int t :: params⟩ contents =
      { contents with listed := t :: contents.listed } := by
  simp [account, effect]

theorem effect_delete (text : String) (t : Int) (params : List Value) (contents : Shelf) :
    account.effect ⟨"DELETE FROM " ++ text, .int t :: params⟩ contents =
      { contents with listed := contents.listed.filter (· ≠ t) } := by
  have other := Control.after?_append_of_apart (by decide : ¬ "INSERT INTO ".toList <+: _)
    (by decide : ¬ "DELETE FROM ".toList <+: _) text
  simp [account, effect, other]

theorem effect_other {word : String}
    (apart : ∀ other ∈ ["INSERT INTO ", "DELETE FROM ", "CREATE TABLE users", "DROP TABLE users"],
      ¬ other.toList <+: word.toList ∧ ¬ word.toList <+: other.toList) (text : String)
    (params : List Value) (contents : Shelf) :
    account.effect ⟨word ++ text, params⟩ contents = contents := by
  have none : ∀ other ∈ ["INSERT INTO ", "DELETE FROM ", "CREATE TABLE users", "DROP TABLE users"],
      after? other (word ++ text) = none := by
    intro other hother
    exact Control.after?_append_of_apart (apart other hother).1 (apart other hother).2 text
  simp only [List.forall_mem_cons] at none
  obtain ⟨insert, delete, create, drop, -⟩ := none
  show effect _ contents = contents
  rw [effect, insert, delete, create, drop]
  rfl

theorem keeps : account.Keeps history where
  run st db := takes_take (fun _ => ({} : RunResult)) st db
  all st db := takes_take rows st db
  exec := nofun
  insert contents timestamp name now executionTime := by
    obtain ⟨text, params, eq⟩ := history.exists_insertStatement_eq timestamp name now executionTime
    rw [eq, effect_insert]
    show Books.mk (timestamp :: contents.listed).toFinset contents.changes =
      Books.mk (insert timestamp contents.listed.toFinset) contents.changes
    rw [List.toFinset_cons]
  delete contents timestamp := by
    obtain ⟨text, eq⟩ := history.exists_deleteStatement_eq timestamp
    have same : (contents.listed.filter (· ≠ timestamp)).toFinset =
        contents.listed.toFinset.erase timestamp := by
      ext t
      simp [and_comm]
    rw [eq, effect_delete]
    show Books.mk (contents.listed.filter (· ≠ timestamp)).toFinset contents.changes =
      Books.mk (contents.listed.toFinset.erase timestamp) contents.changes
    rw [same]
  create contents := by
    obtain ⟨text, eq⟩ := history.exists_createStatement_eq
    rw [eq, Statement.plain, effect_other (by decide)]
  select contents := by
    obtain ⟨text, eq⟩ := history.exists_selectStatement_eq
    rw [eq, Statement.plain, effect_other (by decide)]
  rows db answer db' h := by
    have hanswer : answer = rows db.store.contents := by
      have taken : take rows history.selectStatement db = (.ok answer, db') := h
      unfold take at taken
      split at taken
      · cases taken
        rfl
      · cases taken
    refine ⟨_, lists_rows db.store.contents, ?_⟩
    rw [hanswer]
    show List.map _ (List.map row _) = _
    rw [List.map_map]
    rfl

/-- A migration that creates a table, and drops it when it is taken back. -/
def users : Migration Memory where
  timestamp := 1
  name := "Users"
  up := structured (.plain "CREATE TABLE users (name TEXT)") fun _ =>
    (.ends (.ok ()) : Callback (account.Neutral history) Unit)
  down := structured (.plain "DROP TABLE users") fun _ =>
    (.ends (.ok ()) : Callback (account.Neutral history) Unit)

def executor : Executor Memory := ⟨history, [users], List.pairwise_singleton _ _⟩

theorem performs : executor.Performs account where
  up m hm := by
    obtain rfl := List.mem_singleton.1 hm
    apply keeps.performs_structured
    · decide
    · exact History.not_isEntry_of_take_two rfl (by decide)
    · intro contents
      rfl
  down m hm := by
    obtain rfl := List.mem_singleton.1 hm
    apply keeps.performs_structured
    · decide
    · exact History.not_isEntry_of_take_two rfl (by decide)
    · intro contents
      rfl

/-- A session at the beginning, with a `plan` of which statements fail. -/
def start (plan : List Bool) : Session Memory where
  database := { plan := plan }
  outside := ⟨fun _ => 0, fun _ => .epoch, fun _ => 0⟩

theorem history_make : History.make ⟨driver, .sqlite⟩ "migrations" = .ok executor.history :=
  History.make_migrations _

theorem agrees_start (plan : List Bool) : executor.Agrees (account.durable (start plan).database) := by
  intro m hm
  obtain rfl := List.mem_singleton.1 hm
  show Applied 1 [] ↔ (1 : Int) ∈ (∅ : Finset Int)
  decide

/-- The first transaction cannot begin. -/
def interrupted : Session Memory := start [false, false, true]

theorem interrupted_agrees :
    History.make ⟨driver, .sqlite⟩ "migrations" = .ok executor.history ∧
    account.Keeps executor.history ∧ executor.Performs account ∧
    account.Idle interrupted.database ∧ executor.Agrees (account.durable interrupted.database) ∧
    ∃ failures,
      account.failed (executor.serve [.executePending, .bootstrap] interrupted).database =
        account.failed interrupted.database ++ failures ∧
      ((∀ before, before <+: [.executePending, .bootstrap] →
          executor.Agrees (account.durable (executor.serve before interrupted).database)) ↔
        ∀ st ∈ failures, ¬ executor.history.IsEntry st) ∧
      ((∀ st ∈ failures, ¬ executor.history.IsEntry st) →
        (account.durable interrupted.database).Progress
          (account.durable (executor.serve [.executePending, .bootstrap] interrupted).database) ∧
        ∀ before, before ++ [.executePending] <+: [.executePending, .bootstrap] →
          (executor.executePending (executor.serve before interrupted)).1.isOk →
          ∀ m ∈ executor.migrations, Applied m.timestamp
            (account.durable
              (executor.serve (before ++ [.executePending]) interrupted).database).changes) := by
  have idle : account.Idle interrupted.database := rfl
  have agrees := agrees_start [false, false, true]
  exact ⟨history_make, keeps, performs, idle, agrees,
    Executor.agrees_iff history_make keeps performs idle agrees [.executePending, .bootstrap]⟩

/-- The statement fails that enters the first migration. -/
def unentered : Session Memory := start [false, false, false, false, false, true]

/-- A migration that could not be entered is made again by the next call. -/
theorem unentered_repeated :
    History.make ⟨driver, .sqlite⟩ "migrations" = .ok executor.history ∧
    account.Keeps executor.history ∧ executor.Performs account ∧
    account.Idle unentered.database ∧ executor.Agrees (account.durable unentered.database) ∧
    ¬ executor.Agrees (account.durable (executor.serve [.executePending] unentered).database) ∧
    (account.durable (executor.serve [.executePending, .executePending] unentered).database).changes =
      [.made 1, .made 1] := by
  have agrees := agrees_start [false, false, false, false, false, true]
  have ran : account.durable (executor.serve [.executePending] unentered).database =
        ⟨∅, [.made 1]⟩ ∧
      (account.durable (executor.serve [.executePending, .executePending] unentered).database).changes =
        [.made 1, .made 1] := by
    decide +kernel
  refine ⟨history_make, keeps, performs, rfl, agrees, ?_, ran.2⟩
  apply Executor.not_agrees_of_unlisted (List.mem_singleton.2 rfl)
  · rw [ran.1]
    exact .inl rfl
  · rw [ran.1]
    exact Finset.notMem_empty _

end Memory

end EntityStore
