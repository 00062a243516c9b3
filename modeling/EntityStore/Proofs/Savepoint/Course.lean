import EntityStore.Proofs.Migration.Declaration
import EntityStore.Proofs.Migration.Executor
import EntityStore.Proofs.Savepoint.Name
import EntityStore.Proofs.Transaction.Program
import EntityStore.Repository

/-!
# The course of what is done in a session

Whatever is done in a session is put together from steps: one makes a scope within another one, and
takes the next count for the name of its savepoint, and no other changes the count. Everything that
a data source, a scope, a repository or an executor of migrations does is put together so, as far as
what it is given to do is.
-/

namespace EntityStore

variable {σ α β : Type}

/-! ## Steps that name no savepoint -/

/-- Nothing is counted as a new savepoint. -/
def Nameless (x : SessionM σ α) : Prop := ∀ s, (x s).2.savepoints = s.savepoints

namespace Nameless

theorem pure (a : α) : Nameless (pure a : SessionM σ α) := fun _ => rfl

theorem result (result : Except Error α) : Nameless (result : SessionM σ α) := fun _ => rfl

theorem ofExcept (result : Except Error α) :
    Nameless (MonadExcept.ofExcept result : SessionM σ α) := by
  intro s
  rw [SessionM.ofExcept_apply]

theorem atDatabase (x : DatabaseM σ α) : Nameless (SessionM.atDatabase x) := fun _ => rfl

theorem randoms (count : Nat) : Nameless (SessionM.randoms count : SessionM σ (Nat → Nat)) :=
  fun _ => rfl

theorem now : Nameless (SessionM.now : SessionM σ Calendar.Instant) := fun _ => rfl

theorem stopwatch : Nameless (SessionM.stopwatch : SessionM σ Nat) := fun _ => rfl

theorem bind {x : SessionM σ α} {next : α → SessionM σ β} (first : Nameless x)
    (others : ∀ a, Nameless (next a)) : Nameless (x >>= next) := by
  intro s
  have started := first s
  cases answer : x s with
  | mk result s' =>
    rw [answer] at started
    cases result with
    | ok a =>
      rw [bind_ok answer]
      exact (others a s').trans started
    | error e =>
      rw [bind_error answer]
      exact started

end Nameless

section

variable (scope : Scope) (c : Connection σ)

theorem Scope.call_nameless (call : Call) : Nameless (call.run scope c) :=
  fun s => (scope.run_called c call s).savepoints

theorem Scope.finish_nameless (result : Except Error α) : Nameless (scope.finish c result) := by
  intro s
  rw [scope.finish_session]
  exact scope.call_nameless c _ s

theorem Scope.root_nameless (isolation : Option IsolationLevel) (strict : Bool) :
    Nameless (Scope.root isolation strict : SessionM σ Scope) := fun _ => rfl

end

theorem Table.insertRows_nameless (t : Table) (c : Connection σ) (rows : List Record) :
    Nameless (t.insertRows c rows) := by
  unfold insertRows
  split
  · exact .pure _
  · exact .bind (.randoms _) fun _ => .bind (.result _) fun _ => .bind (.atDatabase _) fun _ =>
      .pure _

namespace Repository

variable (r : Repository σ α) (member : α)

theorem save_nameless : Nameless (r.save member) :=
  .bind (r.table.insertRows_nameless r.connection _) fun _ => .result _

theorem upsert_nameless : Nameless (r.upsert member) :=
  .bind (.result _) fun _ => .bind (.randoms _) fun _ => .bind (.result _) fun _ =>
    .bind (.atDatabase _) fun _ => .result _

end Repository

theorem History.insert_nameless (h : History σ) (timestamp : Int) (name : String) (elapsed : Int) :
    Nameless (h.insert timestamp name elapsed) :=
  .bind .now fun _ => .bind (.atDatabase _) fun _ => .pure _

/-! ## Courses -/

/-- How something is done in a session: scopes are made within others, and nothing else names a
savepoint. -/
inductive Course {σ : Type} : {α : Type} → SessionM σ α → Type 1 where
  | nest : Course Scope.nested
  /-- Statements, the beginning and the end of a scope, and whatever others do in between. -/
  | aside {α : Type} {x : SessionM σ α} (nameless : Nameless x) : Course x
  | andThen {α β : Type} {x : SessionM σ α} {next : α → SessionM σ β} (first : Course x)
    (others : ∀ a, Course (next a)) : Course (x >>= next)
  | outcome {α : Type} {x : SessionM σ α} (inner : Course x) : Course x.outcome

/-- The scopes that are made within others, the earliest first. -/
def Course.nested {α : Type} {x : SessionM σ α} : Course x → Session σ → List Scope
  | nest, s => (Scope.nested s).1.toOption.toList
  | aside _, _ => []
  | @andThen _ _ _ x _ first others, s => first.nested s ++ match x s with
    | (.ok a, s') => (others a).nested s'
    | (.error _, _) => []
  | outcome inner, s => inner.nested s

namespace Course

variable {x : SessionM σ α} {next : α → SessionM σ β} {first : Course x}
  {others : ∀ a, Course (next a)} {s s' : Session σ}

theorem nested_ok {a : α} (answer : x s = (.ok a, s')) :
    (first.andThen others).nested s = first.nested s ++ (others a).nested s' := by
  rw [nested, answer]

theorem nested_error {e : Error} (answer : x s = (.error e, s')) :
    (first.andThen others).nested s = first.nested s := by
  rw [nested, answer]
  exact List.append_nil _

end Course

/-! ## The courses of what is offered -/

namespace Course

section

variable {scope : Scope} {c : Connection σ} {body : Scope → SessionM σ α}

/-- Where a check fails nothing follows it. -/
def check {result : Except Error α} {next : α → SessionM σ β}
    (others : ∀ a, result = .ok a → Course (next a)) : Course ((result : SessionM σ α) >>= next) :=
  match result, others with
  | .ok a, others => others a rfl
  | .error _, _ => .aside fun _ => rfl

def choose {p : Prop} [decidable : Decidable p] {x y : SessionM σ α} (holds : p → Course x)
    (fails : ¬ p → Course y) : Course (if p then x else y) :=
  match decidable with
  | .isTrue h => holds h
  | .isFalse h => fails h

def run (inner : Course (body scope)) : Course (scope.run c body) :=
  .andThen (.aside (scope.call_nameless c .begin)) fun _ => .andThen inner.outcome fun result =>
    .aside (scope.finish_nameless c result)

def within (inner : ∀ scope, Course (body scope)) : Course (Scope.transaction c body) :=
  .andThen .nest fun scope => (inner scope).run

/-- Only where the data source tracks an active scope is the next one made within another. -/
def begin (ds : DataSource σ) (isolation : Option IsolationLevel) : Course (ds.begin isolation) :=
  have tracked (scope : Scope) : Nameless (ds.beginTracked scope) :=
    .bind (scope.call_nameless ds.connection .begin) fun _ => .bind (fun _ => rfl) fun _ =>
      .pure scope
  .andThen (.aside fun _ => rfl) fun _ => .andThen (.aside fun _ => rfl) fun session =>
    match session.openScopes with
    | [] => .andThen (.aside (Scope.root_nameless _ _)) fun scope => .aside (tracked scope)
    | _ :: _ => .andThen .nest fun scope => .aside (tracked scope)

def transaction {ds : DataSource σ} {isolation : Option IsolationLevel}
    (inner : ∀ scope, Course (body scope)) : Course (ds.transaction isolation body) :=
  .andThen (begin ds isolation) fun scope => .andThen (inner scope).outcome fun result =>
    .andThen (outcome (.aside (scope.finish_nameless ds.connection result))) fun _ =>
      .andThen (.aside fun _ => rfl) fun _ => .aside (.ofExcept _)

end

/-- The courses of what `m` does and of what takes it back. -/
structure OfMigration (m : Migration σ) where
  up : ∀ c scope, Course (m.up c scope)
  down : ∀ c scope, Course (m.down c scope)

def runTimed {c : Connection σ} {body : Connection σ → Scope → SessionM σ Unit}
    (inner : ∀ scope, Course (body c scope)) : Course (runTimed c body) :=
  .andThen (.aside .stopwatch) fun _ => .andThen (.aside (Scope.root_nameless _ _)) fun scope =>
    .andThen (inner scope).run fun _ => .andThen (.aside .stopwatch) fun _ => .aside (.pure _)

section

variable {e : Executor σ}

def runUp : (migrations : List (Migration σ)) → (∀ m ∈ migrations, OfMigration m) →
    Course (e.runUp migrations)
  | [], _ => .aside (.pure _)
  | m :: rest, bodies =>
    .andThen (runTimed ((bodies m List.mem_cons_self).up e.connection)) fun elapsed =>
      .andThen (.aside (e.history.insert_nameless m.timestamp m.name elapsed)) fun _ =>
        .andThen (runUp rest fun other hother => bodies other (List.mem_cons_of_mem m hother))
          fun _ => .aside (.pure _)

def executePending (bodies : ∀ m ∈ e.migrations, OfMigration m) : Course e.executePending :=
  .andThen (.aside (.atDatabase _)) fun _ =>
    runUp _ fun m hm => bodies m (List.mem_of_mem_filter hm)

def runDown (bodies : ∀ m ∈ e.migrations, OfMigration m) :
    (executed : List ExecutedMigration) → Course (e.runDown executed)
  | [] => .aside (.pure _)
  | _ :: rest =>
    .check fun m found =>
      have declared : m ∈ e.migrations := (Executor.declared_eq_ok found).1
      .andThen (runTimed ((bodies m declared).down e.connection)) fun _ =>
        .andThen (.aside (.atDatabase _)) fun _ => .andThen (runDown bodies rest) fun _ =>
          .aside (.pure _)

def revert (bodies : ∀ m ∈ e.migrations, OfMigration m) (steps : Nat) : Course (e.revert steps) :=
  choose (fun _ => .aside (.pure _)) fun _ =>
    .andThen (.aside (.atDatabase _)) fun _ => runDown bodies _

def bootstrap (bodies : ∀ m ∈ e.migrations, OfMigration m) : Course e.bootstrap :=
  .andThen (executePending bodies).outcome fun
    | .ok _ => .aside (.pure _)
    | .error _ => .andThen (revert bodies 1).outcome fun _ => .aside (.result (.error _))

end

def startWithMigrations {ds : DataSource σ} {migrations : List (Migration σ)}
    (bodies : ∀ m ∈ migrations, OfMigration m) : Course (ds.startWithMigrations migrations) :=
  .andThen (.aside (.atDatabase _)) fun _ => choose
    (fun _ => .check fun _ made =>
      .andThen (bootstrap fun m hm => bodies m ((Executor.ofDataSource_migrations made m).1 hm))
        fun _ => .aside (.pure _))
    fun _ => .aside (.pure _)

end Course

end EntityStore
