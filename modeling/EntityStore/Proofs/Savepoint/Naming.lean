import EntityStore.Proofs.Savepoint.Course
import EntityStore.Proofs.Transaction.Life

/-!
# Savepoints named one after another

In the course of what is done in a session the scopes within others get the names of counts one
after another. Counts of which one is less than 2 ^ 64 ahead of the other do not agree in 64 bits. So
no two of the scopes have savepoints of one name, unless there are more of them than counts.
-/

namespace EntityStore

variable {σ α : Type}

namespace Savepoint

/-- A count does not agree in 64 bits with one that is not as far `ahead` as there are counts. -/
theorem counts_apart {count ahead : Nat} (later : 0 < ahead) (few : ahead < counts) :
    count % counts ≠ (count + ahead) % counts := by
  have size : counts = 18446744073709551616 := by decide
  rw [size] at few ⊢
  omega

end Savepoint

namespace Scope

/-- Scopes within others, with the names of counts one after another. -/
inductive Numbered : Nat → List Scope → Prop where
  | none (count : Nat) : Numbered count []
  | next {count random : Nat} {scope : Scope} {rest : List Scope}
    (first : scope.savepoint = some (Savepoint.name count random))
    (others : Numbered (count + 1) rest) : Numbered count (scope :: rest)

namespace Numbered

variable {count : Nat} {scopes others : List Scope}

theorem append (first : Numbered count scopes) (second : Numbered (count + scopes.length) others) :
    Numbered count (scopes ++ others) := by
  induction first with
  | none => exact second
  | next name rest ih =>
    refine .next name (ih ?_)
    -- the count has moved on by one
    rw [List.length_cons, Nat.add_comm _ 1, ← Nat.add_assoc] at second
    exact second

/-- Each of them has the name of a count less far ahead than there are `scopes`. -/
theorem ahead (numbered : Numbered count scopes) : ∀ scope ∈ scopes, ∃ place < scopes.length,
    ∃ random, scope.savepoint = some (Savepoint.name (count + place) random) := by
  induction numbered with
  | none => nofun
  | next first rest ih =>
    intro scope hscope
    rcases List.mem_cons.1 hscope with rfl | later
    · exact ⟨0, Nat.zero_lt_succ _, _, first⟩
    · obtain ⟨place, within, random, named⟩ := ih scope later
      refine ⟨place + 1, Nat.succ_lt_succ within, random, ?_⟩
      rw [named, Nat.add_comm place 1, Nat.add_assoc]

/-- No two of them have savepoints of one name. -/
theorem apart (numbered : Numbered count scopes) (few : scopes.length ≤ Savepoint.counts) :
    scopes.Pairwise fun a b => a.savepoint ≠ b.savepoint := by
  induction numbered with
  | none => exact .nil
  | next first rest ih =>
    rw [List.length_cons] at few
    refine List.pairwise_cons.2 ⟨?_, ih (Nat.le_of_succ_le few)⟩
    intro scope later same
    obtain ⟨place, within, random, named⟩ := rest.ahead scope later
    rw [first, named, Nat.add_assoc] at same
    have agree := Savepoint.counts_eq_of_name (Option.some.inj same)
    exact Savepoint.counts_apart (by omega) (by omega) agree

theorem valid (numbered : Numbered count scopes) : ∀ scope ∈ scopes, ∃ name,
    scope.savepoint = some name ∧ Identifier.isValid name false = true := by
  intro scope hscope
  obtain ⟨place, -, random, named⟩ := numbered.ahead scope hscope
  exact ⟨_, named, (Savepoint.isName_name _ _).isValid⟩

end Numbered

end Scope

namespace Course

variable {x : SessionM σ α}

/-- As many savepoints are counted as scopes are made within others. -/
theorem savepoints_eq (course : Course x) (s : Session σ) :
    (x s).2.savepoints = s.savepoints + (course.nested s).length := by
  induction course generalizing s with
  | nest => rfl
  | aside nameless => exact nameless s
  | outcome inner ih => exact ih s
  | @andThen α β x next first others ihFirst ihOthers =>
    have counted := ihFirst s
    cases answer : x s with
    | mk result s' =>
      rw [answer] at counted
      cases result with
      | ok a =>
        rw [bind_ok answer, nested_ok answer, List.length_append, ← Nat.add_assoc, ← counted]
        exact ihOthers a s'
      | error e =>
        rw [bind_error answer, nested_error answer]
        exact counted

theorem numbered (course : Course x) (s : Session σ) :
    Scope.Numbered s.savepoints (course.nested s) := by
  induction course generalizing s with
  | nest => exact .next rfl (.none _)
  | aside nameless => exact .none _
  | outcome inner ih => exact ih s
  | @andThen α β x next first others ihFirst ihOthers =>
    cases answer : x s with
    | mk result s' =>
      cases result with
      | ok a =>
        rw [nested_ok answer]
        refine (ihFirst s).append ?_
        -- the first part has moved the count on by as many as it has made scopes
        rw [← first.savepoints_eq s, answer]
        exact ihOthers a s'
      | error e =>
        rw [nested_error answer]
        exact ihFirst s

/-- What is known of the scopes within others that are made in a `course`. -/
structure Apart (course : Course x) (s : Session σ) : Prop where
  /-- None of them is missing among those that are told. -/
  counted : (x s).2.savepoints = s.savepoints + (course.nested s).length
  apart : (course.nested s).Pairwise fun a b => a.savepoint ≠ b.savepoint
  valid : ∀ scope ∈ course.nested s, ∃ name,
    scope.savepoint = some name ∧ Identifier.isValid name false = true

/-- The names of a count are the texts of that form, whatever is drawn. They are identifiers, and no
name of another count is among them. So scopes that are made by different steps of a `course` have
savepoints of different names, unless there are more of them than counts. -/
theorem savepoints_apart (course : Course x) (s : Session σ)
    (few : (course.nested s).length ≤ Savepoint.counts) :
    (∀ count < Savepoint.counts, ∀ text,
      (∃ random, Savepoint.name count random = text) ↔ Savepoint.IsName count text) ∧
    (∀ count < Savepoint.counts, ∀ other < Savepoint.counts, count ≠ other →
      ∀ random random', Savepoint.name count random ≠ Savepoint.name other random') ∧
    (∀ count random, Identifier.isValid (Savepoint.name count random) false = true) ∧
    course.Apart s := by
  have numbered := course.numbered s
  refine ⟨?_, ?_, ?_, course.savepoints_eq s, numbered.apart few, numbered.valid⟩
  · intro count within text
    have names := Savepoint.exists_name_iff count text
    rwa [Nat.mod_eq_of_lt within] at names
  · intro count within other within' apart random random' same
    have agree := Savepoint.counts_eq_of_name same
    rw [Nat.mod_eq_of_lt within, Nat.mod_eq_of_lt within'] at agree
    exact apart agree
  · intro count random
    exact (Savepoint.isName_name count random).isValid

end Course

namespace Bakery

/-- The loaves of a bakery, of which the database makes up the numbers. -/
def loaf : Entity Record where
  key := ⟨1, "Loaf"⟩
  table :=
    { name := "loaves"
      columns := [.primaryGenerated "id" .increment, { name := "kind", type := .text }] }
  toRecord := id
  ofRecord := .ok

/-- A data source whose driver fails as a plan says, statement by statement. -/
def source : DataSource (List Bool) where
  driver := Scope.planned
  registry := .empty
  options := { migrationsRun := true }

def loaves : Repository (List Bool) Record where
  connection := source.connection
  registry := source.registry
  entity := loaf
  table := loaf.table
  owner := .dataSource

/-- A migration that is made in a scope within its transaction. -/
def opening : Migration (List Bool) where
  timestamp := 1
  name := "Opening"
  up := fun c _ => Scope.transaction c fun _ => pure ()
  down := fun _ _ => pure ()

/-- Two loaves are kept, each in a scope of its own, and the first one may fail. -/
def day : SessionM (List Bool) Unit := do
  source.startWithMigrations [opening]
  source.transaction none fun _ => do
    let _ ← (Scope.transaction source.connection fun _ =>
      loaves.save (.ofList [("kind", .text "rye")])).outcome
    let scope ← source.begin none
    let _ ← loaves.upsert (.ofList [("kind", .text "oat")])
    scope.commit source.connection

def openingCourse : Course.OfMigration opening where
  up _ _ := .within fun _ => .aside (.pure _)
  down _ _ := .aside (.pure _)

def dayCourse : Course day :=
  .andThen (.startWithMigrations fun _ hm => (List.mem_singleton.1 hm).symm ▸ openingCourse)
    fun _ => .transaction fun _ =>
      .andThen (Course.within fun _ => .aside (loaves.save_nameless _)).outcome fun _ =>
        .andThen (.begin source none) fun scope =>
          .andThen (.aside (loaves.upsert_nameless _)) fun _ =>
            .aside (scope.call_nameless source.connection .commit)

/-- A session in which the savepoint of the first loaf cannot be set. -/
def morning : Session (List Bool) where
  database := [false, false, false, false, false, false, false, true]
  outside := ⟨fun use => 7 * use + 1, fun _ => .epoch, fun _ => 0⟩

/-- The name of a savepoint that was not set is not used again, and digits at the end of a name are
not taken for a part of the count. -/
theorem day_savepoints_apart :
    (dayCourse.nested morning).map Scope.savepoint =
      [some "sp_0_800000", some "sp_1_t00000", some "sp_2_010000"] ∧
    (dayCourse.nested morning).length ≤ Savepoint.counts ∧ dayCourse.Apart morning ∧
    (∃ random, Savepoint.name 11 random = "sp_11_a1b2c3") ∧
    Savepoint.name 1 1 = "sp_1_100000" ∧ Savepoint.name 11 0 = "sp_11_000000" ∧
    Savepoint.name 1 1 ≠ Savepoint.name 11 0 := by
  have few : (dayCourse.nested morning).length ≤ Savepoint.counts := by decide +kernel
  obtain ⟨texts, names, -, apart⟩ := dayCourse.savepoints_apart morning few
  refine ⟨by decide +kernel, few, apart, ?_, by decide +kernel, by decide +kernel, ?_⟩
  · have letters : ['A', '1', 'b', '2', 'C', '3'].all Char.isAlphanum = true := by decide
    exact (texts 11 (by decide) _).2 ⟨_, rfl, List.all_eq_true.1 letters, by decide +kernel⟩
  · exact names 1 (by decide) 11 (by decide) (by decide) 1 0

end Bakery

end EntityStore
