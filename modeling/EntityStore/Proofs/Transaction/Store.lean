import EntityStore.Transaction
import Mathlib.Data.List.Basic
import Mathlib.Tactic.Common

/-!
# A database with savepoints

What a database makes of the statements that control transactions. While a transaction is open its
changes are made to a working copy, and a savepoint is a copy of the working copy under a name. A
statement that is not allowed where it comes, such as a second beginning, has no result.

The contents of the database are of any type, and what other statements do to them is a parameter.
-/

namespace EntityStore

/-! ## Statements that control transactions -/

/-- What a statement that controls a transaction does. -/
inductive Control where
  | begin
  | commit
  | rollback
  | savepoint (name : String)
  /-- Undo the changes since the innermost savepoint `name`, which stays. -/
  | rollbackTo (name : String)
  /-- Give up the innermost savepoint `name` and all within it; the changes stay. -/
  | release (name : String)
  /-- Set the isolation level of the transaction that begins next. -/
  | isolation
  deriving DecidableEq, Repr

/-- What comes after `word` at the beginning of `text`. -/
def after? (word text : String) : Option String :=
  if word.toList.isPrefixOf text.toList then some (String.ofList (text.toList.drop word.toList.length))
  else none

/-- What `text` does to a transaction, in any dialect; other statements do nothing to it. -/
def Control.ofText? (text : String) : Option Control :=
  if text ∈ Dialect.all.map Dialect.begin then some .begin
  else if text ∈ Dialect.all.map Dialect.readUncommitted then some .isolation
  else if text = "COMMIT" then some .commit
  else if text = "ROLLBACK" then some .rollback
  else if let some name := after? "SAVEPOINT " text then some (.savepoint name)
  else if let some name := after? "ROLLBACK TO SAVEPOINT " text then some (.rollbackTo name)
  else (after? "RELEASE SAVEPOINT " text).map .release

namespace Control

@[simp] theorem after?_append (word s : String) : after? word (word ++ s) = some s := by
  simp [after?, List.isPrefixOf_iff_prefix]

theorem after?_append_of_apart {word other : String} (h : ¬ word.toList <+: other.toList)
    (h' : ¬ other.toList <+: word.toList) (s : String) : after? word (other ++ s) = none := by
  unfold after?
  split
  · rename_i hprefix
    have hother : other.toList <+: (other ++ s).toList := by simp
    rcases List.prefix_or_prefix_of_prefix (List.isPrefixOf_iff_prefix.1 hprefix) hother with hp | hp
    · exact absurd hp h
    · exact absurd hp h'
  · rfl

/-- The texts that control a transaction and name no savepoint. -/
def texts : List String :=
  Dialect.all.map Dialect.begin ++ Dialect.all.map Dialect.readUncommitted ++ ["COMMIT", "ROLLBACK"]

/-- What a text does that begins with a `word` with which none of the `texts` begins. -/
theorem ofText?_word {word : String} (h : ∀ text ∈ texts, after? word text = none) (name : String) :
    ofText? (word ++ name) =
      if let some name := after? "SAVEPOINT " (word ++ name) then some (.savepoint name)
      else if let some name := after? "ROLLBACK TO SAVEPOINT " (word ++ name) then
        some (.rollbackTo name)
      else (after? "RELEASE SAVEPOINT " (word ++ name)).map .release := by
  have other : word ++ name ∉ texts := by
    intro hmem
    have none := h _ hmem
    rw [after?_append] at none
    cases none
  simp only [texts, List.mem_append, List.mem_cons, List.not_mem_nil, or_false, not_or] at other
  obtain ⟨⟨notBegin, notIsolation⟩, notCommit, notRollback⟩ := other
  rw [ofText?, if_neg notBegin, if_neg notIsolation, if_neg notCommit, if_neg notRollback]

@[simp] theorem ofText?_savepoint (name : String) :
    ofText? ("SAVEPOINT " ++ name) = some (.savepoint name) := by
  rw [ofText?_word (by decide +kernel), after?_append]

@[simp] theorem ofText?_rollbackTo (name : String) :
    ofText? ("ROLLBACK TO SAVEPOINT " ++ name) = some (.rollbackTo name) := by
  rw [ofText?_word (by decide +kernel), after?_append_of_apart (by decide) (by decide), after?_append]

@[simp] theorem ofText?_release (name : String) :
    ofText? ("RELEASE SAVEPOINT " ++ name) = some (.release name) := by
  rw [ofText?_word (by decide +kernel), after?_append_of_apart (by decide) (by decide),
    after?_append_of_apart (by decide) (by decide), after?_append]
  rfl

/-- A text does nothing to a transaction if no controlling text begins as it does. -/
theorem ofText?_apart {word : String} (h : ∀ text ∈ texts, after? word text = none)
    (apart : ∀ other ∈ ["SAVEPOINT ", "ROLLBACK TO SAVEPOINT ", "RELEASE SAVEPOINT "],
      ¬ other.toList <+: word.toList ∧ ¬ word.toList <+: other.toList) (s : String) :
    ofText? (word ++ s) = none := by
  have none : ∀ other ∈ ["SAVEPOINT ", "ROLLBACK TO SAVEPOINT ", "RELEASE SAVEPOINT "],
      after? other (word ++ s) = none := by
    intro other hother
    exact after?_append_of_apart (apart other hother).1 (apart other hother).2 s
  rw [ofText?_word h, none _ (by simp), none _ (by simp), none _ (by simp)]
  rfl

@[simp] theorem ofText?_begin (d : Dialect) : ofText? d.begin = some .begin := by
  cases d <;> decide

@[simp] theorem ofText?_readUncommitted (d : Dialect) :
    ofText? d.readUncommitted = some .isolation := by
  cases d <;> decide

@[simp] theorem ofText?_commit : ofText? "COMMIT" = some .commit := by decide

@[simp] theorem ofText?_rollback : ofText? "ROLLBACK" = some .rollback := by decide

end Control

def Statement.IsData (s : Statement) : Prop := Control.ofText? s.sql = none

instance (s : Statement) : Decidable s.IsData :=
  inferInstanceAs (Decidable (Control.ofText? s.sql = none))

/-! ## The database -/

/-- An open transaction over contents of type `γ`. -/
structure OpenTransaction (γ : Type) where
  working : γ
  /-- The savepoints, the innermost first, each with the contents when it was set. -/
  savepoints : List (String × γ) := []

/-- A database with contents of type `γ`, of which the `durable` ones stay. -/
structure Store (γ : Type) where
  durable : γ
  current : Option (OpenTransaction γ) := none

variable {γ : Type}

/-- The savepoints from the innermost one called `name` on. -/
def OpenTransaction.downTo (t : OpenTransaction γ) (name : String) : List (String × γ) :=
  t.savepoints.dropWhile fun savepoint => savepoint.1 ≠ name

namespace Store

/-- The contents as the next statement finds them. -/
def contents : Store γ → γ
  | ⟨d, none⟩ => d
  | ⟨_, some t⟩ => t.working

/-- What a controlling statement makes of a database, where it is allowed. -/
def control : Control → Store γ → Option (Store γ)
  | .isolation, ⟨d, none⟩ => some ⟨d, none⟩
  | .begin, ⟨d, none⟩ => some ⟨d, some ⟨d, []⟩⟩
  | .commit, ⟨_, some t⟩ => some ⟨t.working, none⟩
  | .rollback, ⟨d, some _⟩ => some ⟨d, none⟩
  | .savepoint name, ⟨d, some t⟩ => some ⟨d, some ⟨t.working, (name, t.working) :: t.savepoints⟩⟩
  | .rollbackTo name, ⟨d, some t⟩ =>
    match t.downTo name with
    | (name, contents) :: rest => some ⟨d, some ⟨contents, (name, contents) :: rest⟩⟩
    | [] => none
  | .release name, ⟨d, some t⟩ =>
    match t.downTo name with
    | _ :: rest => some ⟨d, some ⟨t.working, rest⟩⟩
    | [] => none
  | _, _ => none

/-- Change the contents by `f`: the working copy while a transaction is open, and else what
stays. -/
def change (f : γ → γ) : Store γ → Store γ
  | ⟨d, none⟩ => ⟨f d, none⟩
  | ⟨d, some t⟩ => ⟨d, some ⟨f t.working, t.savepoints⟩⟩

/-- What `s` makes of a database, where it is allowed. If it controls no transaction, it has its
`effect` on the contents. -/
def step (effect : Statement → γ → γ) (store : Store γ) (s : Statement) : Option (Store γ) :=
  match Control.ofText? s.sql with
  | some c => store.control c
  | none => some (store.change (effect s))

/-- What `statements` make of a database one after another, if all of them are allowed. -/
def replay (effect : Statement → γ → γ) (store : Store γ) (statements : List Statement) :
    Option (Store γ) :=
  statements.foldlM (step effect) store

section

variable (effect : Statement → γ → γ)

theorem replay_cons (store : Store γ) (s : Statement) (rest : List Statement) :
    store.replay effect (s :: rest) = (store.step effect s).bind fun next =>
      next.replay effect rest := rfl

theorem replay_append (store : Store γ) (as bs : List Statement) :
    store.replay effect (as ++ bs) = (store.replay effect as).bind fun next =>
      next.replay effect bs :=
  List.foldlM_append

/-- What a controlling statement makes of a database is what its text says. -/
theorem step_control {text : String} {c : Control} (h : Control.ofText? text = some c)
    (store : Store γ) : store.step effect (.plain text) = store.control c := by
  simp only [step, Statement.plain, h]

theorem step_change {s : Statement} (h : Control.ofText? s.sql = none) (store : Store γ) :
    store.step effect s = some (store.change (effect s)) := by
  simp only [step, h]

end

@[simp] theorem downTo_cons_self (working : γ) (name : String) (contents : γ)
    (rest : List (String × γ)) :
    (OpenTransaction.mk working ((name, contents) :: rest)).downTo name =
      (name, contents) :: rest := by
  simp [OpenTransaction.downTo]

end Store

end EntityStore
