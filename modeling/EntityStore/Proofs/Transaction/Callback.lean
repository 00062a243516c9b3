import EntityStore.Proofs.Transaction.Session

/-!
# What is done in a scope

A callback is run in a scope: it makes statements and opens further scopes, one after another, and
what it does next may depend on the answers. It ends with a result or an error, and whether the error
of a scope within it ends it, too, is its own choice.

Which statements a callback may make and in which ways it opens scopes are parameters.
-/

namespace EntityStore

/-- What is done in a scope, by statements of which `P` holds. -/
inductive Callback (P : Statement → Prop) (ω : Type) where
  | ends (result : Except Error Unit)
  | execute (s : Statement) (allowed : P s) (next : Except Error RunResult → Callback P ω)
  | query (s : Statement) (allowed : P s) (next : Except Error (List Record) → Callback P ω)
  /-- Open a scope, and do something in it. -/
  | scope (opening : ω) (body : Callback P ω) (next : Except Error Unit → Callback P ω)

namespace Callback

variable {P : Statement → Prop} {ω σ : Type}

/-- Run a callback, if `enter` is how something is done in a scope that is opened. -/
def run (c : Connection σ) (enter : ω → SessionM σ Unit → SessionM σ Unit) :
    Callback P ω → SessionM σ Unit
  | ends result => MonadExcept.ofExcept result
  | execute s _ next => do
    let answer ← (SessionM.atDatabase (c.execute s.sql s.params)).outcome
    (next answer).run c enter
  | query s _ next => do
    let answer ← (SessionM.atDatabase (c.query s.sql s.params)).outcome
    (next answer).run c enter
  | scope opening body next => do
    let answer ← (enter opening (body.run c enter)).outcome
    (next answer).run c enter

/-! ## Atomic blocks -/

/-- The statements `made` in a scope as they are seen around it: if it ends with an error, none of
them stays. -/
def within (result : Except Error Unit) (made : List (Statement × Bool)) : List (Statement × Bool) :=
  made.map fun s => (s.1, s.2 && result.isOk)

/-- What a callback does where no statement fails, scopes being atomic blocks: how it ends, and
which statements it makes, each with whether all scopes that were opened around it ended with a
result. -/
inductive Happens : Callback P ω → Except Error Unit → List (Statement × Bool) → Prop where
  /-- At the end, nothing more is made. -/
  | ends (result : Except Error Unit) : Happens (ends result) result []
  /-- A statement is made in the scope of the callback itself. -/
  | execute {s : Statement} {allowed : P s} {next : Except Error RunResult → Callback P ω}
      (answer : RunResult) {result : Except Error Unit} {made : List (Statement × Bool)}
      (h : Happens (next (.ok answer)) result made) :
      Happens (execute s allowed next) result ((s, true) :: made)
  /-- So is a question. -/
  | query {s : Statement} {allowed : P s} {next : Except Error (List Record) → Callback P ω}
      (answer : List Record) {result : Except Error Unit} {made : List (Statement × Bool)}
      (h : Happens (next (.ok answer)) result made) :
      Happens (query s allowed next) result ((s, true) :: made)
  /-- What is made in a scope stays if the scope ends with a result. -/
  | scope {opening : ω} {body : Callback P ω} {next : Except Error Unit → Callback P ω}
      {inner result : Except Error Unit} {first made : List (Statement × Bool)}
      (hbody : Happens body inner first) (hnext : Happens (next inner) result made) :
      Happens (scope opening body next) result (within inner first ++ made)

def kept (made : List (Statement × Bool)) : List Statement := (made.filter Prod.snd).map Prod.fst

@[simp] theorem kept_append (as bs : List (Statement × Bool)) :
    kept (as ++ bs) = kept as ++ kept bs := by
  simp [kept]

@[simp] theorem kept_within_ok (u : Unit) (made : List (Statement × Bool)) :
    kept (within (.ok u) made) = kept made := by
  simp [kept, within, Except.isOk, Except.toBool]

@[simp] theorem kept_within_error (e : Error) (made : List (Statement × Bool)) :
    kept (within (.error e) made) = [] := by
  simp [kept, within, Except.isOk, Except.toBool]

@[simp] theorem map_fst_within (result : Except Error Unit) (made : List (Statement × Bool)) :
    (within result made).map Prod.fst = made.map Prod.fst := by
  simp [within, Function.comp_def]

end Callback

end EntityStore
