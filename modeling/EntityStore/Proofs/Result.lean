import EntityStore.Driver
import Mathlib.Data.List.Forall2

/-!
# Steps that may fail

How a step after another one, and a list of steps, come to their result.
-/

namespace EntityStore

namespace Except

variable {ε α β : Type} {f : α → Except ε β}

theorem bind_eq_ok {x : Except ε α} {b : β} :
    (x >>= f) = .ok b ↔ ∃ a, x = .ok a ∧ f a = .ok b := by
  cases x with
  | error e => simp [bind, Except.bind]
  | ok a => simp [bind, Except.bind]

theorem mapM_eq_ok {as : List α} {bs : List β} (h : as.mapM f = .ok bs) :
    List.Forall₂ (fun a b => f a = .ok b) as bs := by
  induction as generalizing bs with
  | nil =>
    cases h
    exact .nil
  | cons a as ih =>
    rw [List.mapM_cons, bind_eq_ok] at h
    obtain ⟨b, hb, h⟩ := h
    obtain ⟨bs, hbs, h⟩ := bind_eq_ok.1 h
    cases h
    exact .cons hb (ih hbs)

theorem mapM_ok {as : List α} {bs : List β} (each : List.Forall₂ (fun a b => f a = .ok b) as bs) :
    as.mapM f = .ok bs := by
  induction each with
  | nil => rfl
  | cons first _ ih =>
    rw [List.mapM_cons, first, ih]
    rfl

@[simp] theorem isOk_map {g : α → β} {x : Except ε α} : (x.map g).isOk = x.isOk := by
  cases x <;> rfl

end Except

section

variable {α β τ : Type}

/-- Where the first of two steps has a result, the second one goes on from it. -/
theorem bind_ok {x : ExceptT Error (StateM τ) α} {f : α → ExceptT Error (StateM τ) β} {s s' : τ}
    {a : α} (h : x s = (.ok a, s')) : (x >>= f) s = f a s' := by
  show (match x s with | (r, s') => (ExceptT.bindCont f r : StateM τ (Except Error β)) s') = _
  rw [h]
  rfl

/-- Where the first of two steps fails, both do. -/
theorem bind_error {x : ExceptT Error (StateM τ) α} {f : α → ExceptT Error (StateM τ) β} {s s' : τ}
    {e : Error} (h : x s = (.error e, s')) : (x >>= f) s = (.error e, s') := by
  show (match x s with | (r, s') => (ExceptT.bindCont f r : StateM τ (Except Error β)) s') = _
  rw [h]
  rfl

/-- Where two steps have a result, the first one has one from which the second goes on. -/
theorem exists_of_bind_ok {x : ExceptT Error (StateM τ) α} {f : α → ExceptT Error (StateM τ) β}
    {s s' : τ} {b : β} (h : (x >>= f) s = (.ok b, s')) :
    ∃ a s₁, x s = (.ok a, s₁) ∧ f a s₁ = (.ok b, s') := by
  cases first : x s with
  | mk result s₁ =>
    cases result with
    | error e =>
      rw [bind_error first] at h
      cases h
    | ok a =>
      rw [bind_ok first] at h
      exact ⟨a, s₁, rfl, h⟩

/-- Where what follows is only another form of the result, the step is done once. -/
theorem bind_pure_map {x : ExceptT Error (StateM τ) α} {f : α → β} (s : τ) :
    (x >>= fun a => pure (f a)) s = ((x s).1.map f, (x s).2) := by
  cases answer : x s with
  | mk result s' =>
    cases result with
    | ok a => exact bind_ok answer
    | error e => exact bind_error answer

end

theorem DatabaseM.lift_apply {σ α : Type} (result : Except Error α) (db : σ) :
    (result : DatabaseM σ α) db = (result, db) := rfl

/-- Checks one after another change nothing. -/
theorem DatabaseM.mapM_apply {σ α β : Type} (f : β → Except Error α) (bs : List β) (db : σ) :
    (bs.mapM fun b => (f b : DatabaseM σ α)) db = (bs.mapM f, db) := by
  induction bs with
  | nil => rfl
  | cons b bs ih =>
    rw [List.mapM_cons, List.mapM_cons]
    cases first : f b with
    | error e => rfl
    | ok a =>
      rw [bind_ok (DatabaseM.lift_apply (.ok a) db), bind_pure_map, ih]
      cases bs.mapM f <;> rfl

/-- Steps that have results one by one have all of them together. -/
theorem DatabaseM.mapM_forall₂ {σ α β : Type} {f : β → Except Error α} {bs : List β} {as : List α}
    (each : List.Forall₂ (fun b a => f b = .ok a) bs as) (db : σ) :
    (bs.mapM fun b => (f b : DatabaseM σ α)) db = (.ok as, db) := by
  rw [mapM_apply, Except.mapM_ok each]

end EntityStore
