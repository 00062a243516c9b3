import Mathlib.Data.List.Nodup
import Mathlib.Tactic.Common

/-!
# Lists of members with keys

A member is merged into a list by its key: the member that has the key already is changed at its
place, and if there is none a new one goes to the end. All other members keep their places, and keys
that were distinct stay distinct.
-/

namespace EntityStore

variable {α β κ : Type} [DecidableEq κ]

/-- The members with `change` applied to the first one of the key `k`, or `new` put behind them. -/
def merged (key : α → κ) (k : κ) (new : α) (change : α → α) : List α → List α
  | [] => [new]
  | a :: rest => if key a = k then change a :: rest else a :: merged key k new change rest

section

variable {key : α → κ} {k : κ} {new : α} {change : α → α} {members : List α}

theorem merged_of_notMem (absent : k ∉ members.map key) :
    merged key k new change members = members ++ [new] := by
  induction members with
  | nil => rfl
  | cons a rest ih =>
    rw [List.map_cons, List.mem_cons, not_or] at absent
    have other : key a ≠ k := fun same => absent.1 same.symm
    rw [merged, if_neg other, ih absent.2, List.cons_append]

theorem merged_of_getElem? (distinct : (members.map key).Nodup) {i : Nat} {a : α}
    (place : members[i]? = some a) (named : key a = k) :
    merged key k new change members = members.set i (change a) := by
  induction members generalizing i with
  | nil => cases place
  | cons b rest ih =>
    obtain ⟨once, distinct⟩ := List.nodup_cons.1 distinct
    cases i with
    | zero =>
      rw [List.getElem?_cons_zero] at place
      cases place
      rw [merged, if_pos named, List.set_cons_zero]
    | succ i =>
      rw [List.getElem?_cons_succ] at place
      have later : k ∈ rest.map key := List.mem_map.2 ⟨a, List.mem_of_getElem? place, named⟩
      have other : key b ≠ k := fun same => once (same ▸ later)
      rw [merged, if_neg other, ih distinct place, List.set_cons_succ]

/-- What merging leaves as it was: the members of other keys, in their order. -/
theorem filter_merged (fresh : key new = k) (keeps : ∀ a, key a = k → key (change a) = k) :
    (merged key k new change members).filter (fun a => key a ≠ k) =
      members.filter (fun a => key a ≠ k) := by
  induction members with
  | nil => simp [merged, fresh]
  | cons a rest ih =>
    by_cases named : key a = k
    · rw [merged, if_pos named]
      simp [named, keeps a named]
    · rw [merged, if_neg named]
      simpa [named] using ih

theorem map_merged (fresh : key new = k) (keeps : ∀ a, key a = k → key (change a) = k) :
    (merged key k new change members).map key =
      if k ∈ members.map key then members.map key else members.map key ++ [k] := by
  induction members with
  | nil => simp [merged, fresh]
  | cons a rest ih =>
    by_cases named : key a = k
    · rw [merged, if_pos named, List.map_cons, keeps a named, List.map_cons, named,
        if_pos List.mem_cons_self]
    · have other : k ≠ key a := fun same => named same.symm
      rw [merged, if_neg named, List.map_cons, ih, List.map_cons]
      by_cases later : k ∈ rest.map key
      · rw [if_pos later, if_pos (List.mem_cons_of_mem _ later)]
      · have absent : k ∉ key a :: rest.map key := List.not_mem_cons_of_ne_of_not_mem other later
        rw [if_neg later, if_neg absent, List.cons_append]

theorem nodup_merged (fresh : key new = k) (keeps : ∀ a, key a = k → key (change a) = k)
    (distinct : (members.map key).Nodup) :
    ((merged key k new change members).map key).Nodup := by
  rw [map_merged fresh keeps]
  split
  · exact distinct
  · rename_i absent
    rw [← List.concat_eq_append]
    exact distinct.concat absent

variable (key k new change) in
/-- A member is found under its key, and the others as before. -/
theorem find?_merged (fresh : key new = k) (keeps : ∀ a, key a = k → key (change a) = k) (other : κ) :
    (merged key k new change members).find? (fun a => key a = other) =
      if other = k then some ((members.find? fun a => key a = k).elim new change)
      else members.find? fun a => key a = other := by
  induction members with
  | nil =>
    by_cases own : other = k
    · rw [if_pos own, merged, List.find?_cons_of_pos (by simp [fresh, own])]
      rfl
    · have unlike : ¬ key new = other := fun same => own (same.symm.trans fresh)
      rw [if_neg own, merged, List.find?_cons_of_neg (by simpa using unlike)]
  | cons a rest ih =>
    by_cases named : key a = k
    · rw [merged, if_pos named]
      by_cases own : other = k
      · rw [if_pos own, List.find?_cons_of_pos (by simp [keeps a named, own]),
          List.find?_cons_of_pos (by simpa using named)]
        rfl
      · have changed : ¬ key (change a) = other := fun same => own (same.symm.trans (keeps a named))
        have unlike : ¬ key a = other := fun same => own (same.symm.trans named)
        rw [if_neg own, List.find?_cons_of_neg (by simpa using changed),
          List.find?_cons_of_neg (by simpa using unlike)]
    · have skipped : (a :: rest).find? (fun a => key a = k) = rest.find? fun a => key a = k :=
        List.find?_cons_of_neg (by simpa using named)
      rw [merged, if_neg named, skipped]
      by_cases first : key a = other
      · have unlike : ¬ other = k := fun same => named (first.trans same)
        rw [if_neg unlike, List.find?_cons_of_pos (by simpa using first),
          List.find?_cons_of_pos (by simpa using first)]
      · rw [List.find?_cons_of_neg (by simpa using first), ih,
          List.find?_cons_of_neg (by simpa using first)]

theorem find?_eq_some_iff_mem (distinct : (members.map key).Nodup) {a : α} :
    members.find? (fun a => key a = k) = some a ↔ a ∈ members ∧ key a = k := by
  constructor
  · intro found
    have named := List.find?_some found
    exact ⟨List.mem_of_find?_eq_some found, by simpa using named⟩
  · rintro ⟨member, named⟩
    induction members with
    | nil => cases member
    | cons b rest ih =>
      obtain ⟨once, distinct⟩ := List.nodup_cons.1 distinct
      rcases List.mem_cons.1 member with rfl | later
      · exact List.find?_cons_of_pos (by simpa using named)
      · have other : key b ≠ k := by
          rintro rfl
          exact once (List.mem_map.2 ⟨a, later, named⟩)
        rw [List.find?_cons_of_neg (by simpa using other), ih distinct later]

/-- Members with distinct keys are told by what is found under each key, but for their order. -/
theorem perm_of_find? {members' : List α} (distinct : (members.map key).Nodup)
    (distinct' : (members'.map key).Nodup)
    (same : ∀ k, members.find? (fun a => key a = k) = members'.find? fun a => key a = k) :
    members.Perm members' := by
  refine (List.perm_ext_iff_of_nodup (distinct.of_map _) (distinct'.of_map _)).2 ?_
  intro a
  have here := find?_eq_some_iff_mem (k := key a) distinct (a := a)
  have there := find?_eq_some_iff_mem (k := key a) distinct' (a := a)
  rw [same] at here
  rw [eq_self, and_true] at here there
  exact here.symm.trans there

end

/-! ## Entries -/

section

variable {k : κ} {entries : List (κ × β)}

theorem lookup_entry (k : κ) (entry : κ × β) (rest : List (κ × β)) :
    (entry :: rest).lookup k = if k = entry.1 then some entry.2 else rest.lookup k := by
  rw [List.lookup_cons]
  split
  · rename_i same
    rw [if_pos (beq_iff_eq.1 same)]
  · rename_i other
    rw [if_neg (by simpa using other)]

theorem lookup_eq_find? (k : κ) (entries : List (κ × β)) :
    entries.lookup k = (entries.find? fun entry => entry.1 = k).map Prod.snd := by
  induction entries with
  | nil => rfl
  | cons entry rest ih =>
    rw [lookup_entry]
    by_cases first : k = entry.1
    · rw [if_pos first, List.find?_cons_of_pos (by simp [first])]
      rfl
    · have other : ¬ entry.1 = k := fun same => first same.symm
      rw [if_neg first, List.find?_cons_of_neg (by simpa using other), ih]

/-- An entry is found under its key, and the others as before. -/
theorem lookup_merged (k : κ) (new : β) (change : β → β) (entries : List (κ × β)) (other : κ) :
    (merged Prod.fst k (k, new) (fun entry => (k, change entry.2)) entries).lookup other =
      if other = k then some (((entries.lookup k).map change).getD new) else entries.lookup other := by
  rw [lookup_eq_find?, lookup_eq_find?, lookup_eq_find?,
    find?_merged Prod.fst k (k, new) (fun entry => (k, change entry.2)) rfl fun _ _ => rfl]
  split
  · cases entries.find? fun entry => entry.1 = k <;> rfl
  · rfl

end

end EntityStore
