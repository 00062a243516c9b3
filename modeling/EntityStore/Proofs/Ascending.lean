import Mathlib.Data.List.Sort

/-!
# Lists in the order of numbers

A list whose members ascend strictly by a number of each of them is determined by which members it
has.
-/

namespace EntityStore

variable {α : Type} {key : α → Int}

/-- The `key` ascends strictly along `members`. -/
def Ascending (key : α → Int) (members : List α) : Prop :=
  members.Pairwise fun a b => key a < key b

theorem Ascending.of_nodup {members : List α} (sorted : members.Pairwise fun a b => key a ≤ key b)
    (distinct : (members.map key).Nodup) : Ascending key members := by
  have apart : members.Pairwise fun a b => key a ≠ key b := List.pairwise_map.1 distinct
  exact (sorted.and apart).imp fun h => lt_of_le_of_ne h.1 h.2

theorem Ascending.nodup {members : List α} (ascending : Ascending key members) :
    (members.map key).Nodup := by
  have apart : members.Pairwise fun a b => key a ≠ key b := ascending.imp fun h => ne_of_lt h
  exact List.pairwise_map.2 apart

/-- Members with distinct keys can be brought in ascending order. -/
theorem exists_ascending {members : List α} (distinct : (members.map key).Nodup) :
    ∃ sorted : List α, sorted.Perm members ∧ Ascending key sorted := by
  have perm := List.perm_insertionSort (fun a b => key a ≤ key b) members
  refine ⟨_, perm, .of_nodup ?_ ((perm.map key).nodup_iff.2 distinct)⟩
  have total : Std.Total fun a b : α => key a ≤ key b := ⟨fun a b => le_total (key a) (key b)⟩
  have trans : IsTrans α fun a b => key a ≤ key b := ⟨fun _ _ _ => le_trans⟩
  exact List.pairwise_insertionSort _ members

/-- Ascending members are determined by which members they are. -/
theorem Ascending.unique {first second : List α} (hfirst : Ascending key first)
    (hsecond : Ascending key second) (perm : first.Perm second) : first = second := by
  refine List.Perm.eq_of_pairwise ?_ hfirst hsecond perm
  intro a b _ _ less greater
  exact absurd greater (lt_asymm less)

section

variable {front others : List α} {last added : α} (perm : (front ++ [last]).Perm (others ++ [added]))

include perm

/-- What stands before `last` are the `others`, to which `added` was added, if and only if `last` is
`added`. -/
theorem front_perm_iff : front.Perm others ↔ last = added := by
  constructor
  · intro same
    have lasts : [last].Perm [added] :=
      (List.perm_append_left_iff others).1 ((same.symm.append_right _).trans perm)
    exact List.singleton_perm_singleton.1 lasts
  · rintro rfl
    exact (List.perm_append_right_iff _).1 perm

/-- The `last` member is the one that was `added` to `others` if and only if those have lesser
keys. -/
theorem Ascending.last_eq_iff (ascending : Ascending key (front ++ [last])) :
    last = added ↔ ∀ a ∈ others, key a < key added := by
  obtain ⟨-, -, least⟩ := List.pairwise_append.1 ascending
  constructor
  · intro equal a ha
    have among : a ∈ front := ((front_perm_iff perm).2 equal).mem_iff.2 ha
    exact equal ▸ least a among last (List.mem_singleton_self last)
  · intro greatest
    have among : added ∈ front ++ [last] := perm.mem_iff.2 (by simp)
    have known : last ∈ others ++ [added] := perm.mem_iff.1 (by simp)
    rcases List.mem_append.1 known with other | known
    · rcases List.mem_append.1 among with before | among
      · exact absurd (greatest last other)
          (lt_asymm (least added before last (List.mem_singleton_self last)))
      · exact (List.mem_singleton.1 among).symm
    · exact List.mem_singleton.1 known

end

end EntityStore
