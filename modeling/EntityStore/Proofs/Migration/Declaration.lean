import EntityStore.Migration.Executor
import EntityStore.Proofs.Ascending
import EntityStore.Proofs.Transaction.Session
import Mathlib.Order.Bounds.Defs

/-!
# Declared migrations

Migrations are declared in any order. An executor of them exists if and only if no two have the same
timestamp, and it has them in the order of their timestamps, so that it is the same however they
were declared. So is the error where there is none: it names the least of the repeated timestamps.
-/

namespace EntityStore

variable {σ : Type}

/-! ## Repeated numbers -/

theorem firstRepeated?_of_nodup {numbers : List Int} (distinct : numbers.Nodup) :
    firstRepeated? numbers = none := by
  induction numbers with
  | nil => rfl
  | cons a rest ih =>
    cases rest with
    | nil => rfl
    | cons b rest =>
      obtain ⟨new, distinct⟩ := List.nodup_cons.1 distinct
      have apart : a ≠ b := List.ne_of_not_mem_cons new
      rw [firstRepeated?, if_neg apart]
      exact ih distinct

/-- The first of ascending `numbers` that is repeated is the least one that occurs more than
once. -/
theorem isLeast_of_firstRepeated? {numbers : List Int} (ascending : numbers.Pairwise (· ≤ ·))
    {x : Int} (repeated : firstRepeated? numbers = some x) :
    IsLeast {y | 1 < numbers.count y} x := by
  induction numbers with
  | nil => cases repeated
  | cons a rest ih =>
    cases rest with
    | nil => cases repeated
    | cons b rest =>
      obtain ⟨least, tail⟩ := List.pairwise_cons.1 ascending
      rw [firstRepeated?] at repeated
      by_cases same : a = b
      · rw [if_pos same] at repeated
        cases repeated
        subst same
        refine ⟨by simp, ?_⟩
        intro y hy
        rcases List.mem_cons.1 (List.count_pos_iff.1 (Nat.zero_lt_of_lt hy)) with rfl | later
        · exact le_rfl
        · exact least y later
      · rw [if_neg same] at repeated
        -- the first number is less than all others, so it occurs once
        have once : a ∉ b :: rest := by
          intro later
          have below := (List.pairwise_cons.1 tail).1
          rcases List.mem_cons.1 later with equal | later
          · exact same equal
          · have := below a later
            have := least b List.mem_cons_self
            omega
        have counts : ∀ y, 1 < (a :: b :: rest).count y ↔ 1 < (b :: rest).count y := by
          intro y
          by_cases first : a = y
          · subst first
            rw [List.count_cons_self, List.count_eq_zero.2 once]
            simp
          · rw [List.count_cons_of_ne first]
        have found := ih tail repeated
        simp only [counts]
        exact found

theorem firstRepeated?_eq_none_iff {numbers : List Int} (ascending : numbers.Pairwise (· ≤ ·)) :
    firstRepeated? numbers = none ↔ numbers.Nodup := by
  constructor
  · intro none
    exact (pairwise_lt_of_firstRepeated? ascending none).imp fun h => ne_of_lt h
  · exact firstRepeated?_of_nodup

/-! ## The order of migrations -/

namespace Migration

variable {declared reordered : List (Migration σ)}

theorem sorted_perm (declared : List (Migration σ)) : (sorted declared).Perm declared :=
  List.mergeSort_perm _ _

/-- The timestamps in order do not depend on the order in which the migrations are `declared`. -/
theorem timestamps_sorted (perm : reordered.Perm declared) :
    (sorted reordered).map timestamp = (sorted declared).map timestamp := by
  have same : (sorted reordered).Perm (sorted declared) :=
    (sorted_perm reordered).trans (perm.trans (sorted_perm declared).symm)
  refine (same.map timestamp).eq_of_pairwise ?_ (pairwise_sorted reordered)
    (pairwise_sorted declared)
  intro a b _ _ hab hba
  exact le_antisymm hab hba

theorem ascending_sorted (distinct : (declared.map timestamp).Nodup) :
    Ascending timestamp (sorted declared) :=
  .of_nodup (List.pairwise_map.1 (pairwise_sorted declared))
    (((sorted_perm declared).map timestamp).nodup_iff.2 distinct)

/-- Nor do the migrations themselves, where no two have one timestamp. -/
theorem sorted_eq (perm : reordered.Perm declared) (distinct : (declared.map timestamp).Nodup) :
    sorted reordered = sorted declared := by
  have distinct' : (reordered.map timestamp).Nodup := (perm.map timestamp).nodup_iff.2 distinct
  refine (ascending_sorted distinct').unique (ascending_sorted distinct) ?_
  exact (sorted_perm reordered).trans (perm.trans (sorted_perm declared).symm)

end Migration

/-! ## Executors of declared migrations -/

namespace Executor

variable {e : Executor σ} {h : History σ} {declared reordered : List (Migration σ)}

theorem eq_of_parts {e' : Executor σ} (history : e.history = e'.history)
    (migrations : e.migrations = e'.migrations) : e = e' := by
  cases e
  cases e'
  cases history
  cases migrations
  rfl

theorem make_distinct (h : History σ) (distinct : (declared.map Migration.timestamp).Nodup) :
    ∃ e, make h declared = .ok e ∧ e.history = h ∧ e.migrations = Migration.sorted declared := by
  have none : firstRepeated? ((Migration.sorted declared).map Migration.timestamp) = none :=
    firstRepeated?_of_nodup (((Migration.sorted_perm declared).map _).nodup_iff.2 distinct)
  unfold make
  split
  · rename_i timestamp repeated
    rw [none] at repeated
    cases repeated
  · exact ⟨_, rfl, rfl, rfl⟩

theorem make_repeated (h : History σ) (repeated : ¬ (declared.map Migration.timestamp).Nodup) :
    ∃ t, firstRepeated? ((Migration.sorted declared).map Migration.timestamp) = some t ∧
      make h declared = .error (.duplicateTimestamp t) := by
  have ascending := Migration.pairwise_sorted declared
  have perm := (Migration.sorted_perm declared).map Migration.timestamp
  unfold make
  split
  · rename_i t found
    exact ⟨t, found, rfl⟩
  · rename_i none
    exact absurd (perm.nodup_iff.1 ((firstRepeated?_eq_none_iff ascending).1 none)) repeated

theorem make_eq_ok (h : History σ) (distinct : (declared.map Migration.timestamp).Nodup) :
    ∃ e, make h declared = .ok e ∧ e.history = h ∧ ∀ m, m ∈ e.migrations ↔ m ∈ declared := by
  obtain ⟨e, made, history, migrations⟩ := make_distinct h distinct
  refine ⟨e, made, history, ?_⟩
  rw [migrations]
  exact fun m => (Migration.sorted_perm declared).mem_iff

theorem distinct_of_make (made : make h declared = .ok e) :
    (declared.map Migration.timestamp).Nodup := by
  by_contra repeated
  obtain ⟨t, -, refused⟩ := make_repeated h repeated
  rw [refused] at made
  cases made

theorem migrations_of_make (made : make h declared = .ok e) :
    e.history = h ∧ e.migrations = Migration.sorted declared := by
  obtain ⟨e', made', history, migrations⟩ := make_distinct h (distinct_of_make made)
  rw [made] at made'
  cases made'
  exact ⟨history, migrations⟩

theorem make_migrations (made : make h declared = .ok e) :
    e.history = h ∧ ∀ m, m ∈ e.migrations ↔ m ∈ declared := by
  obtain ⟨history, migrations⟩ := migrations_of_make made
  refine ⟨history, ?_⟩
  rw [migrations]
  exact fun m => (Migration.sorted_perm declared).mem_iff

theorem ofDataSource_migrations {ds : DataSource σ} (made : ofDataSource ds declared = .ok e) :
    ∀ m, m ∈ e.migrations ↔ m ∈ declared := by
  obtain ⟨h, -, made⟩ := Except.bind_eq_ok.1 made
  exact (make_migrations made).2

theorem make_reordered (h : History σ) (perm : reordered.Perm declared) :
    make h reordered = make h declared := by
  by_cases distinct : (declared.map Migration.timestamp).Nodup
  · have distinct' : (reordered.map Migration.timestamp).Nodup :=
      (perm.map Migration.timestamp).nodup_iff.2 distinct
    obtain ⟨e, made, history, migrations⟩ := make_distinct h distinct
    obtain ⟨e', made', history', migrations'⟩ := make_distinct h distinct'
    rw [Migration.sorted_eq perm distinct] at migrations'
    have same : e' = e :=
      eq_of_parts (history'.trans history.symm) (migrations'.trans migrations.symm)
    rw [made, made', same]
  · have repeated' : ¬ (reordered.map Migration.timestamp).Nodup :=
      fun distinct' => distinct ((perm.map Migration.timestamp).nodup_iff.1 distinct')
    obtain ⟨t, found, refused⟩ := make_repeated h distinct
    obtain ⟨t', found', refused'⟩ := make_repeated h repeated'
    rw [Migration.timestamps_sorted perm, found] at found'
    cases found'
    rw [refused, refused']

/-- Where timestamps are repeated, the error names the least of them. -/
theorem make_refused (h : History σ) (repeated : ¬ (declared.map Migration.timestamp).Nodup) :
    ∃ t, make h declared = .error (.duplicateTimestamp t) ∧
      IsLeast {t | 1 < (declared.map Migration.timestamp).count t} t := by
  obtain ⟨t, found, refused⟩ := make_repeated h repeated
  refine ⟨t, refused, ?_⟩
  have least := isLeast_of_firstRepeated? (Migration.pairwise_sorted declared) found
  simp only [((Migration.sorted_perm declared).map Migration.timestamp).count_eq] at least
  exact least

/-- An executor exists if and only if the timestamps of the `declared` migrations are distinct. It
has the migrations in the order of their timestamps; otherwise the error names the least repeated
one. Both are the same in whatever order the migrations are declared, and the database is not
asked. -/
theorem make_canonical (h : History σ) (declared : List (Migration σ)) :
    ((∃ e, make h declared = .ok e) ↔ (declared.map Migration.timestamp).Nodup) ∧
    (∀ e, make h declared = .ok e →
      e.migrations.Perm declared ∧ Ascending Migration.timestamp e.migrations) ∧
    (¬ (declared.map Migration.timestamp).Nodup →
      ∃ t, make h declared = .error (.duplicateTimestamp t) ∧
        IsLeast {t | 1 < (declared.map Migration.timestamp).count t} t) ∧
    (∀ reordered, reordered.Perm declared → make h reordered = make h declared) ∧
    ∀ s : Session σ, (MonadExcept.ofExcept (make h declared) : SessionM σ (Executor σ)) s =
      (make h declared, s) := by
  refine ⟨?_, ?_, fun repeated => make_refused h repeated, ?_, SessionM.ofExcept_apply _⟩
  · constructor
    · rintro ⟨e, made⟩
      exact distinct_of_make made
    · intro distinct
      obtain ⟨e, made, -, -⟩ := make_distinct h distinct
      exact ⟨e, made⟩
  · intro e made
    obtain ⟨-, migrations⟩ := migrations_of_make made
    rw [migrations]
    exact ⟨Migration.sorted_perm declared, Migration.ascending_sorted (distinct_of_make made)⟩
  · intro reordered perm
    exact make_reordered h perm

end Executor

end EntityStore
