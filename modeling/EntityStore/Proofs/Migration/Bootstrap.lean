import EntityStore.Proofs.Migration.Revert

/-!
# Making pending migrations at the start of a program

If a pending migration fails at the start of a program, those before it stay made, and one migration
is taken back: the last one in the order of the history. A pending migration may be earlier than one
that was made long ago. So the migration that is taken back is the one that was made last if and only
if no migration that was listed before the call is later.
-/

namespace EntityStore

variable {σ γ : Type}

namespace Archive

/-- Taking a migration back never fails. -/
def noFailure (_ : σ) (_ : Int) : Prop := False

/-- At the start of a program one of the `pending` migrations failed. Its `error` is handed on, once
one of those that were `listed` by then was taken back. -/
structure StepsBack (a : Archive σ γ) (e : Executor σ) (s : Session σ)
    (entries : List ExecutedMigration) (pending : List (Migration σ)) (made : List (Made σ))
    (error : Error) (listed : List ExecutedMigration) (taken : List (Migration σ)) (s' : Session σ)
    (entries' : List ExecutedMigration) : Prop where
  call : e.bootstrap s = (.error error, s')
  failed : ∃ m rest log own, pending = made.map Made.migration ++ m :: rest ∧
    a.fails s.database m.timestamp ∧ a.Ran e.history m log own (.error error)
  steps : ∃ s₁, a.Makes e s entries pending made (.error error) s₁ listed ∧
    a.Reverts noFailure e 1 s₁ listed taken taken (.ok (taken.map Migration.timestamp)) s' entries'

end Archive

/-! ## One step back -/

/-- An `error` is handed on after one step back, whatever came of that step. -/
theorem Executor.bootstrap_error {e : Executor σ} {s s₁ s' : Session σ} {error : Error}
    {result : Except Error (List Int)} (call : e.executePending s = (.error error, s₁))
    (back : e.revert 1 s₁ = (result, s')) : e.bootstrap s = (.error error, s') := by
  unfold bootstrap
  rw [SessionM.outcome_bind, call]
  show ((e.revert 1).outcome >>= fun _ => throw error) s₁ = _
  rw [SessionM.outcome_bind, back]
  rfl

namespace Archive

variable {a : Archive σ γ} {e : Executor σ} {s s' : Session σ}
  {declared : List (Migration σ)} {entries listed entries' : List ExecutedMigration}
  {pending taken : List (Migration σ)} {made : List (Made σ)} {error : Error}

/-- One step back is over the `last` entry. -/
theorem Reverts.over_last {undo : σ → Int → Prop} {front : List ExecutedMigration}
    {last : ExecutedMigration} {result : Except Error (List Int)}
    (reverts : a.Reverts undo e 1 s (front ++ [last]) taken taken result s' entries')
    (topmost : Topmost declared (front ++ [last]) 1 taken) :
    entries' = front ∧ taken.map Migration.timestamp = [last.timestamp] := by
  have one : taken.map Migration.timestamp = [last.timestamp] := by
    rw [topmost.topmost]
    simp
  obtain ⟨removed, split, same⟩ := reverts.removed
  rw [one] at same
  have single : removed.length = 1 := by simpa using congrArg List.length same
  obtain ⟨entry, rfl⟩ := List.length_eq_one_iff.1 single
  exact ⟨(List.append_inj_left' split rfl).symm, one⟩

/-- A call at the start of a program, where a `pending` migration fails and taking one back does
not. -/
theorem Restores.stepsBack (restores : a.Restores noFailure e.history)
    (columns : e.history.table.columns = historyColumns)
    (same : ∀ m, m ∈ e.migrations ↔ m ∈ declared) (obeys : ∀ m ∈ declared, a.Obeys e.history m)
    (obeysBack : ∀ m ∈ declared, (a.failing noFailure).Obeys e.history m.reversed)
    (ready : a.Ready s entries)
    (known : ∀ entry ∈ entries, entry.timestamp ∈ declared.map Migration.timestamp)
    (left : Pending declared entries pending) (broken : ∃ m ∈ pending, a.fails s.database m.timestamp) :
    ∃ made error listed taken s' entries',
      a.StepsBack e s entries pending made error listed taken s' entries' ∧
      Topmost declared listed 1 taken := by
  obtain ⟨made, result, s₁, listed, makes⟩ := restores.keeps.makes columns same obeys left ready
  obtain ⟨issued, attempt, _⟩ := makes.issued
  cases result with
  | ok timestamps =>
    obtain ⟨m, hm, fails⟩ := broken
    exact absurd fails (attempt.sound timestamps rfl m hm)
  | error error =>
    have knownListed : ∀ entry ∈ listed, entry.timestamp ∈ declared.map Migration.timestamp := by
      intro entry hentry
      obtain ⟨rest, hrest⟩ := attempt.exists_rest
      rcases List.mem_append.1 (makes.entries.mem_iff.1 hentry) with old | new
      · exact known entry old
      · obtain ⟨m, hm, rfl⟩ := List.mem_map.1 new
        have among : m.migration ∈ pending := by
          rw [hrest]
          exact List.mem_append_left _ (List.mem_map_of_mem hm)
        exact List.mem_map_of_mem ((left.mem_iff m.migration).1 among).1
    obtain ⟨asked, taken, result, s', entries', topmost, reverts⟩ :=
      restores.reverts columns same obeysBack knownListed makes.ready 1
    obtain ⟨_, retreat, _⟩ := reverts.issued
    obtain ⟨rfl, rfl⟩ := retreat.all_taken fun _ _ => id
    exact ⟨made, error, listed, taken, s', entries',
      ⟨Executor.bootstrap_error makes.call reverts.call, attempt.stopped error rfl, s₁, makes, reverts⟩,
      topmost⟩

/-- What is taken back is the migration that was made last if and only if every migration that was
listed before is earlier. -/
theorem StepsBack.over_made_iff
    (steps : a.StepsBack e s entries pending made error listed taken s' entries')
    (topmost : Topmost declared listed 1 taken) (ascending : Ascending Migration.timestamp pending)
    {earlier : List (Made σ)} {last : Made σ} (split : made = earlier ++ [last]) :
    (taken.map Migration.timestamp = [last.migration.timestamp] ↔
        ∀ entry ∈ entries, entry.timestamp < last.migration.timestamp) ∧
      (entries'.Perm (entries ++ earlier.map Made.entry) ↔
        ∀ entry ∈ entries, entry.timestamp < last.migration.timestamp) := by
  obtain ⟨s₁, makes, reverts⟩ := steps.steps
  obtain ⟨m, rest, _, _, order, _, _⟩ := steps.failed
  have perm : listed.Perm ((entries ++ earlier.map Made.entry) ++ [last.entry]) := by
    have entered := makes.entries
    rw [split, List.map_append, ← List.append_assoc] at entered
    exact entered
  have before : ∀ entry ∈ earlier.map Made.entry, entry.timestamp < last.entry.timestamp := by
    rw [order, split, List.map_append, List.append_assoc] at ascending
    obtain ⟨-, -, least⟩ := List.pairwise_append.1 ascending
    intro entry hentry
    obtain ⟨m', hm', rfl⟩ := List.mem_map.1 hentry
    exact least m'.migration (List.mem_map_of_mem hm') last.migration (by simp)
  have others : (∀ entry ∈ entries ++ earlier.map Made.entry, entry.timestamp < last.entry.timestamp) ↔
      ∀ entry ∈ entries, entry.timestamp < last.migration.timestamp := by
    rw [List.forall_mem_append]
    exact and_iff_left before
  have sorted := makes.ready.lists.ascending
  rcases List.eq_nil_or_concat listed with rfl | ⟨front, entry, rfl⟩
  · exact absurd perm.length_eq (by simp)
  rw [List.concat_eq_append] at topmost reverts perm sorted
  obtain ⟨rfl, timestamps⟩ := reverts.over_last topmost
  have made : entry = last.entry ↔ entry.timestamp = last.migration.timestamp := by
    refine ⟨fun equal => congrArg ExecutedMigration.timestamp equal, fun equal => ?_⟩
    refine List.inj_on_of_nodup_map sorted.nodup (by simp) ?_ equal
    exact perm.mem_iff.2 (by simp)
  rw [timestamps, List.singleton_inj, ← made, front_perm_iff perm, sorted.last_eq_iff perm, others]
  exact ⟨Iff.rfl, Iff.rfl⟩

end Archive

/-- Of a database that keeps the history and of declared migrations of which any may fail to be
made, but none to be taken back. If one fails that is pending at the start of a program, its error
is handed on, and a migration is taken back that is the one made last in this call, so that the
history is what it was with all others made in it, if and only if no migration listed before is
later. -/
theorem Executor.bootstrap_stepsBack_iff {a : Archive σ γ} {c : Connection σ} {name : String}
    {h : History σ} (history : History.make c name = .ok h)
    (restores : a.Restores Archive.noFailure h) {declared : List (Migration σ)} {e : Executor σ}
    (executor : Executor.make h declared = .ok e) (obeys : ∀ m ∈ declared, a.Obeys h m)
    (obeysBack : ∀ m ∈ declared, (a.failing Archive.noFailure).Obeys h m.reversed) {s : Session σ}
    {entries : List ExecutedMigration} (ready : a.Ready s entries)
    (known : ∀ entry ∈ entries, entry.timestamp ∈ declared.map Migration.timestamp)
    (broken : ∃ m ∈ declared, m.timestamp ∉ entries.map ExecutedMigration.timestamp ∧
      a.fails s.database m.timestamp) :
    ∃ pending made error listed taken s' entries', Pending declared entries pending ∧
      a.StepsBack e s entries pending made error listed taken s' entries' ∧
      ∀ earlier last, made = earlier ++ [last] →
        (taken.map Migration.timestamp = [last.migration.timestamp] ↔
          ∀ entry ∈ entries, entry.timestamp < last.migration.timestamp) ∧
        (entries'.Perm (entries ++ earlier.map Made.entry) ↔
          ∀ entry ∈ entries, entry.timestamp < last.migration.timestamp) := by
  have columns := History.columns_make history
  obtain ⟨rfl, same⟩ := Executor.make_migrations executor
  have left := Executor.pending_pending same entries
  obtain ⟨m, hm, unlisted, fails⟩ := broken
  obtain ⟨made, error, listed, taken, s', entries', steps, topmost⟩ :=
    restores.stepsBack columns same obeys obeysBack ready known left
      ⟨m, (left.mem_iff m).2 ⟨hm, unlisted⟩, fails⟩
  exact ⟨_, made, error, listed, taken, s', entries', left, steps, fun earlier last split =>
    steps.over_made_iff topmost left.ascending split⟩

namespace Shop

open Archive (noFailure)

/-- The statement that closes the shop. -/
def closing : Statement := .plain "UPDATE shop SET stage = NULL"

/-- A migration that brings the shop to the stage `t`, and is taken back by closing it. -/
def opening (t : Int) : Migration Shop where
  timestamp := t
  name := "Stage"
  up := (stage t).up
  down c _ := do
    let _ ← SessionM.atDatabase (c.execute closing.sql closing.params)

def openings : List (Migration Shop) := [opening 3, opening 1, opening 2]

/-- A session in which `stages` were reached, of which one is `refused` from now on. -/
def opened (stages : List Int) (refused : Int) : Session Shop where
  database := { store := ⟨stages.map reached, none⟩, refused := [refused] }
  outside := ⟨fun _ => 0, fun _ => .epoch, fun _ => 0⟩

theorem distinct_openings : (openings.map Migration.timestamp).Nodup := by
  decide

theorem ready_opened (t refused : Int) : archive.Ready (opened [t] refused) [entry t] where
  lists := ⟨_, rfl, List.pairwise_singleton _ _, _, .refl _, .cons (reads_reached t) .nil⟩
  dated _ := by
    show 0 ≤ Calendar.Instant.epoch.date.year ∧ Calendar.Instant.epoch.date.year ≤ 9999
    decide

theorem restores_noFailure : archive.Restores noFailure returns :=
  returns_restoring fun _ _ => False

theorem obeys_openings : ∀ m ∈ openings, archive.Obeys returns m := by
  simp only [openings, List.forall_mem_cons]
  exact ⟨obeys_of_asks run_stage id rfl, obeys_of_asks run_stage id rfl,
    obeys_of_asks run_stage id rfl, List.forall_mem_nil _⟩

theorem obeysBack_openings : ∀ m ∈ openings, (archive.failing noFailure).Obeys returns m.reversed := by
  have data : closing.IsData := by decide
  have neutral : ∀ rows, effect closing rows = rows := by
    intro rows
    have other : (after? "INSERT INTO " closing.sql).isSome = false := by decide
    rw [effect, other]
    rfl
  have inner : returns.Inner closing := by
    have begins : closing.sql.toList.take 2 = ['U', 'P'] := by decide
    exact ⟨by decide, History.not_isEntry_of_take_two begins (by decide)⟩
  have each : ∀ t, (archive.failing noFailure).Obeys returns (opening t).reversed := by
    intro t
    refine obeys_of_executes (fun _ _ => False) (run_other (by decide)) data neutral inner rfl ?_
    intro shop
    simp [refuses, closing, Statement.plain]
  simp only [openings, List.forall_mem_cons]
  exact ⟨each 3, each 1, each 2, List.forall_mem_nil _⟩

/-- Of two pending migrations, of which the `first` does not fail, that one was made. -/
theorem made_first {s s' : Session Shop} {entries listed entries' : List ExecutedMigration}
    {e : Executor Shop} {first second : Migration Shop} {made : List (Made Shop)} {error : Error}
    {taken : List (Migration Shop)}
    (steps : archive.StepsBack e s entries [first, second] made error listed taken s' entries')
    (sound : ¬ archive.fails s.database first.timestamp) : ∃ one, made = [one] ∧ one.migration = first := by
  obtain ⟨m, rest, _, _, order, fails, _⟩ := steps.failed
  rcases made with _ | ⟨one, _ | ⟨two, others⟩⟩
  · cases order
    exact absurd fails sound
  · exact ⟨one, rfl, (List.cons.inj order).1.symm⟩
  · simp at order

theorem pending_openings {t first second : Int} (order : first < second)
    (all : ∀ m, m ∈ openings ↔ m = opening t ∨ m = opening first ∨ m = opening second)
    (apart : t ≠ first ∧ t ≠ second) :
    Pending openings [entry t] [opening first, opening second] where
  ascending := List.pairwise_pair.2 order
  mem_iff m := by
    rw [all]
    simp only [List.mem_cons, List.not_mem_nil, or_false, List.map_cons, List.map_nil]
    constructor
    · rintro (rfl | rfl)
      · exact ⟨.inr (.inl rfl), apart.1.symm⟩
      · exact ⟨.inr (.inr rfl), apart.2.symm⟩
    · rintro ⟨rfl | opens, unlisted⟩
      · exact absurd rfl unlisted
      · exact opens

/-- The first stage was reached before. The second one is reached and the third one refused, and then
the second one is left. -/
theorem openings_stepsBack :
    History.make ⟨returning, .sqlite⟩ "migrations" = .ok returns ∧
    archive.Restores noFailure returns ∧ (∀ m ∈ openings, archive.Obeys returns m) ∧
    (∀ m ∈ openings, (archive.failing noFailure).Obeys returns m.reversed) ∧
    archive.Ready (opened [1] 3) [entry 1] ∧
    ∃ e, Executor.make returns openings = .ok e ∧ ∃ made error listed taken s' entries',
      archive.StepsBack e (opened [1] 3) [entry 1] [opening 2, opening 3] made error listed taken s'
        entries' ∧
      made.map Made.migration = [opening 2] ∧ taken.map Migration.timestamp = [2] ∧
      entries' = [entry 1] := by
  have make : History.make ⟨returning, .sqlite⟩ "migrations" = .ok returns :=
    History.make_migrations _
  obtain ⟨e, hmake, -, -⟩ := Executor.make_eq_ok returns distinct_openings
  have broken : ∃ m ∈ openings, m.timestamp ∉ [entry 1].map ExecutedMigration.timestamp ∧
      archive.fails (opened [1] 3).database m.timestamp :=
    ⟨opening 3, by simp [openings], by decide, List.mem_singleton_self _⟩
  refine ⟨make, restores_noFailure, obeys_openings, obeysBack_openings, ready_opened 1 3, e, hmake, ?_⟩
  obtain ⟨pending, made, error, listed, taken, s', entries', left, steps, back⟩ :=
    Executor.bootstrap_stepsBack_iff make restores_noFailure hmake obeys_openings obeysBack_openings
      (ready_opened 1 3) (by decide) broken
  have all : ∀ m, m ∈ openings ↔ m = opening 1 ∨ m = opening 2 ∨ m = opening 3 := by
    intro m
    simp only [openings, List.mem_cons, List.not_mem_nil, or_false]
    tauto
  have before : Pending openings [entry 1] [opening 2, opening 3] :=
    pending_openings (by decide) all (by decide)
  obtain rfl := left.unique before
  have sound : ¬ archive.fails (opened [1] 3).database (opening 2).timestamp := by
    show (2 : Int) ∉ [3]
    decide
  obtain ⟨one, rfl, same⟩ := made_first steps sound
  have earlier : ∀ entry' ∈ [entry 1], entry'.timestamp < one.migration.timestamp := by
    rw [same]
    decide
  obtain ⟨last, left⟩ := back [] one rfl
  have timestamps := last.2 earlier
  rw [same] at timestamps
  exact ⟨[one], error, listed, taken, s', entries', steps, congrArg (fun m => [m]) same, timestamps,
    List.perm_singleton.1 (left.2 earlier)⟩

/-- The third stage was reached before. The first one is reached and the second one refused, and then
it is not the first one that is left, but the third one. -/
theorem missed_stage_kept :
    archive.Ready (opened [3] 2) [entry 3] ∧
    ∃ e, Executor.make returns openings = .ok e ∧ ∃ made error listed taken s' entries',
      archive.StepsBack e (opened [3] 2) [entry 3] [opening 1, opening 2] made error listed taken s'
        entries' ∧
      made.map Made.migration = [opening 1] ∧ taken.map Migration.timestamp = [3] ∧
      entries' = made.map Made.entry := by
  obtain ⟨e, hmake, history, same⟩ := Executor.make_eq_ok returns distinct_openings
  refine ⟨ready_opened 3 2, e, hmake, ?_⟩
  have before : Pending openings [entry 3] [opening 1, opening 2] :=
    pending_openings (by decide) (fun m => by simp [openings]) (by decide)
  have restores : archive.Restores noFailure e.history := history ▸ restores_noFailure
  obtain ⟨made, error, listed, taken, s', entries', steps, topmost⟩ :=
    restores.stepsBack (history ▸ rfl) same (history ▸ obeys_openings) (history ▸ obeysBack_openings)
      (ready_opened 3 2) (by decide) before ⟨opening 2, by simp, List.mem_singleton_self _⟩
  have sound : ¬ archive.fails (opened [3] 2).database (opening 1).timestamp := by
    show (1 : Int) ∉ [2]
    decide
  obtain ⟨one, rfl, same⟩ := made_first steps sound
  obtain ⟨s₁, makes, reverts⟩ := steps.steps
  have order : listed = [one.entry] ++ [entry 3] := by
    refine makes.ready.lists.ascending.unique ?_ (makes.entries.trans (List.Perm.swap _ _ _))
    have less : one.migration.timestamp < 3 := by
      rw [same]
      decide
    exact List.pairwise_pair.2 less
  subst order
  obtain ⟨rfl, timestamps⟩ := reverts.over_last topmost
  exact ⟨[one], error, _, taken, s', _, steps, congrArg (fun m => [m]) same, timestamps, rfl⟩

end Shop

end EntityStore
