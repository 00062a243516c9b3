import EntityStore.Proofs.Migration.Pending
import EntityStore.Proofs.Migration.Retreat

/-!
# Taking migrations back and making them again

A call takes the last migrations of the history back, as many as it is told, up to the first one for
which that fails. What is left of the history is its beginning, and the next call that makes pending
migrations makes those again that were taken back.
-/

namespace EntityStore

variable {σ γ : Type}

/-- The migrations that are `asked` for are those of the last `entries`, as many as there are
`steps`, the last one first. -/
structure Topmost (declared : List (Migration σ)) (entries : List ExecutedMigration) (steps : Nat)
    (asked : List (Migration σ)) : Prop where
  declared : ∀ m ∈ asked, m ∈ declared
  topmost : asked.map Migration.timestamp =
    (entries.map ExecutedMigration.timestamp).reverse.take steps

/-- What `Executor.revert` asks of the database before anything is taken back: nothing for no
step. -/
def History.asking (h : History σ) (steps : Nat) : List Statement :=
  if steps = 0 then [] else [h.createStatement, h.selectStatement]

namespace Archive

/-- A call of `Executor.revert` goes through the migrations that are `asked` for, and what is left
is the beginning of the history, as it is read back. -/
structure Reverts (a : Archive σ γ) (undo : σ → Int → Prop) (e : Executor σ) (steps : Nat)
    (s : Session σ) (entries : List ExecutedMigration) (asked taken : List (Migration σ))
    (result : Except Error (List Int)) (s' : Session σ) (entries' : List ExecutedMigration) :
    Prop where
  call : e.revert steps s = (result, s')
  issued : ∃ issued, (a.failing undo).Retreat e.history (undo s.database)
      (a.log s.database ++ e.history.asking steps) asked taken result issued ∧
    (a.failing undo).Passes s.database s'.database (e.history.asking steps ++ issued)
  answered : ∀ timestamps, result = .ok timestamps →
    taken = asked ∧ timestamps = taken.map Migration.timestamp
  stopped : ∀ error, result = .error error → ∃ m rest log own, asked = taken ++ m :: rest ∧
    undo s.database m.timestamp ∧ (a.failing undo).Ran e.history m.reversed log own (.error error)
  ready : a.Ready s' entries'
  removed : ∃ removed, entries = entries' ++ removed ∧
    removed.reverse.map ExecutedMigration.timestamp = taken.map Migration.timestamp
  readBack : (e.history.executed s'.database).1 = .ok entries'

end Archive

/-! ## The migrations of entries -/

namespace Executor

variable {e : Executor σ} {declared : List (Migration σ)}
  (same : ∀ m, m ∈ e.migrations ↔ m ∈ declared)

include same

theorem exists_declared {entry : ExecutedMigration}
    (known : entry.timestamp ∈ declared.map Migration.timestamp) :
    ∃ m, e.declared entry = .ok m := by
  obtain ⟨m, hm, timestamp⟩ := List.mem_map.1 known
  have found : (e.migrations.find? fun m => m.timestamp == entry.timestamp).isSome := by
    rw [List.find?_isSome]
    exact ⟨m, (same m).2 hm, by simpa using timestamp⟩
  obtain ⟨m', hm'⟩ := Option.isSome_iff_exists.1 found
  refine ⟨m', ?_⟩
  unfold Executor.declared
  rw [hm']

/-- Entries of `declared` migrations have these migrations. -/
theorem exists_all_declared {top : List ExecutedMigration}
    (known : ∀ entry ∈ top, entry.timestamp ∈ declared.map Migration.timestamp) :
    ∃ asked, List.Forall₂ (fun entry m => e.declared entry = .ok m) top asked ∧
      (∀ m ∈ asked, m ∈ declared) ∧
      asked.map Migration.timestamp = top.map ExecutedMigration.timestamp := by
  induction top with
  | nil => exact ⟨[], .nil, nofun, rfl⟩
  | cons entry rest ih =>
    obtain ⟨first, others⟩ := List.forall_mem_cons.1 known
    obtain ⟨m, hm⟩ := exists_declared same first
    obtain ⟨asked, each, among, timestamps⟩ := ih others
    obtain ⟨mem, timestamp⟩ := declared_eq_ok hm
    refine ⟨m :: asked, .cons hm each, List.forall_mem_cons.2 ⟨(same m).1 mem, among⟩, ?_⟩
    rw [List.map_cons, List.map_cons, timestamp, timestamps]

end Executor

/-! ## A call -/

namespace Archive.Restores

variable {a : Archive σ γ} {undo : σ → Int → Prop} {e : Executor σ}
  (restores : a.Restores undo e.history) (columns : e.history.table.columns = historyColumns)
  {entries : List ExecutedMigration}

include restores columns

/-- A call of `Executor.revert` takes back the migrations of the last entries. -/
theorem revert_retreat {top : List ExecutedMigration} {steps : Nat}
    (last : (entries.drop (entries.length - steps)).reverse = top) {asked : List (Migration σ)}
    (declared : List.Forall₂ (fun entry m => e.declared entry = .ok m) top asked)
    (obeys : ∀ m ∈ asked, (a.failing undo).Obeys e.history m.reversed) {s : Session σ}
    (lists : a.Lists s.database entries) :
    ∃ result s' taken issued, e.revert steps s = (result, s') ∧ s'.outside = s.outside ∧
      (a.failing undo).Retreat e.history (undo s.database)
        (a.log s.database ++ e.history.asking steps) asked taken result issued ∧
      (a.failing undo).Passes s.database s'.database (e.history.asking steps ++ issued) ∧
      a.Lists s'.database
        (entries.take (entries.length - steps) ++ (top.drop taken.length).reverse) := by
  have whole : entries.take (entries.length - steps) ++ top.reverse = entries := by
    rw [← last, List.reverse_reverse, List.take_append_drop]
  unfold Executor.revert History.asking
  by_cases none : steps = 0
  · rw [if_pos none, if_pos none, List.append_nil]
    have nothing : top = [] := by
      rw [← last, none, Nat.sub_zero, List.drop_length, List.reverse_nil]
    subst nothing
    cases declared
    exact ⟨.ok [], s, [], [], rfl, rfl, .done _, .refl _ _, whole.symm ▸ lists⟩
  · rw [if_neg none, if_neg none]
    obtain ⟨db, hexecuted, lists', passes⟩ := restores.keepsBack.executed_entries columns lists
    have asked : SessionM.atDatabase e.executed s = (.ok entries, { s with database := db }) := by
      rw [SessionM.atDatabase_apply, hexecuted]
    have listed : a.Lists db (entries.take (entries.length - steps) ++ top.reverse) := by
      rw [whole]
      exact lists'
    obtain ⟨result, s', taken, issued, hrun, outside, retreat, passes', lists''⟩ :=
      restores.runDown_retreat declared obeys (s := { s with database := db }) listed
    have told : undo db = undo s.database := passes.fails
    have written : a.log db = a.log s.database ++ _ := passes.log
    rw [told, written] at retreat
    refine ⟨result, s', taken, issued, ?_, outside, retreat, passes.trans passes', lists''⟩
    rw [bind_ok asked, last]
    exact hrun

/-- A call takes back the last migrations that are listed. -/
theorem reverts {declared : List (Migration σ)} (same : ∀ m, m ∈ e.migrations ↔ m ∈ declared)
    (obeys : ∀ m ∈ declared, (a.failing undo).Obeys e.history m.reversed)
    (known : ∀ entry ∈ entries, entry.timestamp ∈ declared.map Migration.timestamp)
    {s : Session σ} (ready : a.Ready s entries) (steps : Nat) :
    ∃ asked taken result s' entries', Topmost declared entries steps asked ∧
      a.Reverts undo e steps s entries asked taken result s' entries' := by
  generalize last : (entries.drop (entries.length - steps)).reverse = top
  have knownTop : ∀ entry ∈ top, entry.timestamp ∈ declared.map Migration.timestamp := by
    intro entry hentry
    rw [← last, List.mem_reverse] at hentry
    exact known entry (List.mem_of_mem_drop hentry)
  obtain ⟨asked, each, among, timestamps⟩ := Executor.exists_all_declared same knownTop
  obtain ⟨result, s', taken, issued, call, outside, retreat, passes, lists⟩ :=
    restores.revert_retreat columns last each (fun m hm => obeys m (among m hm)) ready.lists
  obtain ⟨_, readBack, _⟩ := restores.keeps.executed columns lists
  obtain ⟨rest, hrest⟩ := retreat.exists_rest
  refine ⟨asked, taken, result, s', _, ⟨among, ?_⟩, call, ⟨issued, retreat, passes⟩,
    retreat.answered, retreat.stopped, ⟨lists, ?_⟩, ⟨(top.take taken.length).reverse, ?_, ?_⟩, ?_⟩
  · rw [timestamps, ← last, List.map_reverse, List.map_drop, List.take_reverse, List.length_map]
  · rw [outside]
    exact ready.dated
  · rw [List.append_assoc, ← List.reverse_append, List.take_append_drop, ← last,
      List.reverse_reverse, List.take_append_drop]
  · rw [List.reverse_reverse, List.map_take, ← timestamps, hrest, List.map_append]
    exact List.take_left' (List.length_map _)
  · rw [readBack]

end Archive.Restores

/-! ## What is pending after it -/

section

variable {declared : List (Migration σ)} {entries entries' removed : List ExecutedMigration}
  {taken : List (Migration σ)}

/-- After migrations were taken back, they are pending beside those that were pending before. -/
theorem Pending.after_revert (distinct : (declared.map Migration.timestamp).Nodup)
    (ascending : Ascending ExecutedMigration.timestamp entries) (split : entries = entries' ++ removed)
    (known : ∀ m ∈ taken, m ∈ declared)
    (timestamps : removed.reverse.map ExecutedMigration.timestamp = taken.map Migration.timestamp)
    {pending again : List (Migration σ)} (before : Pending declared entries pending)
    (after : Pending declared entries' again) : again.Perm (taken ++ pending) := by
  have listed : ∀ t, t ∈ removed.map ExecutedMigration.timestamp ↔
      t ∈ taken.map Migration.timestamp := by
    intro t
    rw [← timestamps, List.map_reverse, List.mem_reverse]
  have both := ascending.nodup
  rw [split, List.map_append] at both
  obtain ⟨-, distinctRemoved, apart⟩ := List.nodup_append'.1 both
  have distinctTaken : taken.Nodup := by
    refine List.Nodup.of_map Migration.timestamp ?_
    rw [← timestamps, List.map_reverse]
    exact List.nodup_reverse.2 distinctRemoved
  have among : ∀ m ∈ taken, m.timestamp ∈ entries.map ExecutedMigration.timestamp := by
    intro m hm
    rw [split, List.map_append]
    exact List.mem_append_right _ ((listed _).2 (List.mem_map.2 ⟨m, hm, rfl⟩))
  have distinctAll : (taken ++ pending).Nodup := by
    refine List.Nodup.append distinctTaken (before.ascending.nodup.of_map _) ?_
    intro m hm hpending
    exact ((before.mem_iff m).1 hpending).2 (among m hm)
  -- Neither list repeats a migration, so that it is enough to compare their members.
  rw [List.perm_ext_iff_of_nodup (after.ascending.nodup.of_map _) distinctAll]
  intro m
  rw [List.mem_append, after.mem_iff, before.mem_iff]
  constructor
  · rintro ⟨hm, unlisted⟩
    by_cases old : m.timestamp ∈ entries.map ExecutedMigration.timestamp
    · rw [split, List.map_append, List.mem_append] at old
      obtain ⟨m', hm', same⟩ := List.mem_map.1 ((listed _).1 (old.resolve_left unlisted))
      have equal := List.inj_on_of_nodup_map distinct (known m' hm') hm same
      exact .inl (equal ▸ hm')
    · exact .inr ⟨hm, old⟩
  · rintro (hm | ⟨hm, unlisted⟩)
    · refine ⟨known m hm, fun kept => ?_⟩
      exact apart kept ((listed _).2 (List.mem_map.2 ⟨m, hm, rfl⟩))
    · refine ⟨hm, fun kept => unlisted ?_⟩
      rw [split, List.map_append]
      exact List.mem_append_left _ kept

/-- Once all `pending` migrations are made, the history lists every declared one. -/
theorem Pending.all_listed {pending : List (Migration σ)} (left : Pending declared entries pending)
    (known : ∀ entry ∈ entries, entry.timestamp ∈ declared.map Migration.timestamp)
    {made : List (Made σ)} (all : made.map Made.migration = pending)
    (perm : entries'.Perm (entries ++ made.map Made.entry)) (t : Int) :
    t ∈ entries'.map ExecutedMigration.timestamp ↔ t ∈ declared.map Migration.timestamp := by
  have timestamps : (made.map Made.entry).map ExecutedMigration.timestamp =
      pending.map Migration.timestamp := by
    rw [← all, List.map_map, List.map_map]
    rfl
  rw [(perm.map ExecutedMigration.timestamp).mem_iff, List.map_append, List.mem_append, timestamps]
  constructor
  · rintro (listed | listed)
    · obtain ⟨entry, hentry, rfl⟩ := List.mem_map.1 listed
      exact known entry hentry
    · obtain ⟨m, hm, rfl⟩ := List.mem_map.1 listed
      exact List.mem_map.2 ⟨m, ((left.mem_iff m).1 hm).1, rfl⟩
  · intro hdeclared
    obtain ⟨m, hm, rfl⟩ := List.mem_map.1 hdeclared
    by_cases listed : m.timestamp ∈ entries.map ExecutedMigration.timestamp
    · exact .inl listed
    · exact .inr (List.mem_map.2 ⟨m, (left.mem_iff m).2 ⟨hm, listed⟩, rfl⟩)

end

/-- Of a database that keeps the history and of `declared` migrations with distinct timestamps, of
which any may fail to be taken back. A call takes back the migrations of the last entries, up to the
first one for which that fails; the next call that makes pending migrations, if none fails then,
makes those that were taken back and those that were pending before, and after it all are listed. -/
theorem Executor.reverted_made_again {a : Archive σ γ} {undo : σ → Int → Prop} {c : Connection σ}
    {name : String} {h : History σ} (history : History.make c name = .ok h)
    (restores : a.Restores undo h) {declared : List (Migration σ)}
    (distinct : (declared.map Migration.timestamp).Nodup) (obeys : ∀ m ∈ declared, a.Obeys h m)
    (obeysBack : ∀ m ∈ declared, (a.failing undo).Obeys h m.reversed) :
    ∃ e, Executor.make h declared = .ok e ∧ ∀ s entries steps, a.Ready s entries →
      (∀ entry ∈ entries, entry.timestamp ∈ declared.map Migration.timestamp) →
      ∃ asked taken result s' entries', Topmost declared entries steps asked ∧
        a.Reverts undo e steps s entries asked taken result s' entries' ∧
        ((∀ m ∈ asked, ¬ undo s.database m.timestamp) →
          result = .ok (asked.map Migration.timestamp)) ∧
        ∀ s₁ pending, a.Ready s₁ entries' → Pending declared entries pending →
          (∀ m ∈ declared, ¬ a.fails s₁.database m.timestamp) →
          ∃ again made s₂ entries₂, again.Perm (taken ++ pending) ∧
            Ascending Migration.timestamp again ∧ made.map Made.migration = again ∧
            a.Makes e s₁ entries' again made (.ok (again.map Migration.timestamp)) s₂ entries₂ ∧
            ∀ t, t ∈ entries₂.map ExecutedMigration.timestamp ↔
              t ∈ declared.map Migration.timestamp := by
  have columns := History.columns_make history
  obtain ⟨e, hmake, rfl, same⟩ := Executor.make_eq_ok h distinct
  refine ⟨e, hmake, ?_⟩
  intro s entries steps ready known
  obtain ⟨asked, taken, result, s', entries', topmost, reverts⟩ :=
    restores.reverts columns same obeysBack known ready steps
  obtain ⟨_, retreat, _⟩ := reverts.issued
  refine ⟨asked, taken, result, s', entries', topmost, reverts,
    fun sound => (retreat.all_taken sound).2, ?_⟩
  intro s₁ pending ready₁ before sound
  obtain ⟨removed, split, timestamps⟩ := reverts.removed
  have left := Executor.pending_pending same entries'
  obtain ⟨made, result₁, s₂, entries₂, makes⟩ := restores.keeps.makes columns same obeys left ready₁
  obtain ⟨_, attempt, _⟩ := makes.issued
  have soundLeft : ∀ m ∈ e.pending (entries'.map ExecutedMigration.timestamp),
      ¬ a.fails s₁.database m.timestamp := by
    intro m hm
    exact sound m ((left.mem_iff m).1 hm).1
  obtain ⟨all, rfl⟩ := attempt.all_made soundLeft
  obtain ⟨rest, hrest⟩ := retreat.exists_rest
  have knownTaken : ∀ m ∈ taken, m ∈ declared := by
    intro m hm
    refine topmost.declared m ?_
    rw [hrest]
    exact List.mem_append_left _ hm
  have knownLeft : ∀ entry ∈ entries', entry.timestamp ∈ declared.map Migration.timestamp := by
    intro entry hentry
    refine known entry ?_
    rw [split]
    exact List.mem_append_left _ hentry
  exact ⟨_, made, s₂, entries₂,
    Pending.after_revert distinct ready.lists.ascending split knownTaken timestamps before left,
    left.ascending, all, makes, left.all_listed knownLeft all makes.entries⟩

/-! ## A database in memory that removes rows -/

theorem Control.eq_append_of_after? {word text s : String} (h : after? word text = some s) :
    text = word ++ s := by
  unfold after? at h
  split at h
  · rename_i begins
    obtain ⟨rest, hrest⟩ := List.isPrefixOf_iff_prefix.1 begins
    cases h
    rw [← String.toList_inj, String.toList_append, String.toList_ofList, ← hrest, List.drop_left]
  · cases h

namespace Shop

def isOf (t : Int) (row : Record) : Bool :=
  match row.get? "timestamp" with
  | some (.int t') => t' == t
  | _ => false

theorem isOf_iff {t : Int} {row : Record} :
    isOf t row = true ↔ row.get? "timestamp" = some (.int t) := by
  unfold isOf
  split
  · rename_i t' cell
    simp [cell]
  · rename_i other
    simp only [Bool.false_eq_true, false_iff]
    exact other t

/-- The rows that `st` does not ask to remove. -/
def without (st : Statement) (rows : List Record) : List Record :=
  match st.params with
  | [.int t] => rows.filter fun row => !isOf t row
  | _ => rows

def remove (st : Statement) : DatabaseM Shop RunResult := fun shop =>
  (.ok {}, { shop with store := shop.store.change (without st), log := shop.log ++ [st] })

def returning : Driver Shop where
  all := take arranged
  run st := if (after? "DELETE FROM " st.sql).isSome then remove st else take (fun _ => {}) st

/-- The history, from which rows can be removed. -/
def returns : History Shop := ⟨⟨returning, .sqlite⟩, history.table⟩

/-- A stage cannot be left if the stage before it is refused. -/
def stays (shop : Shop) (t : Int) : Prop := archive.fails shop (t - 1)

theorem run_other {st : Statement} (other : after? "DELETE FROM " st.sql = none) :
    returns.connection.driver.run st = take (fun _ => {}) st := by
  show (if (after? "DELETE FROM " st.sql).isSome then remove st else take (fun _ => {}) st) = _
  rw [other]
  rfl

theorem run_word {word : String} (apart : ¬ "DELETE FROM ".toList <+: word.toList)
    (apart' : ¬ word.toList <+: "DELETE FROM ".toList) {st : Statement} {text : String}
    (begins : st.sql = word ++ text) :
    returns.connection.driver.run st = take (fun _ => {}) st := by
  refine run_other ?_
  rw [begins]
  exact Control.after?_append_of_apart apart apart' text

theorem exec_other {text : String} (other : after? "DELETE FROM " text = none) :
    returns.connection.driver.exec text = history.connection.driver.exec text := by
  show (returns.connection.driver.run (.plain text) >>= fun _ => pure ()) =
    (history.connection.driver.run (.plain text) >>= fun _ => pure ())
  rw [run_other other, run_history]

theorem createStatement_returns : returns.createStatement = history.createStatement := by
  unfold History.createStatement
  rfl

theorem insertStatement_returns (t : Int) (name : String) (now : Calendar.Instant)
    (executionTime : Int) : returns.insertStatement t name now executionTime =
      history.insertStatement t name now executionTime := by
  unfold History.insertStatement
  rfl

theorem returns_keeps : archive.Keeps returns where
  supported := rfl
  control {text c shop after} hc allowed := by
    have other : after? "DELETE FROM " text = none := by
      cases found : after? "DELETE FROM " text with
      | none => rfl
      | some rest =>
        rw [Control.eq_append_of_after? found,
          Control.ofText?_apart (by decide +kernel) (by decide)] at hc
        cases hc
    rw [exec_other other]
    exact keeps.control hc allowed
  create closed := by
    obtain ⟨text, eq⟩ := returns.exists_createStatement_eq
    have other : after? "DELETE FROM " returns.createStatement.sql = none := by
      rw [eq]
      exact Control.after?_append_of_apart (by decide) (by decide) text
    rw [exec_other other, createStatement_returns]
    exact keeps.create closed
  insert t name now executionTime closed fresh := by
    obtain ⟨text, eq⟩ := returns.exists_insertStatement_fields t name now executionTime
    rw [run_word (by decide) (by decide) (congrArg Statement.sql eq), insertStatement_returns,
      ← run_history]
    exact keeps.insert t name now executionTime closed fresh
  select closed := keeps.select closed

theorem returns_restoring (told : (Int → Prop) → Int → Prop) :
    archive.Restores (fun shop => told (archive.fails shop)) returns where
  keeps := returns_keeps
  keepsBack := returns_keeps.failing told
  delete {shop d} t closed := by
    obtain ⟨text, eq⟩ := returns.exists_deleteStatement_eq t
    have run : returns.connection.driver.run (returns.deleteStatement t) =
        remove (returns.deleteStatement t) := by
      show (if (after? "DELETE FROM " (returns.deleteStatement t).sql).isSome then _ else _) = _
      rw [eq, Control.after?_append]
      rfl
    have store : shop.store = ⟨d, none⟩ := closed
    have left : shop.store.change (without (returns.deleteStatement t)) =
        ⟨d.filter fun row => !isOf t row, none⟩ := by
      rw [store, eq]
      rfl
    rw [run]
    refine ⟨{}, _, rfl, ⟨rfl, rfl⟩, _, d.filter (isOf t), left,
      (List.filter_append_perm (isOf t) d).symm, ?_, ?_⟩
    · intro row hrow
      exact isOf_iff.1 (List.mem_filter.1 hrow).2
    · intro row hrow same
      have other := (List.mem_filter.1 hrow).2
      rw [isOf_iff.2 same] at other
      cases other

theorem returns_restores : archive.Restores stays returns :=
  returns_restoring fun fails t => fails (t - 1)

theorem run_stage (t : Int) :
    returns.connection.driver.run (stageStatement t) = take (fun _ => {}) (stageStatement t) :=
  run_other (by show after? "DELETE FROM " "UPDATE shop SET stage = ?" = none; decide)

/-- The row of the stage `t`, which was reached. -/
def reached (t : Int) : Record :=
  .ofList [("timestamp", .int t), ("name", .text "Stage"), ("execution_time", .int 0)]

def entry (t : Int) : ExecutedMigration := ⟨t, "Stage", none, 0⟩

theorem reads_reached (t : Int) : ExecutedMigration.Reads (reached t) (entry t) where
  timestamp := by simp [reached, entry, Record.ofList, Record.get?_set]
  entry := rfl

/-- A session in which three stages were reached, the second of which cannot be left. -/
def advanced : Session Shop where
  database := { store := ⟨[reached 1, reached 2, reached 3], none⟩, refused := [1] }
  outside := ⟨fun _ => 0, fun _ => .epoch, fun _ => 0⟩

theorem ready_advanced : archive.Ready advanced [entry 1, entry 2, entry 3] where
  lists := by
    refine ⟨_, rfl, ?_, _, .refl _, ?_⟩
    · unfold Ascending
      decide
    · exact .cons (reads_reached 1) (.cons (reads_reached 2) (.cons (reads_reached 3) .nil))
  dated _ := by
    show 0 ≤ Calendar.Instant.epoch.date.year ∧ Calendar.Instant.epoch.date.year ≤ 9999
    decide

def stages : List (Migration Shop) := [stage 4, stage 1, stage 3, stage 2]

theorem pending_advanced : Pending stages [entry 1, entry 2, entry 3] [stage 4] where
  ascending := List.pairwise_singleton _ _
  mem_iff m := by
    simp only [stages, entry, List.mem_cons, List.not_mem_nil, or_false, List.map_cons, List.map_nil]
    constructor
    · rintro rfl
      exact ⟨.inl rfl, by decide⟩
    · rintro ⟨rfl | rfl | rfl | rfl, unlisted⟩
      · rfl
      all_goals exact absurd unlisted (by decide)

/-- The third stage is left and the second one is not; after that the third and the fourth stage are
reached. -/
theorem stages_left :
    History.make ⟨returning, .sqlite⟩ "migrations" = .ok returns ∧
    archive.Restores stays returns ∧ (stages.map Migration.timestamp).Nodup ∧
    (∀ m ∈ stages, archive.Obeys returns m) ∧
    (∀ m ∈ stages, (archive.failing stays).Obeys returns m.reversed) ∧
    archive.Ready advanced [entry 1, entry 2, entry 3] ∧
    ∃ e, Executor.make returns stages = .ok e ∧ ∃ asked taken error s' entries',
      Topmost stages [entry 1, entry 2, entry 3] 5 asked ∧
      archive.Reverts stays e 5 advanced [entry 1, entry 2, entry 3] asked taken (.error error) s'
        entries' ∧
      taken.map Migration.timestamp = [3] ∧ ∃ again made s₂ entries₂,
        again.Perm (taken ++ [stage 4]) ∧
        archive.Makes e (repaired s') entries' again made (.ok (again.map Migration.timestamp)) s₂
          entries₂ ∧
        ∀ t, t ∈ entries₂.map ExecutedMigration.timestamp ↔ t ∈ stages.map Migration.timestamp := by
  have make : History.make ⟨returning, .sqlite⟩ "migrations" = .ok returns :=
    History.make_migrations _
  have distinct : (stages.map Migration.timestamp).Nodup := by decide
  have obeys : ∀ m ∈ stages, archive.Obeys returns m := by
    simp only [stages, List.forall_mem_cons]
    exact ⟨obeys_of_asks run_stage id rfl, obeys_of_asks run_stage id rfl,
      obeys_of_asks run_stage id rfl, obeys_of_asks run_stage id rfl, nofun⟩
  have obeysBack : ∀ m ∈ stages, (archive.failing stays).Obeys returns m.reversed := by
    simp only [stages, List.forall_mem_cons]
    exact ⟨obeys_of_asks run_stage (· - 1) rfl, obeys_of_asks run_stage (· - 1) rfl,
      obeys_of_asks run_stage (· - 1) rfl, obeys_of_asks run_stage (· - 1) rfl, nofun⟩
  refine ⟨make, returns_restores, distinct, obeys, obeysBack, ready_advanced, ?_⟩
  obtain ⟨e, hmake, calls⟩ :=
    Executor.reverted_made_again make returns_restores distinct obeys obeysBack
  obtain ⟨asked, taken, result, s', entries', topmost, reverts, -, later⟩ :=
    calls advanced [entry 1, entry 2, entry 3] 5 ready_advanced (by decide)
  have ready : archive.Ready (repaired s') entries' := ⟨reverts.ready.lists, reverts.ready.dated⟩
  obtain ⟨again, made, s₂, entries₂, perm, -, -, makes, all⟩ := later (repaired s') [stage 4] ready
    pending_advanced fun m _ => List.not_mem_nil
  obtain ⟨issued, retreat, _⟩ := reverts.issued
  have timestamps : asked.map Migration.timestamp = [3, 2, 1] := topmost.topmost
  rcases asked with _ | ⟨third, _ | ⟨second, others⟩⟩
  · cases timestamps
  · simp at timestamps
  obtain ⟨hthird, hsecond⟩ : third.timestamp = 3 ∧ second.timestamp = 2 := by
    simp only [List.map_cons, List.cons.injEq] at timestamps
    exact ⟨timestamps.1, timestamps.2.1⟩
  have thirdLeft : ¬ stays advanced.database third.timestamp := by
    rw [hthird]
    show (3 - 1 : Int) ∉ [1]
    decide
  have secondStays : stays advanced.database second.timestamp := by
    rw [hsecond]
    show (2 - 1 : Int) ∈ [1]
    decide
  cases retreat with
  | failed broken _ => exact absurd broken thirdLeft
  | takenBack _ _ rest =>
    cases rest with
    | takenBack sound _ _ => exact absurd secondStays sound
    | @failed _ _ _ _ error _ _ =>
      exact ⟨e, hmake, _, _, error, s', entries', topmost, reverts, by rw [← hthird]; rfl, again,
        made, s₂, entries₂, perm, makes, all⟩

end Shop

end EntityStore
