import EntityStore.Proofs.Migration.Body

/-!
# Executing migrations once

An executor changes the database and its history by turns: after the transaction of a migration has
ended, one more statement enters the migration in the history or removes it. As long as all of these
statements succeed, the history lists just the migrations that are applied, whatever else fails. Once
one of them has failed, the two do not agree any more at the end of the call.
-/

namespace EntityStore

variable {σ γ : Type}

namespace Executor

/-- The history lists those of the declared migrations that are applied. -/
def Agrees (e : Executor σ) (b : Books) : Prop :=
  ∀ m ∈ e.migrations, (Applied m.timestamp b.changes ↔ m.timestamp ∈ b.listed)

/-- Every declared migration does what it should. -/
structure Performs (e : Executor σ) (a : Account σ γ) : Prop where
  up : ∀ m ∈ e.migrations, a.Performs e.history (.made m.timestamp) m.up
  down : ∀ m ∈ e.migrations, a.Performs e.history (.takenBack m.timestamp) m.down

/-- No entry is among the statements that failed from `before` to `after`, where the history agrees,
and every change was due. -/
structure InStep (e : Executor σ) (failures : List Statement) (before after : Books) : Prop where
  spares : e.history.Spares failures
  agrees : e.Agrees after
  progress : before.Progress after

/-- The history is in step, or an entry has failed and the history does not agree. -/
def InStepOrLapsed (e : Executor σ) (failures : List Statement) (before after : Books) : Prop :=
  e.InStep failures before after ∨ (¬ e.history.Spares failures ∧ ¬ e.Agrees after)

/-- The declared migrations that are not among those of the given `timestamps`. -/
def pending (e : Executor σ) (timestamps : List Int) : List (Migration σ) :=
  e.migrations.filter fun m => !timestamps.contains m.timestamp

variable {e : Executor σ} {b : Books}

theorem mem_pending {timestamps : List Int} {m : Migration σ} :
    m ∈ e.pending timestamps ↔ m ∈ e.migrations ∧ m.timestamp ∉ timestamps := by
  simp [pending]

theorem nodup_pending (e : Executor σ) (timestamps : List Int) :
    ((e.pending timestamps).map Migration.timestamp).Nodup := by
  have sublist : (e.pending timestamps).Sublist e.migrations := List.filter_sublist
  have ascending := e.ascending.sublist (sublist.map Migration.timestamp)
  exact ascending.imp fun hlt => Int.ne_of_lt hlt

theorem Agrees.inStep (h : e.Agrees b) {failures : List Statement}
    (spares : e.history.Spares failures) : e.InStep failures b b :=
  ⟨spares, h, .refl b⟩

theorem InStep.trans {failures failures' : List Statement} {b' b'' : Books}
    (h : e.InStep failures b b') (h' : e.InStep failures' b' b'') :
    e.InStep (failures ++ failures') b b'' :=
  ⟨History.spares_append.2 ⟨h.spares, h'.spares⟩, h'.agrees, h.progress.trans h'.progress⟩

theorem InStep.trans_orLapsed {failures failures' : List Statement} {b' b'' : Books}
    (h : e.InStep failures b b') (h' : e.InStepOrLapsed failures' b' b'') :
    e.InStepOrLapsed (failures ++ failures') b b'' := by
  rcases h' with inStep | ⟨failed, apart⟩
  · exact .inl (h.trans inStep)
  · exact .inr ⟨History.not_spares_append_of_right _ failed, apart⟩

theorem Agrees.made (h : e.Agrees b) (t : Int) : e.Agrees ((b.push (.made t)).list t) := by
  intro m hm
  simp only [Books.push, Books.list, Applied, Finset.mem_insert, h m hm]
  constructor
  · rintro (rfl | listed)
    · exact .inl rfl
    · exact .inr listed
  · rintro (same | listed)
    · exact .inl same.symm
    · exact .inr listed

theorem Agrees.takenBack (h : e.Agrees b) (t : Int) : e.Agrees ((b.push (.takenBack t)).unlist t) := by
  intro m hm
  simp only [Books.push, Books.unlist, Applied, Finset.mem_erase, h m hm]
  constructor
  · rintro ⟨other, listed⟩
    exact ⟨fun same => other same.symm, listed⟩
  · rintro ⟨other, listed⟩
    exact ⟨fun same => other same.symm, listed⟩

theorem Agrees.inStep_made (h : e.Agrees b) {m : Migration σ} (hm : m ∈ e.migrations)
    (unlisted : m.timestamp ∉ b.listed) {failures : List Statement}
    (spares : e.history.Spares failures) :
    e.InStep failures b ((b.push (.made m.timestamp)).list m.timestamp) := by
  refine ⟨spares, h.made m.timestamp, ?_⟩
  have due : (Change.made m.timestamp).Due b.changes := by
    intro applied
    exact unlisted ((h m hm).1 applied)
  exact Books.Progress.push due rfl

theorem Agrees.inStep_takenBack (h : e.Agrees b) {m : Migration σ} (hm : m ∈ e.migrations)
    (listed : m.timestamp ∈ b.listed) {failures : List Statement}
    (spares : e.history.Spares failures) :
    e.InStep failures b ((b.push (.takenBack m.timestamp)).unlist m.timestamp) := by
  refine ⟨spares, h.takenBack m.timestamp, ?_⟩
  have due : (Change.takenBack m.timestamp).Due b.changes := (h m hm).2 listed
  exact Books.Progress.push due rfl

theorem not_agrees_of_unlisted {m : Migration σ} (hm : m ∈ e.migrations)
    (applied : Applied m.timestamp b.changes) (unlisted : m.timestamp ∉ b.listed) : ¬ e.Agrees b := by
  intro agrees
  exact unlisted ((agrees m hm).1 applied)

theorem not_agrees_of_listed {m : Migration σ} (hm : m ∈ e.migrations)
    (unapplied : ¬ Applied m.timestamp b.changes) (listed : m.timestamp ∈ b.listed) :
    ¬ e.Agrees b := by
  intro agrees
  exact unapplied ((agrees m hm).2 listed)

theorem declared_eq_ok {row : ExecutedMigration} {m : Migration σ} (h : e.declared row = .ok m) :
    m ∈ e.migrations ∧ m.timestamp = row.timestamp := by
  unfold declared at h
  split at h
  · rename_i found
    cases h
    exact ⟨List.mem_of_find?_eq_some found, by simpa using List.find?_some found⟩
  · cases h

end Executor

/-! ## A migration and its entry -/

/-- How a `change` and its `entry` in a history can end. -/
inductive Ends {α : Type} (h : History σ) (change : Change) (entry : Books → Books) (before : Books) :
    Except Error α → List Statement → Books → Prop where
  /-- Both have succeeded. -/
  | done (r : α) {failures : List Statement} (spares : h.Spares failures) :
    Ends h change entry before (.ok r) failures (entry (before.push change))
  /-- There is no change. -/
  | undone (error : Error) {failures : List Statement} (spares : h.Spares failures) :
    Ends h change entry before (.error error) failures before
  /-- Only the entry has failed. -/
  | lapsed (error : Error) {failures : List Statement} (entry_failed : ¬ h.Spares failures) :
    Ends h change entry before (.error error) failures (before.push change)

theorem Account.Enters.ends {a : Account σ γ} {h : History σ} {change : Change}
    {entry : Books → Books} {db db' db'' : σ} {result : Except Error Unit}
    {failures : List Statement} (enters : a.Enters h entry db' db'' result)
    (spares : h.Spares failures) (reaches : a.Reaches db db' failures ((a.durable db).push change)) :
    ∃ failures' b, a.Reaches db db'' failures' b ∧
      Ends h change entry (a.durable db) result failures' b := by
  obtain ⟨_, failures', ⟨rfl, spares', reaches'⟩ | ⟨error, rfl, failed, reaches'⟩⟩ := enters
  · rw [reaches.durable] at reaches'
    exact ⟨_, _, reaches.trans reaches', .done () (History.spares_append.2 ⟨spares, spares'⟩)⟩
  · rw [reaches.durable] at reaches'
    exact ⟨_, _, reaches.trans reaches', .lapsed error (History.not_spares_append_of_right _ failed)⟩

namespace Account.Keeps

variable {a : Account σ γ} {e : Executor σ} (keeps : a.Keeps e.history) (performs : e.Performs a)

include keeps performs

theorem ends_up {m : Migration σ} (hm : m ∈ e.migrations) {s : Session σ}
    (settled : a.Settled s.database) :
    ∃ result s' failures b, (m.runUp e.connection >>= fun elapsed =>
        e.history.insert m.timestamp m.name elapsed) s = (result, s') ∧
      a.Reaches s.database s'.database failures b ∧
      Ends e.history (.made m.timestamp) (fun b => b.list m.timestamp)
        (a.durable s.database) result failures b := by
  obtain ⟨result, s', failures, hrun, spares, outcome⟩ :=
    keeps.runTimed_outcome (performs.up m hm) settled
  rcases outcome with ⟨elapsed, rfl, idle, reaches⟩ | ⟨error, rfl, reaches⟩
  · obtain ⟨result, s'', hinsert, enters⟩ := keeps.enters_insert m.timestamp m.name elapsed idle
    obtain ⟨failures', b, reaches', ends⟩ := enters.ends spares reaches
    exact ⟨result, s'', failures', b, (bind_ok hrun).trans hinsert, reaches', ends⟩
  · exact ⟨_, s', _, _, bind_error hrun, reaches, .undone error spares⟩

theorem ends_down {m : Migration σ} (hm : m ∈ e.migrations) {s : Session σ}
    (settled : a.Settled s.database) :
    ∃ result s' failures b, (m.runDown e.connection >>= fun _ =>
        SessionM.atDatabase (e.history.delete m.timestamp)) s = (result, s') ∧
      a.Reaches s.database s'.database failures b ∧
      Ends e.history (.takenBack m.timestamp) (fun b => b.unlist m.timestamp)
        (a.durable s.database) result failures b := by
  obtain ⟨result, s', failures, hrun, spares, outcome⟩ :=
    keeps.runTimed_outcome (performs.down m hm) settled
  rcases outcome with ⟨elapsed, rfl, idle, reaches⟩ | ⟨error, rfl, reaches⟩
  · obtain ⟨result, db, hdelete, enters⟩ := keeps.enters_delete m.timestamp idle
    have hdelete : SessionM.atDatabase (e.history.delete m.timestamp) s' =
        (result, { s' with database := db }) := by
      rw [SessionM.atDatabase_apply, hdelete]
    obtain ⟨failures', b, reaches', ends⟩ := enters.ends spares reaches
    exact ⟨result, _, failures', b, (bind_ok hrun).trans hdelete, reaches', ends⟩
  · exact ⟨_, s', _, _, bind_error hrun, reaches, .undone error spares⟩

/-! ## Several migrations -/

theorem runUp_outcome {ms : List (Migration σ)} (declared : ∀ m ∈ ms, m ∈ e.migrations)
    {s : Session σ} (settled : a.Settled s.database) :
    ∃ result s' failures b, e.runUp ms s = (result, s') ∧
      a.Reaches s.database s'.database failures b ∧
      (e.Agrees (a.durable s.database) → (ms.map Migration.timestamp).Nodup →
        (∀ m ∈ ms, m.timestamp ∉ (a.durable s.database).listed) →
        (e.InStep failures (a.durable s.database) b ∧ (a.durable s.database).listed ⊆ b.listed ∧
          (result.isOk → ∀ m ∈ ms, m.timestamp ∈ b.listed)) ∨
        (¬ e.history.Spares failures ∧ result.isOk = false ∧
          ∃ m ∈ e.migrations, Applied m.timestamp b.changes ∧ m.timestamp ∉ b.listed)) := by
  induction ms generalizing s with
  | nil =>
    refine ⟨.ok [], s, [], _, rfl, .refl settled, ?_⟩
    intro agrees _ _
    left
    exact ⟨agrees.inStep History.spares_nil, Finset.Subset.refl _, fun _ m hm => by cases hm⟩
  | cons m rest ih =>
    obtain ⟨hm, hrest⟩ := List.forall_mem_cons.1 declared
    obtain ⟨result, s', failures, b, hfirst, reaches, ends⟩ :=
      ends_up keeps performs hm settled
    -- A migration and its entry are taken as one step, after which the history agrees again.
    have both : e.runUp (m :: rest) s = ((m.runUp e.connection >>= fun elapsed =>
        e.history.insert m.timestamp m.name elapsed) >>= fun _ =>
          e.runUp rest >>= fun timestamps => pure (m.timestamp :: timestamps)) s := by
      rw [bind_assoc]
      rfl
    rw [both]
    cases ends with
    | undone error spares =>
      refine ⟨.error error, s', failures, _, bind_error hfirst, reaches, ?_⟩
      intro agrees _ _
      left
      exact ⟨agrees.inStep spares, Finset.Subset.refl _, fun ok => by cases ok⟩
    | lapsed error failed =>
      refine ⟨.error error, s', failures, _, bind_error hfirst, reaches, ?_⟩
      intro _ _ pending
      right
      exact ⟨failed, rfl, m, hm, .inl rfl, pending m (List.mem_cons_self ..)⟩
    | done r spares =>
      obtain ⟨result', s'', failures', b', hothers, reaches', outcome⟩ := ih hrest reaches.settled
      refine ⟨result'.map (m.timestamp :: ·), s'', _, b', ?_, reaches.trans reaches', ?_⟩
      · rw [bind_ok hfirst, bind_pure_map, hothers]
      · intro agrees distinct pending
        obtain ⟨new, distinct⟩ := List.nodup_cons.1 distinct
        have unlisted := pending m (List.mem_cons_self ..)
        have first := agrees.inStep_made hm unlisted spares
        rw [reaches.durable] at outcome
        have pending' : ∀ m' ∈ rest, m'.timestamp ∉
            (((a.durable s.database).push (.made m.timestamp)).list m.timestamp).listed := by
          intro m' hm' listed
          rcases Finset.mem_insert.1 listed with same | listed
          · exact new (List.mem_map.2 ⟨m', hm', same⟩)
          · exact pending m' (List.mem_cons_of_mem _ hm') listed
        rcases outcome first.agrees distinct pending' with
          ⟨inStep, more, all⟩ | ⟨failed, error, lapse⟩
        · left
          refine ⟨first.trans inStep, (Finset.subset_insert _ _).trans more, ?_⟩
          intro ok
          rw [Except.isOk_map] at ok
          exact List.forall_mem_cons.2 ⟨more (Finset.mem_insert_self _ _), all ok⟩
        · right
          refine ⟨History.not_spares_append_of_right _ failed, ?_, lapse⟩
          rw [Except.isOk_map]
          exact error

/-- Taking migrations back that are listed. What is told of other timestamps stays the same. -/
theorem runDown_outcome (rows : List ExecutedMigration) {s : Session σ}
    (settled : a.Settled s.database) :
    ∃ result s' failures b, e.runDown rows s = (result, s') ∧
      a.Reaches s.database s'.database failures b ∧
      (∀ t ∉ rows.map ExecutedMigration.timestamp, Books.SameAt t (a.durable s.database) b) ∧
      (e.Agrees (a.durable s.database) → (rows.map ExecutedMigration.timestamp).Nodup →
        (∀ row ∈ rows, row.timestamp ∈ (a.durable s.database).listed) →
        e.InStepOrLapsed failures (a.durable s.database) b) := by
  induction rows generalizing s with
  | nil =>
    refine ⟨.ok [], s, [], _, rfl, .refl settled, fun t _ => .refl t _, ?_⟩
    intro agrees _ _
    exact .inl (agrees.inStep History.spares_nil)
  | cons row rest ih =>
    have unfolded : e.runDown (row :: rest) s = ((e.declared row : SessionM σ (Migration σ)) >>=
        fun m => (m.runDown e.connection >>= fun _ =>
          SessionM.atDatabase (e.history.delete row.timestamp)) >>= fun _ =>
            e.runDown rest >>= fun timestamps => pure (row.timestamp :: timestamps)) s := by
      simp only [bind_assoc]
      rfl
    rw [unfolded]
    cases found : e.declared row with
    | error error =>
      refine ⟨.error error, s, [], _, bind_error rfl, .refl settled, fun t _ => .refl t _, ?_⟩
      intro agrees _ _
      exact .inl (agrees.inStep History.spares_nil)
    | ok m =>
      obtain ⟨hm, same⟩ := Executor.declared_eq_ok found
      obtain ⟨result, s', failures, b, hfirst, reaches, ends⟩ := ends_down keeps performs hm settled
      rw [same] at hfirst ends
      have lifted : ((.ok m : Except Error (Migration σ)) : SessionM σ (Migration σ)) s =
          (.ok m, s) := rfl
      rw [bind_ok lifted]
      cases ends with
      | undone error spares =>
        refine ⟨.error error, s', failures, _, bind_error hfirst, reaches, fun t _ => .refl t _, ?_⟩
        intro agrees _ _
        exact .inl (agrees.inStep spares)
      | lapsed error failed =>
        refine ⟨.error error, s', failures, _, bind_error hfirst, reaches, ?_, ?_⟩
        · intro t ht
          exact Books.sameAt_push_takenBack (List.ne_of_not_mem_cons ht) _
        · intro _ _ listed
          right
          refine ⟨failed, Executor.not_agrees_of_listed hm ?_ ?_⟩
          · rw [same]
            rintro ⟨other, _⟩
            exact other rfl
          · rw [same]
            exact listed row (List.mem_cons_self ..)
      | done r spares =>
        obtain ⟨result', s'', failures', b', hothers, reaches', frame, outcome⟩ := ih reaches.settled
        rw [reaches.durable] at frame outcome
        refine ⟨result'.map (row.timestamp :: ·), s'', _, b', ?_, reaches.trans reaches', ?_, ?_⟩
        · rw [bind_ok hfirst, bind_pure_map, hothers]
        · intro t ht
          have other := List.ne_of_not_mem_cons ht
          exact ((Books.sameAt_push_takenBack other _).trans (Books.sameAt_unlist other _)).trans
            (frame t (List.not_mem_of_not_mem_cons ht))
        · intro agrees distinct listed
          obtain ⟨new, distinct⟩ := List.nodup_cons.1 distinct
          have first := agrees.inStep_takenBack hm
            (by rw [same]; exact listed row (List.mem_cons_self ..)) spares
          rw [same] at first
          have listed' : ∀ row' ∈ rest, row'.timestamp ∈
              (((a.durable s.database).push (.takenBack row.timestamp)).unlist
                row.timestamp).listed := by
            intro row' hrow'
            refine Finset.mem_erase.2 ⟨?_, listed row' (List.mem_cons_of_mem _ hrow')⟩
            intro same'
            exact new (List.mem_map.2 ⟨row', hrow', same'⟩)
          exact first.trans_orLapsed (outcome first.agrees distinct listed')

/-! ## Whole calls -/

omit performs in
theorem executed_outcome (columns : e.history.table.columns = historyColumns) {s : Session σ}
    (settled : a.Settled s.database) :
    ∃ result s' failures, SessionM.atDatabase e.executed s = (result, s') ∧
      e.history.Spares failures ∧
      a.Reaches s.database s'.database failures (a.durable s.database) ∧
      ∀ executed, result = .ok executed →
        (a.durable s.database).Lists (executed.map ExecutedMigration.timestamp) := by
  obtain ⟨result, db, failures, hensure, spares, reaches⟩ := keeps.ensure settled
  have start : e.start s.database = (result, db) := hensure
  cases result with
  | error error =>
    have failed : e.executed s.database = (.error error, db) := bind_error start
    refine ⟨.error error, { s with database := db }, failures, ?_, spares, reaches, ?_⟩
    · rw [SessionM.atDatabase_apply, failed]
    · rintro executed ⟨⟩
  | ok u =>
    obtain ⟨result, db', failures', hexecuted, spares', reaches', timestamps⟩ :=
      keeps.executed columns reaches.settled
    rw [reaches.durable] at reaches' timestamps
    have both : e.executed s.database = (result, db') := (bind_ok start).trans hexecuted
    refine ⟨result, { s with database := db' }, _, ?_,
      History.spares_append.2 ⟨spares, spares'⟩, reaches.trans reaches', timestamps⟩
    rw [SessionM.atDatabase_apply, both]

theorem executePending_outcome (columns : e.history.table.columns = historyColumns) {s : Session σ}
    (settled : a.Settled s.database) :
    ∃ result s' failures b, e.executePending s = (result, s') ∧
      a.Reaches s.database s'.database failures b ∧
      (e.Agrees (a.durable s.database) →
        (e.InStep failures (a.durable s.database) b ∧
          (result.isOk → ∀ m ∈ e.migrations, m.timestamp ∈ b.listed)) ∨
        (¬ e.history.Spares failures ∧ result.isOk = false ∧
          ∃ m ∈ e.migrations, Applied m.timestamp b.changes ∧ m.timestamp ∉ b.listed)) := by
  obtain ⟨result, s', failures, hexecuted, spares, reaches, timestamps⟩ :=
    executed_outcome keeps columns settled
  cases result with
  | error error =>
    refine ⟨.error error, s', failures, _, bind_error hexecuted, reaches, ?_⟩
    intro agrees
    exact .inl ⟨agrees.inStep spares, fun ok => by cases ok⟩
  | ok executed =>
    obtain ⟨-, listed⟩ := timestamps executed rfl
    have declared : ∀ m ∈ e.pending (executed.map ExecutedMigration.timestamp),
        m ∈ e.migrations := by
      intro m hm
      exact (Executor.mem_pending.1 hm).1
    obtain ⟨result, s'', failures', b, hrun, reaches', outcome⟩ :=
      runUp_outcome keeps performs declared reaches.settled
    rw [reaches.durable] at outcome
    refine ⟨result, s'', _, b, (bind_ok hexecuted).trans hrun, reaches.trans reaches', ?_⟩
    intro agrees
    have unlisted : ∀ m ∈ e.pending (executed.map ExecutedMigration.timestamp),
        m.timestamp ∉ (a.durable s.database).listed := by
      intro m hm
      rw [← listed]
      exact (Executor.mem_pending.1 hm).2
    rcases outcome agrees (e.nodup_pending _) unlisted with
      ⟨inStep, more, all⟩ | ⟨failed, error, lapse⟩
    · left
      refine ⟨(agrees.inStep spares).trans inStep, ?_⟩
      intro ok m hm
      by_cases hlisted : m.timestamp ∈ (a.durable s.database).listed
      · exact more hlisted
      · rw [← listed] at hlisted
        exact all ok m (Executor.mem_pending.2 ⟨hm, hlisted⟩)
    · right
      exact ⟨History.not_spares_append_of_right _ failed, error, lapse⟩

theorem revert_outcome (columns : e.history.table.columns = historyColumns) (steps : Nat)
    {s : Session σ} (settled : a.Settled s.database) :
    ∃ result s' failures b, e.revert steps s = (result, s') ∧
      a.Reaches s.database s'.database failures b ∧
      (∀ t ∉ (a.durable s.database).listed, Books.SameAt t (a.durable s.database) b) ∧
      (e.Agrees (a.durable s.database) → e.InStepOrLapsed failures (a.durable s.database) b) := by
  unfold Executor.revert
  by_cases none : steps = 0
  · rw [if_pos none]
    refine ⟨.ok [], s, [], _, rfl, .refl settled, fun t _ => .refl t _, ?_⟩
    intro agrees
    exact .inl (agrees.inStep History.spares_nil)
  · rw [if_neg none]
    obtain ⟨result, s', failures, hexecuted, spares, reaches, timestamps⟩ :=
      executed_outcome keeps columns settled
    cases result with
    | error error =>
      refine ⟨.error error, s', failures, _, bind_error hexecuted, reaches, fun t _ => .refl t _, ?_⟩
      intro agrees
      exact .inl (agrees.inStep spares)
    | ok executed =>
      have lists := timestamps executed rfl
      have sublist : (((executed.drop (executed.length - steps)).reverse.map
          ExecutedMigration.timestamp).reverse).Sublist
            (executed.map ExecutedMigration.timestamp) := by
        rw [← List.map_reverse, List.reverse_reverse]
        exact (List.drop_sublist _ _).map _
      have listed : ∀ t ∈ (executed.drop (executed.length - steps)).reverse.map
          ExecutedMigration.timestamp, t ∈ (a.durable s.database).listed := by
        intro t ht
        rw [← lists.2]
        exact sublist.subset (List.mem_reverse.2 ht)
      obtain ⟨result, s'', failures', b, hrun, reaches', frame, outcome⟩ :=
        runDown_outcome keeps performs (executed.drop (executed.length - steps)).reverse
          reaches.settled
      rw [reaches.durable] at frame outcome
      refine ⟨result, s'', _, b, (bind_ok hexecuted).trans hrun, reaches.trans reaches', ?_, ?_⟩
      · intro t ht
        exact frame t fun hrow => ht (listed t hrow)
      · intro agrees
        have distinct : ((executed.drop (executed.length - steps)).reverse.map
            ExecutedMigration.timestamp).Nodup := by
          rw [← List.nodup_reverse]
          exact sublist.nodup lists.nodup
        have listed' : ∀ row ∈ (executed.drop (executed.length - steps)).reverse,
            row.timestamp ∈ (a.durable s.database).listed := by
          intro row hrow
          exact listed _ (List.mem_map.2 ⟨row, hrow, rfl⟩)
        exact (agrees.inStep spares).trans_orLapsed (outcome agrees distinct listed')

theorem bootstrap_outcome (columns : e.history.table.columns = historyColumns) {s : Session σ}
    (settled : a.Settled s.database) :
    ∃ result s' failures b, e.bootstrap s = (result, s') ∧
      a.Reaches s.database s'.database failures b ∧
      (e.Agrees (a.durable s.database) → e.InStepOrLapsed failures (a.durable s.database) b) := by
  obtain ⟨result, s', failures, b, hpending, reaches, outcome⟩ :=
    executePending_outcome keeps performs columns settled
  unfold Executor.bootstrap
  rw [SessionM.outcome_bind, hpending]
  cases result with
  | ok timestamps =>
    refine ⟨.ok timestamps, s', failures, b, rfl, reaches, ?_⟩
    intro agrees
    rcases outcome agrees with ⟨inStep, _⟩ | ⟨_, error, _⟩
    · exact .inl inStep
    · cases error
  | error error =>
    obtain ⟨result, s'', failures', b', hrevert, reaches', frame, outcome'⟩ :=
      revert_outcome keeps performs columns 1 reaches.settled
    rw [reaches.durable] at frame outcome'
    refine ⟨.error error, s'', _, b', ?_, reaches.trans reaches', ?_⟩
    · show ((e.revert 1).outcome >>= fun _ => throw error : SessionM σ (List Int)) s' = _
      rw [SessionM.outcome_bind, hrevert]
      rfl
    · intro agrees
      rcases outcome agrees with ⟨inStep, _⟩ | ⟨failed, _, m, hm, applied, unlisted⟩
      · exact inStep.trans_orLapsed (outcome' inStep.agrees)
      · -- The migration that was not entered is not in the history, so it is not taken back.
        right
        obtain ⟨sameListed, sameApplied⟩ := frame m.timestamp unlisted
        refine ⟨History.not_spares_append_of_left failed _, ?_⟩
        apply Executor.not_agrees_of_unlisted hm
        · exact sameApplied.2 applied
        · rw [sameListed]
          exact unlisted

end Account.Keeps

end EntityStore
