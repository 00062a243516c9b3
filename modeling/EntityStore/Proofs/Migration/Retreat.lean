import EntityStore.Proofs.Migration.Attempt

/-!
# Migrations taken back one after another

The last migrations of a history are taken back in order, the last one first, each in a transaction of
its own that is followed by the removal of its row, up to the first one that cannot be taken back. The
rows of that one and of those before it stay.
-/

namespace EntityStore

variable {σ γ : Type}

/-- The migration that makes what `m` takes back. -/
def Migration.reversed (m : Migration σ) : Migration σ := { m with up := m.down, down := m.up }

/-! ## Rows that are removed -/

namespace ExecutedMigration

/-- Without the rows of the timestamp `t`, its entry is not listed. -/
theorem Listed.remove {rows rows' removed : List Record} {entries : List ExecutedMigration}
    (listed : Listed rows entries) {t : Int} (perm : rows.Perm (removed ++ rows'))
    (gone : ∀ row ∈ removed, row.get? "timestamp" = some (.int t))
    (kept : ∀ row ∈ rows', row.get? "timestamp" ≠ some (.int t)) :
    Listed rows' (entries.filter fun entry => entry.timestamp ≠ t) := by
  classical
  obtain ⟨ascending, arranged, arrangement, reads⟩ := listed
  refine ⟨ascending.sublist List.filter_sublist,
    arranged.filter fun row => row.get? "timestamp" ≠ some (.int t), ?_, ?_⟩
  · have left : (removed ++ rows').filter (fun row => row.get? "timestamp" ≠ some (.int t)) =
        rows' := by
      have none : removed.filter (fun row => row.get? "timestamp" ≠ some (.int t)) = [] :=
        List.filter_eq_nil_iff.2 fun row hrow => by simpa using gone row hrow
      have all : rows'.filter (fun row => row.get? "timestamp" ≠ some (.int t)) = rows' :=
        List.filter_eq_self.2 fun row hrow => by simpa using kept row hrow
      rw [List.filter_append, none, all, List.nil_append]
    rw [← left]
    exact (arrangement.trans perm).filter _
  · refine List.rel_filter ?_ reads
    intro row entry read
    simp [read.timestamp]

/-- The last `entry` is the one of its timestamp. -/
theorem filter_last {left : List ExecutedMigration} {entry : ExecutedMigration}
    (ascending : Ascending timestamp (left ++ [entry])) :
    (left ++ [entry]).filter (fun other => other.timestamp ≠ entry.timestamp) = left := by
  obtain ⟨-, -, least⟩ := List.pairwise_append.1 ascending
  have others : left.filter (fun other => other.timestamp ≠ entry.timestamp) = left := by
    refine List.filter_eq_self.2 fun other hother => ?_
    have less := least other hother entry (List.mem_singleton_self entry)
    simpa using ne_of_lt less
  rw [List.filter_append, others]
  simp

end ExecutedMigration

namespace Archive

/-- The archive with what `undo` tells of failures. -/
def failing (a : Archive σ γ) (undo : σ → Int → Prop) : Archive σ γ := { a with fails := undo }

/-- What is told of taking migrations back may follow from what is told of making them. -/
theorem Keeps.failing {a : Archive σ γ} {h : History σ} (keeps : a.Keeps h)
    (told : (Int → Prop) → Int → Prop) : (a.failing fun db => told (a.fails db)).Keeps h := by
  have takes : ∀ {α : Type} {st : Statement} {db : σ} {wanted : α → Store γ → Prop}
      {outcome : Except Error α × σ}, a.Takes st db wanted outcome →
      (a.failing fun db => told (a.fails db)).Takes st db wanted outcome := by
    rintro α st db wanted outcome ⟨r, db', answer, passes, as_wanted⟩
    exact ⟨r, db', answer, ⟨passes.log, congrArg told passes.fails⟩, as_wanted⟩
  exact
    { supported := keeps.supported
      control := fun hc allowed => takes (keeps.control hc allowed)
      create := fun closed => takes (keeps.create closed)
      insert := fun t name now elapsed closed fresh =>
        takes (keeps.insert t name now elapsed closed fresh)
      select := fun closed => takes (keeps.select closed) }

/-- The archive is of a database that keeps `h` and removes rows from it, and of which two things
are told of every timestamp: whether it fails to make the migration, and, by `undo`, whether it
fails to take it back. -/
structure Restores (a : Archive σ γ) (undo : σ → Int → Prop) (h : History σ) : Prop where
  keeps : a.Keeps h
  keepsBack : (a.failing undo).Keeps h
  delete : ∀ {db d} t, a.store db = ⟨d, none⟩ →
    (a.failing undo).Takes (h.deleteStatement t) db
      (fun _ store => ∃ d' removed, store = ⟨d', none⟩ ∧ (a.rows d).Perm (removed ++ a.rows d') ∧
        (∀ row ∈ removed, row.get? "timestamp" = some (.int t)) ∧
        ∀ row ∈ a.rows d', row.get? "timestamp" ≠ some (.int t))
      (h.connection.driver.run (h.deleteStatement t) db)

/-- After the statements of a log, migrations are taken back in order, up to the first one for which
that fails, with a result and by further statements. -/
inductive Retreat (a : Archive σ γ) (h : History σ) (fails : Int → Prop) : List Statement →
    List (Migration σ) → List (Migration σ) → Except Error (List Int) → List Statement → Prop where
  /-- None is left. -/
  | done (log : List Statement) : Retreat a h fails log [] [] (.ok []) []
  /-- The first one cannot be taken back, which is rolled back. -/
  | failed {log own : List Statement} {m : Migration σ} {rest : List (Migration σ)} {error : Error}
    (broken : fails m.timestamp) (ran : a.Ran h m.reversed log own (.error error)) :
    Retreat a h fails log (m :: rest) [] (.error error) (enclosed h own "ROLLBACK")
  /-- That the first one is taken back is committed, and then its row is removed, before the next
  one begins. -/
  | takenBack {log own : List Statement} {m : Migration σ} {rest others : List (Migration σ)}
    {result : Except Error (List Int)} {issued : List Statement} (sound : ¬ fails m.timestamp)
    (ran : a.Ran h m.reversed log own (.ok ()))
    (later : Retreat a h fails (log ++ (enclosed h own "COMMIT" ++ [h.deleteStatement m.timestamp]))
      rest others result issued) :
    Retreat a h fails log (m :: rest) (m :: others) (result.map (m.timestamp :: ·))
      (enclosed h own "COMMIT" ++ [h.deleteStatement m.timestamp] ++ issued)

section

variable {a : Archive σ γ} {h : History σ} {fails : Int → Prop} {log issued : List Statement}
  {asked taken : List (Migration σ)} {result : Except Error (List Int)}

/-- Those that were `taken` back are the first ones that were `asked` for. -/
theorem Retreat.exists_rest (retreat : a.Retreat h fails log asked taken result issued) :
    ∃ rest, asked = taken ++ rest := by
  induction retreat with
  | done => exact ⟨[], rfl⟩
  | @failed _ _ m rest _ _ _ => exact ⟨m :: rest, rfl⟩
  | @takenBack _ _ m _ _ _ _ _ _ _ ih =>
    obtain ⟨rest, hrest⟩ := ih
    exact ⟨rest, congrArg (m :: ·) hrest⟩

/-- The timestamps of all that were `taken` back are answered, or there is an error. -/
theorem Retreat.answered (retreat : a.Retreat h fails log asked taken result issued) :
    ∀ timestamps, result = .ok timestamps →
      taken = asked ∧ timestamps = taken.map Migration.timestamp := by
  induction retreat with
  | done =>
    rintro timestamps ⟨⟩
    exact ⟨rfl, rfl⟩
  | failed _ _ => rintro timestamps ⟨⟩
  | @takenBack _ _ m _ _ result _ _ _ _ ih =>
    intro timestamps ok
    cases result with
    | error e => cases ok
    | ok others =>
      cases ok
      obtain ⟨all, same⟩ := ih others rfl
      exact ⟨congrArg (m :: ·) all, congrArg (m.timestamp :: ·) same⟩

/-- An error is the one of the first migration that cannot be taken back. -/
theorem Retreat.stopped (retreat : a.Retreat h fails log asked taken result issued) :
    ∀ error, result = .error error → ∃ m rest log' own, asked = taken ++ m :: rest ∧
      fails m.timestamp ∧ a.Ran h m.reversed log' own (.error error) := by
  induction retreat with
  | done => rintro error ⟨⟩
  | @failed log own m rest error broken ran =>
    rintro error' ⟨⟩
    exact ⟨m, rest, log, own, rfl, broken, ran⟩
  | @takenBack _ _ m _ _ result _ _ _ _ ih =>
    intro error failed
    cases result with
    | ok others => cases failed
    | error e =>
      cases failed
      obtain ⟨m', rest, log', own, hasked, broken, ran⟩ := ih error rfl
      exact ⟨m', rest, log', own, congrArg (m :: ·) hasked, broken, ran⟩

/-- Where none of them fails, all are taken back. -/
theorem Retreat.all_taken (retreat : a.Retreat h fails log asked taken result issued)
    (sound : ∀ m ∈ asked, ¬ fails m.timestamp) :
    taken = asked ∧ result = .ok (asked.map Migration.timestamp) := by
  cases result with
  | ok timestamps =>
    obtain ⟨rfl, rfl⟩ := retreat.answered timestamps rfl
    exact ⟨rfl, rfl⟩
  | error e =>
    obtain ⟨m, rest, _, _, rfl, broken, _⟩ := retreat.stopped e rfl
    exact absurd broken (sound m (by simp))

end

/-! ## One migration after another -/

namespace Restores

variable {a : Archive σ γ} {undo : σ → Int → Prop} {h : History σ} (restores : a.Restores undo h)

include restores

/-- The row of the last `entry` is removed, and no other one. -/
theorem remove {db : σ} {left : List ExecutedMigration} {entry : ExecutedMigration}
    (lists : a.Lists db (left ++ [entry])) :
    ∃ db', h.delete entry.timestamp db = (.ok (), db') ∧
      (a.failing undo).Passes db db' [h.deleteStatement entry.timestamp] ∧ a.Lists db' left := by
  obtain ⟨d, closed, listed⟩ := lists
  obtain ⟨r, db', hrun, passes, d', removed, closed', perm, gone, kept⟩ :=
    restores.delete entry.timestamp closed
  have listed' := listed.remove perm gone kept
  rw [ExecutedMigration.filter_last listed.1] at listed'
  refine ⟨db', ?_, passes, d', closed', listed'⟩
  rw [h.delete_apply, hrun]
  rfl

/-- That the last migration is taken back is committed, and then its row is removed. -/
theorem takenBack_removed {m : Migration σ} (obeys : (a.failing undo).Obeys h m.reversed)
    {s : Session σ} {left : List ExecutedMigration} {entry : ExecutedMigration}
    (lists : a.Lists s.database (left ++ [entry])) (same : m.timestamp = entry.timestamp)
    (sound : ¬ undo s.database m.timestamp) :
    ∃ own s', (m.runDown h.connection >>= fun _ =>
        SessionM.atDatabase (h.delete entry.timestamp)) s = (.ok (), s') ∧
      s'.outside = s.outside ∧
      (a.failing undo).Ran h m.reversed (a.log s.database) own (.ok ()) ∧
      (a.failing undo).Passes s.database s'.database
        (enclosed h own "COMMIT" ++ [h.deleteStatement m.timestamp]) ∧
      a.Lists s'.database left := by
  obtain ⟨own, committed, outside, lists', outcome⟩ := restores.keepsBack.runUp obeys lists
  rcases outcome with ⟨_, ran, passes, elapsed, hrun⟩ | ⟨broken, _⟩
  · obtain ⟨db, hdelete, passes', lists''⟩ := restores.remove lists'
    have deleted : SessionM.atDatabase (h.delete entry.timestamp) committed =
        (.ok (), { committed with database := db }) := by
      rw [SessionM.atDatabase_apply, hdelete]
    rw [← same] at passes'
    exact ⟨own, { committed with database := db }, (bind_ok hrun).trans deleted, outside, ran,
      passes.trans passes', lists''⟩
  · exact absurd broken sound

end Restores

/-- The last entries of a history are taken back one after another, the last one first, up to the
first one for which that fails. -/
theorem Restores.runDown_retreat {a : Archive σ γ} {undo : σ → Int → Prop} {e : Executor σ}
    (restores : a.Restores undo e.history) {top : List ExecutedMigration}
    {asked : List (Migration σ)} (declared : List.Forall₂ (fun entry m => e.declared entry = .ok m)
      top asked)
    (obeys : ∀ m ∈ asked, (a.failing undo).Obeys e.history m.reversed) {s : Session σ}
    {left : List ExecutedMigration} (lists : a.Lists s.database (left ++ top.reverse)) :
    ∃ result s' taken issued, e.runDown top s = (result, s') ∧ s'.outside = s.outside ∧
      (a.failing undo).Retreat e.history (undo s.database) (a.log s.database) asked taken result
        issued ∧
      (a.failing undo).Passes s.database s'.database issued ∧
      a.Lists s'.database (left ++ (top.drop taken.length).reverse) := by
  induction declared generalizing s with
  | nil => exact ⟨.ok [], s, [], [], rfl, rfl, .done _, .refl _ _, lists⟩
  | @cons entry m rest others found _ ih =>
    obtain ⟨hm, hothers⟩ := List.forall_mem_cons.1 obeys
    have same : m.timestamp = entry.timestamp := (Executor.declared_eq_ok found).2
    rw [List.reverse_cons, ← List.append_assoc] at lists
    -- A migration and the removal of its row are taken as one step.
    have both : e.runDown (entry :: rest) s = ((m.runDown e.connection >>= fun _ =>
        SessionM.atDatabase (e.history.delete entry.timestamp)) >>= fun _ =>
          e.runDown rest >>= fun timestamps => pure (entry.timestamp :: timestamps)) s := by
      have first : ((e.declared entry : Except Error (Migration σ)) : SessionM σ (Migration σ)) s =
          (.ok m, s) := by
        rw [found]
        rfl
      rw [bind_assoc]
      exact bind_ok first
    rw [both]
    by_cases broken : undo s.database m.timestamp
    · obtain ⟨own, s', outside, lists', outcome⟩ := restores.keepsBack.runUp hm lists
      rcases outcome with ⟨sound, _⟩ | ⟨_, error, ran, passes, hrun⟩
      · exact absurd broken sound
      · refine ⟨.error error, s', [], _, bind_error (bind_error hrun), outside, .failed broken ran,
          passes, ?_⟩
        rw [List.length_nil, List.drop_zero, List.reverse_cons, ← List.append_assoc]
        exact lists'
    · obtain ⟨own, s', hfirst, outside, ran, passes, lists'⟩ :=
        restores.takenBack_removed hm lists same broken
      obtain ⟨result, s'', taken, issued, hrest, outside', retreat, passes', lists''⟩ :=
        ih hothers lists'
      have told : undo s'.database = undo s.database := passes.fails
      have written : a.log s'.database = a.log s.database ++ _ := passes.log
      rw [told, written] at retreat
      refine ⟨result.map (m.timestamp :: ·), s'', m :: taken, _, (bind_ok hfirst).trans ?_,
        outside'.trans outside, .takenBack broken ran retreat, passes.trans passes', lists''⟩
      rw [bind_pure_map, hrest, same]

end Archive

end EntityStore
