import EntityStore.Proofs.Transaction.Turn

/-!
# Programs

A program uses a data source: it makes statements, begins scopes and ends them, and runs transactions,
in which it may do all of this again. What it does next, and which scopes it ends, may depend on the
answers.

What a transaction does at its beginning and at its end can also be done one thing after another, so
that a run of a program is a list of moves, with a point of the run before and after each of them.
-/

namespace EntityStore

variable {σ : Type}

/-- The call that ends a scope: its changes are kept if `keep` says so, and else undone. -/
def Scope.Call.closing (keep : Bool) : Scope.Call := if keep then .commit else .rollback

/-- The session `s` in which the scope that was tracked as the innermost no longer is. -/
def Session.dropped (s : Session σ) : Session σ := { s with openScopes := s.openScopes.drop 1 }

/-- What is done with a data source. -/
inductive Program where
  | ends (result : Except Error Unit)
  | execute (st : Statement) (next : Except Error RunResult → Program)
  | query (st : Statement) (next : Except Error (List Record) → Program)
  | begin (isolation : Option IsolationLevel) (next : Except Error Scope → Program)
  | close (keep : Bool) (scope : Scope) (next : Except Error Unit → Program)
  | transaction (isolation : Option IsolationLevel) (body : Scope → Program)
    (next : Except Error Unit → Program)

/-- One thing that happens in the run of a program. -/
inductive Move where
  | execute (st : Statement)
  | query (st : Statement)
  | begin (isolation : Option IsolationLevel)
  | close (keep : Bool) (scope : Scope)
  /-- Drop the scope that is tracked as the innermost, as every transaction does at its end. -/
  | drop

/-- The scope that a move ends. -/
def Move.ended? : Move → Option Scope
  | close _ scope => some scope
  | _ => none

/-- Whether a move is the end of a transaction. -/
def Move.isDrop : Move → Bool
  | drop => true
  | _ => false

/-- A point in the run of a program. -/
structure Point (σ : Type) where
  session : Session σ
  /-- The scopes that were begun through the data source, the latest first. -/
  begun : List Scope

/-- A move, and the point at which it is made. -/
structure Visit (σ : Type) where
  point : Point σ
  move : Move

section

variable (ds : DataSource σ)

def Program.run : Program → SessionM σ Unit
  | ends result => MonadExcept.ofExcept result
  | execute st next => do
    let answer ← (SessionM.atDatabase (ds.connection.execute st.sql st.params)).outcome
    (next answer).run
  | query st next => do
    let answer ← (SessionM.atDatabase (ds.connection.query st.sql st.params)).outcome
    (next answer).run
  | begin isolation next => do
    let answer ← (ds.begin isolation).outcome
    (next answer).run
  | close keep scope next => do
    let answer ← ((Scope.Call.closing keep).run scope ds.connection).outcome
    (next answer).run
  | transaction isolation body next => do
    let answer ← (ds.transaction isolation fun scope => (body scope).run).outcome
    (next answer).run

/-- The moves of a run. -/
def Program.moves : Program → Session σ → List Move
  | ends _, _ => []
  | execute st next, s =>
    let done := SessionM.atDatabase (ds.connection.execute st.sql st.params) s
    .execute st :: (next done.1).moves done.2
  | query st next, s =>
    let done := SessionM.atDatabase (ds.connection.query st.sql st.params) s
    .query st :: (next done.1).moves done.2
  | begin isolation next, s =>
    let done := ds.begin isolation s
    .begin isolation :: (next done.1).moves done.2
  | close keep scope next, s =>
    let done := (Scope.Call.closing keep).run scope ds.connection s
    .close keep scope :: (next done.1).moves done.2
  | transaction isolation body next, s =>
    match ds.begin isolation s with
    | (.error e, s') => .begin isolation :: (next (.error e)).moves s'
    | (.ok scope, begun) =>
      let done := (body scope).run ds begun
      let ended := scope.finish ds.connection done.1 done.2
      .begin isolation :: ((body scope).moves begun ++ .close done.1.isOk scope :: .drop ::
        (next ended.1).moves ended.2.dropped)

/-- The point after a move. -/
def Move.play (p : Point σ) : Move → Point σ
  | execute st =>
    { p with session := (SessionM.atDatabase (ds.connection.execute st.sql st.params) p.session).2 }
  | query st =>
    { p with session := (SessionM.atDatabase (ds.connection.query st.sql st.params) p.session).2 }
  | begin isolation => match ds.begin isolation p.session with
    | (.ok scope, s) => ⟨s, scope :: p.begun⟩
    | (.error _, s) => ⟨s, p.begun⟩
  | close keep scope =>
    { p with session := ((Scope.Call.closing keep).run scope ds.connection p.session).2 }
  | drop => { p with session := p.session.dropped }

/-- The point after `moves`, one after another. -/
def Point.played (p : Point σ) (moves : List Move) : Point σ :=
  moves.foldl (fun p move => move.play ds p) p

/-- The points between the moves, from the first to the last. -/
def Point.along (p : Point σ) : List Move → List (Point σ)
  | [] => [p]
  | move :: rest => p :: Point.along (move.play ds p) rest

/-- The moves, each with its point. -/
def Point.visits (p : Point σ) : List Move → List (Visit σ)
  | [] => []
  | move :: rest => ⟨p, move⟩ :: Point.visits (move.play ds p) rest

end

variable {ds : DataSource σ}

section

variable {p : Point σ} {isolation : Option IsolationLevel} {s : Session σ}

theorem Move.play_begin_ok {scope : Scope} (h : ds.begin isolation p.session = (.ok scope, s)) :
    (Move.begin isolation).play ds p = ⟨s, scope :: p.begun⟩ := by
  simp only [play, h]

theorem Move.play_begin_error {e : Error} (h : ds.begin isolation p.session = (.error e, s)) :
    (Move.begin isolation).play ds p = ⟨s, p.begun⟩ := by
  simp only [play, h]

end

theorem Point.played_cons (p : Point σ) (move : Move) (rest : List Move) :
    p.played ds (move :: rest) = (move.play ds p).played ds rest := rfl

theorem Point.played_append (p : Point σ) (first second : List Move) :
    p.played ds (first ++ second) = (p.played ds first).played ds second := List.foldl_append

/-- A scope ends with one call, whatever becomes of its `result`. -/
theorem Scope.finish_session {α : Type} (scope : Scope) (c : Connection σ) (result : Except Error α)
    (s : Session σ) :
    (scope.finish c result s).2 = ((Call.closing result.isOk).run scope c s).2 := by
  cases result with
  | error e => rfl
  | ok a =>
    show (scope.finish c (.ok a) s).2 = (scope.commit c s).2
    cases committed : scope.commit c s with
    | mk answer s' =>
      cases answer with
      | ok u => rw [finish_ok committed]
      | error e => rw [finish_unkept committed]

/-- A run leaves the session behind to which its moves lead. -/
theorem Program.run_session (program : Program) (p : Point σ) :
    (program.run ds p.session).2 = (p.played ds (program.moves ds p.session)).session := by
  induction program generalizing p with
  | ends result => rw [run, SessionM.ofExcept_apply]; rfl
  | execute st next ih => exact ih _ ((Move.execute st).play ds p)
  | query st next ih => exact ih _ ((Move.query st).play ds p)
  | close keep scope next ih => exact ih _ ((Move.close keep scope).play ds p)
  | begin isolation next ih =>
    have after : ((Move.begin isolation).play ds p).session = (ds.begin isolation p.session).2 := by
      cases answer : ds.begin isolation p.session with
      | mk result s =>
        cases result with
        | ok scope => rw [Move.play_begin_ok answer]
        | error e => rw [Move.play_begin_error answer]
    have rest := ih (ds.begin isolation p.session).1 ((Move.begin isolation).play ds p)
    rw [after] at rest
    exact rest
  | transaction isolation body next ihBody ihNext =>
    cases hbegin : ds.begin isolation p.session with
    | mk result begun =>
      cases result with
      | error e =>
        have ran : ds.transaction isolation (fun scope => (body scope).run ds) p.session =
            (.error e, begun) := DataSource.transaction_error hbegin
        have rest := ihNext (.error e) ⟨begun, p.begun⟩
        rw [run, SessionM.outcome_bind, ran]
        simp only [moves, hbegin]
        rw [Point.played_cons, Move.play_begin_error hbegin]
        exact rest
      | ok scope =>
        cases hrun : (body scope).run ds begun with
        | mk result done =>
          cases hfinish : scope.finish ds.connection result done with
          | mk answer ended =>
            have ran : ds.transaction isolation (fun scope => (body scope).run ds) p.session =
                (answer, ended.dropped) := DataSource.transaction_ok hbegin hrun hfinish
            have inner := ihBody scope ⟨begun, scope :: p.begun⟩
            have closed := scope.finish_session ds.connection result done
            rw [hrun] at inner
            rw [hfinish] at closed
            rw [run, SessionM.outcome_bind, ran]
            simp only [moves, hbegin, hrun, hfinish]
            rw [Point.played_cons, Move.play_begin_ok hbegin, Point.played_append]
            -- the callback leads to `q`, and from there the last two moves end the transaction
            generalize Point.played ds ⟨begun, scope :: p.begun⟩ ((body scope).moves ds begun) = q
              at inner ⊢
            have rest := ihNext answer
              (Move.drop.play ds ((Move.close result.isOk scope).play ds q))
            have after : (Move.drop.play ds ((Move.close result.isOk scope).play ds q)).session =
                ended.dropped := by
              show Session.dropped ((Scope.Call.closing result.isOk).run scope _ q.session).2 = _
              rw [← inner, ← closed]
            rw [after] at rest
            exact rest

end EntityStore
