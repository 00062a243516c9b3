import EntityStore.Proofs.Storage.RoundTrip

/-!
# Chains of transformers

On the way to the database the transformers of a column change a value one after the other, and then
the rule of its type applies; on the way back the rule comes first and the transformers follow from
the last to the first. So a chain is undone if each of its transformers undoes itself, whatever else
it does to a value.

Which transformer was given which value is no part of what is stored or read. A column that notes
its calls shows it: it stores and reads the same, and leaves a list of the calls.
-/

namespace EntityStore

namespace Transformer

/-- A call of the transformer at a `place` of its chain, which was `given` a value and `made`
another one of it. -/
structure Call where
  place : Nat
  given : Value
  made : Value

/-- The call that takes `call` back. -/
def Call.undo (call : Call) : Call := ⟨call.place, call.made, call.given⟩

/-! ## Calls of a chain

The transformers stand with their places, and `change` is the way in which they are asked: to the
database or back. -/

section

variable (change : Transformer → Value → Value)

/-- Ask the transformer `t` and note the call. -/
def ask (t : Transformer × Nat) (v : Value) : StateM (List Call) Value := do
  let made := change t.1 v
  modify (· ++ [⟨t.2, v, made⟩])
  return made

def askEach (ts : List (Transformer × Nat)) (v : Value) : StateM (List Call) Value :=
  ts.foldlM (fun v t => ask change t v) v

/-- What the transformers `ts` make of `v` one after the other. -/
def outcome (ts : List (Transformer × Nat)) (v : Value) : Value :=
  ts.foldl (fun v t => change t.1 v) v

/-- The calls that `outcome` takes. -/
def calls : List (Transformer × Nat) → Value → List Call
  | [], _ => []
  | t :: ts, v => ⟨t.2, v, change t.1 v⟩ :: calls ts (change t.1 v)

theorem run_askEach (ts : List (Transformer × Nat)) (v : Value) (noted : List Call) :
    (askEach change ts v).run noted = (outcome change ts v, noted ++ calls change ts v) := by
  induction ts generalizing v noted with
  | nil => exact congrArg (v, ·) (List.append_nil noted).symm
  | cons t ts ih =>
    let call : Call := ⟨t.2, v, change t.1 v⟩
    calc (askEach change (t :: ts) v).run noted
        = (askEach change ts call.made).run (noted ++ [call]) := rfl
      _ = (outcome change ts call.made, noted ++ [call] ++ calls change ts call.made) := ih ..
      _ = (outcome change (t :: ts) v, noted ++ calls change (t :: ts) v) := by
        rw [List.append_assoc]; rfl

theorem calls_append (ts ts' : List (Transformer × Nat)) (v : Value) :
    calls change (ts ++ ts') v = calls change ts v ++ calls change ts' (outcome change ts v) := by
  induction ts generalizing v with
  | nil => rfl
  | cons t ts ih => exact congrArg (_ :: ·) (ih (change t.1 v))

theorem places_calls (ts : List (Transformer × Nat)) (v : Value) :
    (calls change ts v).map Call.place = ts.map Prod.snd := by
  induction ts generalizing v with
  | nil => rfl
  | cons t ts ih => exact congrArg (t.2 :: ·) (ih (change t.1 v))

theorem mem_calls {ts : List (Transformer × Nat)} {v : Value} {call : Call}
    (made : call ∈ calls change ts v) :
    ∃ t, (t, call.place) ∈ ts ∧ call.made = change t call.given := by
  induction ts generalizing v with
  | nil => cases made
  | cons t ts ih =>
    obtain rfl | later := List.mem_cons.1 made
    · exact ⟨t.1, List.mem_cons_self, rfl⟩
    · obtain ⟨t', among, same⟩ := ih later
      exact ⟨t', List.mem_cons_of_mem t among, same⟩

end

/-! ## Chains that are undone -/

section

variable {ts : List (Transformer × Nat)}
  (inverse : ∀ t ∈ ts, ∀ x, t.1.ofStorage (t.1.toStorage x) = x)

include inverse

/-- Asked in reverse, the transformers give back the value that the chain began with. -/
theorem outcome_reverse (v : Value) :
    outcome ofStorage ts.reverse (outcome toStorage ts v) = v := by
  induction ts generalizing v with
  | nil => rfl
  | cons t ts ih =>
    have rest : outcome ofStorage ts.reverse (outcome toStorage ts (t.1.toStorage v)) =
        t.1.toStorage v := ih (fun t' h => inverse t' (List.mem_cons_of_mem t h)) _
    calc outcome ofStorage (t :: ts).reverse (outcome toStorage (t :: ts) v)
        = t.1.ofStorage
            (outcome ofStorage ts.reverse (outcome toStorage ts (t.1.toStorage v))) := by
          simp [outcome]
      _ = v := by rw [rest, inverse t List.mem_cons_self]

/-- And each of them is given what it made on the way there, the last one first. -/
theorem calls_reverse (v : Value) :
    calls ofStorage ts.reverse (outcome toStorage ts v) =
      (calls toStorage ts v).reverse.map Call.undo := by
  induction ts generalizing v with
  | nil => rfl
  | cons t ts ih =>
    have inner : ∀ t' ∈ ts, ∀ x, t'.1.ofStorage (t'.1.toStorage x) = x :=
      fun t' h => inverse t' (List.mem_cons_of_mem t h)
    -- What is left for the first transformer is what it made itself.
    have last : calls ofStorage [t] (t.1.toStorage v) =
        [(⟨t.2, v, t.1.toStorage v⟩ : Call).undo] := by
      simp only [calls, Call.undo, inverse t List.mem_cons_self]
    calc calls ofStorage (t :: ts).reverse (outcome toStorage (t :: ts) v)
        = calls ofStorage (ts.reverse ++ [t]) (outcome toStorage ts (t.1.toStorage v)) := by
          rw [List.reverse_cons]; rfl
      _ = (calls toStorage ts (t.1.toStorage v)).reverse.map Call.undo ++
            [(⟨t.2, v, t.1.toStorage v⟩ : Call).undo] := by
          rw [calls_append, outcome_reverse inner, ih inner, last]
      _ = (calls toStorage (t :: ts) v).reverse.map Call.undo := by simp [calls]

end

end Transformer

/-! ## The column that notes its calls -/

open Transformer (Call askEach outcome calls)

namespace Column

/-- The transformers of `c` with their places. -/
def chain (c : Column) : List (Transformer × Nat) := c.transformers.zipIdx

/-- Store `v` and note the calls. -/
def storing (c : Column) (v : Value) : StateM (List Call) Value :=
  if v.isNull then pure v
  else return c.type.toStorage (← askEach Transformer.toStorage c.chain v)

/-- Read the stored form `v` and note the calls. -/
def reading (c : Column) (v : Value) : StateM (List Call) Value :=
  if v.isNull then pure v
  else askEach Transformer.ofStorage c.chain.reverse (c.type.ofStorage v)

/-- What the transformers of `c` make of `v` on its way to the database. -/
def written (c : Column) (v : Value) : Value :=
  c.transformers.foldl (fun v transformer => transformer.toStorage v) v

variable {c : Column} {v : Value}

theorem outcome_chain : outcome Transformer.toStorage c.chain v = c.written v := by
  rw [written, ← List.zipIdx_map_fst 0 c.transformers, List.foldl_map]
  rfl

theorem outcome_chain_reverse :
    outcome Transformer.ofStorage c.chain.reverse v =
      c.transformers.foldr (fun transformer v => transformer.ofStorage v) v := by
  rw [outcome, List.foldl_reverse, chain]
  conv_rhs => rw [← List.zipIdx_map_fst 0 c.transformers, List.foldr_map]

theorem getElem?_of_mem_chain {t : Transformer} {place : Nat} (among : (t, place) ∈ c.chain) :
    c.transformers[place]? = some t := List.mk_mem_zipIdx_iff_getElem?.1 among

theorem places_chain : c.chain.map Prod.snd = List.range c.transformers.length := by
  rw [chain, List.zipIdx_map_snd, List.range_eq_range']

/-! Values other than the null value go through the chain. -/

theorem toStorage_eq_written (present : v.isNull = false) :
    EntityStore.toStorage (some c) v = c.type.toStorage (c.written v) := by
  simp [EntityStore.toStorage, toStorage, present, written]

theorem ofStorage_eq_outcome (present : v.isNull = false) :
    EntityStore.ofStorage (some c) v =
      outcome Transformer.ofStorage c.chain.reverse (c.type.ofStorage v) := by
  simp [EntityStore.ofStorage, ofStorage, present, outcome_chain_reverse]

theorem run_storing (present : v.isNull = false) :
    (c.storing v).run [] =
      (EntityStore.toStorage (some c) v, calls Transformer.toStorage c.chain v) := by
  have run := Transformer.run_askEach Transformer.toStorage c.chain v []
  rw [outcome_chain] at run
  rw [toStorage_eq_written present, storing, present]
  exact congrArg (fun p : Value × List Call => (c.type.toStorage p.1, p.2)) run

theorem run_reading (present : v.isNull = false) :
    (c.reading v).run [] =
      (EntityStore.ofStorage (some c) v,
        calls Transformer.ofStorage c.chain.reverse (c.type.ofStorage v)) := by
  rw [ofStorage_eq_outcome present, reading, present]
  exact Transformer.run_askEach Transformer.ofStorage c.chain.reverse (c.type.ofStorage v) []

/-! The null value passes, and no transformer is asked about it. -/

theorem run_storing_null : (c.storing .null).run [] = (.null, []) := rfl

theorem run_reading_null : (c.reading .null).run [] = (.null, []) := rfl

end Column

theorem ColumnType.isNull_toStorage (type : ColumnType) (v : Value) :
    (type.toStorage v).isNull = v.isNull := by
  cases type <;> cases v <;> rfl

theorem Value.eq_null {v : Value} (null : v.isNull = true) : v = .null := by
  cases v <;> first | rfl | cases null

/-- What `c` does with `v` that it is given to store. -/
structure Column.Undoes (c : Column) (v : Value) : Prop where
  /-- A value that the rule of the type reads back is read back through the chain, in which each
  transformer is given what it made. -/
  restored : (c.written v).isNull = false →
    c.type.ofStorage (c.type.toStorage (c.written v)) = c.written v →
      EntityStore.ofStorage (some c) (EntityStore.toStorage (some c) v) = v ∧
        ((c.reading (EntityStore.toStorage (some c) v)).run []).2 =
          ((c.storing v).run []).2.reverse.map Call.undo
  /-- If the chain ends in `Value.null`, that is stored and read, and no transformer is asked about
  it on the way back. -/
  lost : c.written v = .null →
    EntityStore.toStorage (some c) v = .null ∧
      (c.reading (EntityStore.toStorage (some c) v)).run [] = (.null, [])

theorem Column.undoes {c : Column} {v : Value}
    (inverse : ∀ t ∈ c.transformers, ∀ x, t.ofStorage (t.toStorage x) = x)
    (present : v.isNull = false) : c.Undoes v where
  restored kept coerced := by
    have inverse : ∀ t ∈ c.chain, ∀ x, t.1.ofStorage (t.1.toStorage x) = x :=
      fun t h => inverse t.1 (List.fst_mem_of_mem_zipIdx h)
    have stored : (EntityStore.toStorage (some c) v).isNull = false := by
      rw [toStorage_eq_written present, ColumnType.isNull_toStorage, kept]
    -- The rule of the type leads back to where the chain ended.
    have back : c.type.ofStorage (EntityStore.toStorage (some c) v) =
        outcome Transformer.toStorage c.chain v := by
      rw [toStorage_eq_written present, coerced, outcome_chain]
    refine ⟨?_, ?_⟩
    · rw [ofStorage_eq_outcome stored, back]
      exact Transformer.outcome_reverse inverse v
    · rw [run_reading stored, run_storing present, back]
      exact Transformer.calls_reverse inverse v
  lost ends := by
    have stored : EntityStore.toStorage (some c) v = .null := by
      rw [toStorage_eq_written present, ends]
      exact Value.eq_null (c.type.isNull_toStorage .null)
    rw [stored]
    exact ⟨rfl, run_reading_null⟩

/-- The calls that `c` makes. -/
structure Column.Asks (c : Column) (v : Value) : Prop where
  /-- The column that notes its calls stores and reads the same. -/
  same : ((c.storing v).run []).1 = EntityStore.toStorage (some c) v ∧
    ((c.reading v).run []).1 = EntityStore.ofStorage (some c) v
  /-- A call is made by the transformer at its place. -/
  placed : (∀ call ∈ ((c.storing v).run []).2, ∃ t, c.transformers[call.place]? = some t ∧
      call.made = t.toStorage call.given) ∧
    ∀ call ∈ ((c.reading v).run []).2, ∃ t, c.transformers[call.place]? = some t ∧
      call.made = t.ofStorage call.given
  /-- Every transformer is asked once, the first one first on the way to the database and the last
  one first on the way back. -/
  ordered : v.isNull = false →
    ((c.storing v).run []).2.map Call.place = List.range c.transformers.length ∧
      ((c.reading v).run []).2.map Call.place = (List.range c.transformers.length).reverse

theorem Column.asks (c : Column) (v : Value) : c.Asks v := by
  cases present : v.isNull with
  | true =>
    obtain rfl := Value.eq_null present
    constructor
    case same => exact ⟨rfl, rfl⟩
    case placed =>
      rw [run_storing_null, run_reading_null]
      exact ⟨List.forall_mem_nil _, List.forall_mem_nil _⟩
    case ordered => exact nofun
  | false =>
    have stores := run_storing (c := c) present
    have reads := run_reading (c := c) present
    constructor
    case same => exact ⟨congrArg Prod.fst stores, congrArg Prod.fst reads⟩
    case placed =>
      rw [stores, reads]
      refine ⟨fun call made => ?_, fun call made => ?_⟩
      · obtain ⟨t, among, change⟩ := Transformer.mem_calls _ made
        exact ⟨t, getElem?_of_mem_chain among, change⟩
      · obtain ⟨t, among, change⟩ := Transformer.mem_calls _ made
        exact ⟨t, getElem?_of_mem_chain (List.mem_reverse.1 among), change⟩
    case ordered =>
      intro _
      rw [stores, reads, Transformer.places_calls, Transformer.places_calls, List.map_reverse,
        places_chain]
      exact ⟨rfl, rfl⟩

/-- A chain of transformers that undo themselves is undone. Every transformer is asked in turn, and
in reverse on the way back; `Value.null` passes both ways and no transformer is asked about it. -/
theorem chains_undone (c : Column) :
    (∀ v, c.Asks v) ∧
      (c.storing .null).run [] = (.null, []) ∧ (c.reading .null).run [] = (.null, []) ∧
      ((∀ t ∈ c.transformers, ∀ x, t.ofStorage (t.toStorage x) = x) →
        ∀ v, v.isNull = false → c.Undoes v) :=
  ⟨c.asks, Column.run_storing_null, Column.run_reading_null,
    fun inverse _ present => Column.undoes inverse present⟩

namespace Tags

/-- An array in reverse. -/
def turned : Transformer where
  toStorage
    | .json (.array items) => .json (.array items.reverse)
    | v => v
  ofStorage
    | .json (.array items) => .json (.array items.reverse)
    | v => v

/-- An array with a number in front. -/
def marked : Transformer where
  toStorage
    | .json (.array items) => .json (.array (.int 0 :: items))
    | v => v
  ofStorage
    | .json (.array (_ :: items)) => .json (.array items)
    | v => v

def column : Column := { name := "tags", type := .json, transformers := [turned, marked] }

def tags : Value := .json (.array [.int 1, .int 2])

theorem inverse : ∀ t ∈ column.transformers, ∀ x, t.ofStorage (t.toStorage x) = x := by
  intro t mem x
  obtain rfl | rfl : t = turned ∨ t = marked := by simpa [column] using mem
  · rcases x with _ | _ | _ | _ | _ | _ | (_ | _ | _ | _ | _ | items | _) | _ | _
    case json.array => exact congrArg (Value.json <| .array ·) items.reverse_reverse
    all_goals rfl
  · rcases x with _ | _ | _ | _ | _ | _ | (_ | _ | _ | _ | _ | items | _) | _ | _ <;> rfl

theorem written_tags : column.written tags = .json (.array [.int 0, .int 2, .int 1]) := rfl

/-- The array is turned and then marked; on the way back the mark comes off first. -/
theorem tags_undone :
    toStorage (some column) tags = .text "[0,2,1]" ∧
      (∀ t ∈ column.transformers, ∀ x, t.ofStorage (t.toStorage x) = x) ∧
      tags.isNull = false ∧ (column.written tags).isNull = false ∧
      column.type.ofStorage (column.type.toStorage (column.written tags)) = column.written tags ∧
      ofStorage (some column) (toStorage (some column) tags) = tags := by
  have fits : Json.Fits Json.maxDepth (.array [.int 0, .int 2, .int 1]) := by
    refine .array fun item h => ?_
    simp only [List.mem_cons, List.not_mem_nil, or_false] at h
    obtain rfl | rfl | rfl := h <;> exact .int _ (by decide) (by decide)
  have coerced : column.type.ofStorage (column.type.toStorage (column.written tags)) =
      column.written tags := by
    rw [written_tags]
    exact ColumnType.json_restored fits
  refine ⟨?_, inverse, rfl, rfl, coerced, ?_⟩
  · rfl
  · exact (((chains_undone column).2.2.2 inverse tags rfl).restored rfl coerced).1

end Tags

end EntityStore
