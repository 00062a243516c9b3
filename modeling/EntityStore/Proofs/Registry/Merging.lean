import EntityStore.Proofs.Keyed
import EntityStore.Registry

/-!
# What the registry holds after some calls

Tables, columns and relations are declared one after another, for the same entity or for different
ones, and a call may come before the table that it adds to. Each call changes the entry of one entity
and merges into it: columns and relations that are there stay at their places, a relation is replaced
or patched under its name, and what is new goes to the end. So no name is taken twice, and calls for
different entities can be made in any order. Entities are different if their types are, even where the
types have the same name.
-/

namespace EntityStore

/-! ## Relations of a table -/

/-- The attributes of a relation, besides its property. -/
inductive RelationAttribute where
  | kind | target | inverseSide | joinColumn | joinTable | eager | nullable

namespace RelationAttribute

/-- What an attribute tells. -/
def Content : RelationAttribute → Type
  | kind => RelationKind
  | target => EntityKey
  | inverseSide => Option String
  | joinColumn => Option JoinColumn
  | joinTable => Option JoinTable
  | eager => Bool
  | nullable => Option Bool

/-- What `r` says. -/
def inRelation (r : Relation) : (a : RelationAttribute) → a.Content
  | kind => r.kind
  | target => r.target
  | inverseSide => r.inverseSide
  | joinColumn => r.joinColumn
  | joinTable => r.joinTable
  | eager => r.eager
  | nullable => r.nullable

/-- What `p` sets. It cannot take away what may be missing. -/
def inPatch? (p : RelationPatch) : (a : RelationAttribute) → Option a.Content
  | kind => p.kind
  | target => p.target
  | inverseSide => p.inverseSide.map some
  | joinColumn => p.joinColumn.map some
  | joinTable => p.joinTable.map some
  | eager => p.eager
  | nullable => p.nullable.map some

end RelationAttribute

/-- The relation `after` has the attributes that `p` sets, and those of `before` in all that it
leaves out. -/
structure Relation.Patched (p : RelationPatch) (before after : Relation) : Prop where
  property : after.property = before.property
  attributes : ∀ a : RelationAttribute,
    a.inRelation after = (a.inPatch? p).getD (a.inRelation before)

theorem orElse_eq_getD {α : Type} (x y : Option α) : (x <|> y) = (x.map some).getD y := by
  cases x with
  | none => rfl
  | some a => rfl

theorem Relation.patched (r : Relation) (p : RelationPatch) : r.Patched p (r.patch p) where
  property := rfl
  attributes a := by
    cases a with
    | kind | target | eager => rfl
    | inverseSide | joinColumn | joinTable | nullable => exact orElse_eq_getD _ _

namespace Table

/-- No two relations of `t` have one property. -/
def DistinctRelations (t : Table) : Prop := (t.relations.map Relation.property).Nodup

/-- The relations of a table before and after one was merged into them as `property`. It becomes
what it has to from the one that was there before, if there was one. -/
inductive Merges (property : String) (becomes : Option Relation → Relation → Prop)
    (before after : List Relation) : Prop where
  /-- The one of that property was changed at its place. -/
  | inPlace (i : Nat) (r r' : Relation) (place : before[i]? = some r)
    (named : r.property = property) (changed : becomes (some r) r') (same : after = before.set i r')
  /-- There was none of that property, and a new one went to the end. -/
  | atEnd (r' : Relation) (unnamed : ∀ r ∈ before, r.property ≠ property) (made : becomes none r')
    (same : after = before ++ [r'])

theorem upsertRelation_eq (property : String) (new : Relation) (change : Relation → Relation)
    (relations : List Relation) :
    upsertRelation property new change relations =
      merged Relation.property property (change new) change relations := by
  induction relations with
  | nil => rfl
  | cons r rest ih => rw [upsertRelation, merged, ih]

theorem merges_upsertRelation {property : String} {becomes : Option Relation → Relation → Prop}
    {new : Relation} {change : Relation → Relation} {relations : List Relation}
    (distinct : (relations.map Relation.property).Nodup)
    (changed : ∀ r, r.property = property → becomes (some r) (change r))
    (made : becomes none (change new)) :
    Merges property becomes relations (upsertRelation property new change relations) := by
  rw [upsertRelation_eq]
  by_cases present : property ∈ relations.map Relation.property
  · obtain ⟨r, member, named⟩ := List.mem_map.1 present
    obtain ⟨i, place⟩ := List.mem_iff_getElem?.1 member
    exact .inPlace i r (change r) place named (changed r named)
      (merged_of_getElem? distinct place named)
  · have unnamed : ∀ r ∈ relations, r.property ≠ property := by
      rintro r member rfl
      exact present (List.mem_map_of_mem member)
    exact .atEnd (change new) unnamed made (merged_of_notMem present)

variable {t : Table}

theorem DistinctRelations.upsertRelation (distinct : t.DistinctRelations) {property : String}
    {new : Relation} {change : Relation → Relation} (fresh : (change new).property = property)
    (keeps : ∀ r : Relation, r.property = property → (change r).property = property) :
    ((Table.upsertRelation property new change t.relations).map Relation.property).Nodup := by
  rw [upsertRelation_eq]
  exact nodup_merged fresh keeps distinct

theorem DistinctRelations.setRelation (distinct : t.DistinctRelations) (r : Relation) :
    (t.setRelation r).DistinctRelations :=
  distinct.upsertRelation rfl fun _ _ => rfl

theorem DistinctRelations.patchRelation (distinct : t.DistinctRelations) (property : String)
    (p : RelationPatch) : (t.patchRelation property p).DistinctRelations :=
  distinct.upsertRelation rfl fun _ named => named

end Table

/-! ## Calls -/

namespace Registry

/-- A call that declares something, or forgets all that was declared. -/
inductive Call where
  | register (key : EntityKey) (t : Table)
  | addTable (key : EntityKey) (t : Table)
  | addColumn (key : EntityKey) (c : Column)
  | setRelation (key : EntityKey) (r : Relation)
  | patchRelation (key : EntityKey) (property : String) (p : RelationPatch)
  | clear

namespace Call

/-- The entity that a call is made for. -/
def entity? : Call → Option EntityKey
  | register key _ | addTable key _ | addColumn key _ | setRelation key _
  | patchRelation key _ _ => some key
  | clear => none

def table? : Call → Option Table
  | register _ t | addTable _ t => some t
  | _ => none

/-- What a call answers: the registry from then on, or an error. -/
def answer (r : Registry) : Call → Except Error Registry
  | register key t => r.register key t
  | addTable key t => .ok (r.addTable key t)
  | addColumn key c => .ok (r.addColumn key c)
  | setRelation key relation => .ok (r.setRelation key relation)
  | patchRelation key property p => .ok (r.patchRelation key property p)
  | clear => .ok .empty

/-- What a call makes of the entry of its entity. -/
def entryAfter : Call → Option Table → Option Table
  | register _ t, old => if Identifier.isValid t.name false then some t else old
  | addTable _ t, _ => some t
  | addColumn key c, old => some ((old.getD { name := key.defaultTable }).addColumn c)
  | setRelation key r, old => some ((old.getD { name := key.defaultTable }).setRelation r)
  | patchRelation key property p, old =>
    some ((old.getD { name := key.defaultTable }).patchRelation property p)
  | clear, _ => none

end Call

/-- The registry after `call`. One that is refused leaves it as it was. -/
def after (r : Registry) (call : Call) : Registry :=
  match call.answer r with
  | .ok r' => r'
  | .error _ => r

def afterAll (calls : List Call) : Registry := calls.foldl after .empty

variable {r : Registry} {call : Call} {key other : EntityKey}

theorem after_of_answered {r' : Registry} (answered : call.answer r = .ok r') :
    r.after call = r' := by
  rw [after, answered]

theorem after_of_refused {e : Error} (refused : call.answer r = .error e) : r.after call = r := by
  rw [after, refused]

theorem register_refused {t : Table} (invalid : ¬ Identifier.isValid t.name false = true) :
    (Call.register key t).answer r = .error (.invalidIdentifier .table t.name) :=
  if_neg invalid

def typeOf (entry : EntityKey × Table) : Nat := entry.1.type

theorem upsertEntry_eq (key : EntityKey) (new : Table) (change : Table → Table)
    (entries : List (EntityKey × Table)) :
    upsertEntry key new change entries =
      merged typeOf key.type (key, change new) (fun entry => (entry.1, change entry.2)) entries := by
  induction entries with
  | nil => rfl
  | cons entry rest ih =>
    rw [upsertEntry, merged, ih]
    exact if_congr EntityKey.beq_iff rfl rfl

/-- The entry of the entity of this `type`. -/
def entryFor? (r : Registry) (type : Nat) : Option (EntityKey × Table) :=
  r.entries.find? fun entry => typeOf entry = type

theorem table?_eq (r : Registry) (key : EntityKey) :
    r.table? key = (r.entryFor? key.type).map Prod.snd := rfl

/-- A call changes nothing, or it merges a table into the entries under its entity. -/
theorem after_cases (entity : call.entity? = some key) (r : Registry) :
    (r.after call = r ∧ ∀ old, call.entryAfter old = old) ∨
      ∃ new change,
        (r.after call).entries =
          merged typeOf key.type (key, change new) (fun entry => (entry.1, change entry.2))
            r.entries ∧
        ∀ old, call.entryAfter old = some ((old.map change).getD (change new)) := by
  cases call with
  | clear => cases entity
  | register key' t =>
    cases entity
    by_cases valid : Identifier.isValid t.name false = true
    · have answered : (Call.register key t).answer r = .ok (r.addTable key t) := if_pos valid
      rw [after_of_answered answered]
      refine .inr ⟨t, fun _ => t, upsertEntry_eq .., ?_⟩
      intro old
      rw [Call.entryAfter, if_pos valid]
      cases old <;> rfl
    · exact .inl ⟨after_of_refused (register_refused valid), fun _ => if_neg valid⟩
  | addTable key' t =>
    cases entity
    refine .inr ⟨t, fun _ => t, upsertEntry_eq .., ?_⟩
    intro old
    cases old <;> rfl
  | addColumn key' c =>
    cases entity
    refine .inr ⟨{ name := key.defaultTable }, (·.addColumn c), upsertEntry_eq .., ?_⟩
    intro old
    cases old <;> rfl
  | setRelation key' relation =>
    cases entity
    refine .inr ⟨{ name := key.defaultTable }, (·.setRelation relation), upsertEntry_eq .., ?_⟩
    intro old
    cases old <;> rfl
  | patchRelation key' property p =>
    cases entity
    refine .inr ⟨{ name := key.defaultTable }, (·.patchRelation property p), upsertEntry_eq .., ?_⟩
    intro old
    cases old <;> rfl

/-- A call makes something of the entry of its own entity, which keeps its key, and of no other. -/
theorem entryFor?_after (entity : call.entity? = some key) (r : Registry) (type : Nat) :
    (r.after call).entryFor? type =
      if type = key.type then
        (call.entryAfter (r.table? key)).map
          fun t => (((r.entryFor? key.type).map Prod.fst).getD key, t)
      else r.entryFor? type := by
  rcases after_cases entity r with ⟨same, kept⟩ | ⟨new, change, entries, made⟩
  · rw [same, kept]
    split
    · rename_i own
      rw [table?_eq, own]
      cases r.entryFor? key.type <;> rfl
    · rfl
  · rw [entryFor?, entries, made, table?_eq, find?_merged typeOf key.type (key, change new)
      (fun entry => (entry.1, change entry.2)) rfl fun _ named => named]
    split
    · show some ((r.entryFor? key.type).elim _ _) = _
      cases r.entryFor? key.type <;> rfl
    · rfl

theorem table?_after (entity : call.entity? = some key) (r : Registry) (other : EntityKey) :
    (r.after call).table? other =
      if other.type = key.type then call.entryAfter (r.table? key) else r.table? other := by
  rw [table?_eq, entryFor?_after entity]
  split
  · cases call.entryAfter (r.table? key) <;> rfl
  · rfl

theorem nodup_after (entity : call.entity? = some key) (distinct : (r.entries.map typeOf).Nodup) :
    ((r.after call).entries.map typeOf).Nodup := by
  rcases after_cases entity r with ⟨same, -⟩ | ⟨new, change, entries, -⟩
  · rw [same]
    exact distinct
  · rw [entries]
    exact nodup_merged rfl (fun _ named => named) distinct

theorem filter_after (entity : call.entity? = some key) (r : Registry) :
    (r.after call).entries.filter (fun entry => typeOf entry ≠ key.type) =
      r.entries.filter (fun entry => typeOf entry ≠ key.type) := by
  rcases after_cases entity r with ⟨same, -⟩ | ⟨new, change, entries, -⟩
  · rw [same]
  · rw [entries]
    exact filter_merged rfl fun _ named => named

theorem mem_of_table? {t : Table} (found : r.table? key = some t) :
    ∃ entry ∈ r.entries, entry.2 = t := by
  obtain ⟨entry, place, rfl⟩ := Option.map_eq_some_iff.1 found
  exact ⟨entry, List.mem_of_find?_eq_some place, rfl⟩

/-! ## Registries that calls lead to -/

/-- Every entity has one entry, and the relations of its table are told by their properties. -/
structure Sound (r : Registry) : Prop where
  entities : (r.entries.map typeOf).Nodup
  relations : ∀ entry ∈ r.entries, entry.2.DistinctRelations

theorem Call.distinct_entryAfter (passed : ∀ t, call.table? = some t → t.DistinctRelations)
    {old : Option Table} (distinct : ∀ t, old = some t → t.DistinctRelations) {t : Table}
    (made : call.entryAfter old = some t) : t.DistinctRelations := by
  have start : ∀ name : String, (old.getD { name := name }).DistinctRelations := by
    intro name
    cases old with
    | none => exact List.nodup_nil
    | some t => exact distinct t rfl
  cases call with
  | clear => cases made
  | register key t' =>
    rw [entryAfter] at made
    split at made
    · cases made
      exact passed t rfl
    · exact distinct t made
  | addTable key t' =>
    cases made
    exact passed t rfl
  | addColumn key c =>
    cases made
    exact start key.defaultTable
  | setRelation key relation =>
    cases made
    exact (start key.defaultTable).setRelation relation
  | patchRelation key property p =>
    cases made
    exact (start key.defaultTable).patchRelation property p

theorem sound_empty : Sound .empty where
  entities := List.nodup_nil
  relations _ member := nomatch member

theorem Sound.after (sound : r.Sound) (passed : ∀ t, call.table? = some t → t.DistinctRelations) :
    (r.after call).Sound := by
  cases entity : call.entity? with
  | none =>
    cases call with
    | clear => exact sound_empty
    | _ => cases entity
  | some key =>
    have entities := nodup_after entity sound.entities
    refine ⟨entities, ?_⟩
    intro entry member
    have found : (r.after call).table? entry.1 = some entry.2 := by
      have place := (find?_eq_some_iff_mem entities).2 ⟨member, rfl⟩
      exact congrArg (Option.map Prod.snd) place
    have distinct : ∀ other t, r.table? other = some t → t.DistinctRelations := by
      intro other t given
      obtain ⟨entry, member, rfl⟩ := mem_of_table? given
      exact sound.relations entry member
    rw [table?_after entity] at found
    split at found
    · exact Call.distinct_entryAfter passed (distinct key) found
    · exact distinct entry.1 entry.2 found

theorem sound_afterAll {calls : List Call}
    (passed : ∀ call ∈ calls, ∀ t, call.table? = some t → t.DistinctRelations) :
    (afterAll calls).Sound := by
  -- the induction is on the calls, from any sound registry on
  have run : ∀ (calls : List Call) (r : Registry), r.Sound →
      (∀ call ∈ calls, ∀ t, call.table? = some t → t.DistinctRelations) →
      (calls.foldl Registry.after r).Sound := by
    intro calls
    induction calls with
    | nil => exact fun r sound _ => sound
    | cons call rest ih =>
      intro r sound passed
      have first := sound.after (passed call List.mem_cons_self)
      exact ih (r.after call) first fun later member =>
        passed later (List.mem_cons_of_mem _ member)
  exact run calls .empty sound_empty passed

/-! ## The next call -/

/-- The table of an entity, or the one that is made on demand. -/
def entry (r : Registry) (key : EntityKey) : Table :=
  (r.table? key).getD { name := key.defaultTable }

theorem Sound.distinct_entry (sound : r.Sound) (key : EntityKey) :
    (r.entry key).DistinctRelations := by
  unfold entry
  cases given : r.table? key with
  | none => exact List.nodup_nil
  | some t =>
    obtain ⟨entry, member, rfl⟩ := mem_of_table? given
    exact sound.relations entry member

/-- What the next call does to a registry. -/
structure Merging (r : Registry) : Prop where
  /-- It leaves the entries of other entities as they are. -/
  others : ∀ (call : Call) (key : EntityKey), call.entity? = some key →
    (∀ other : EntityKey, other.type ≠ key.type → (r.after call).table? other = r.table? other) ∧
    (r.after call).entries.filter (fun entry => typeOf entry ≠ key.type) =
      r.entries.filter (fun entry => typeOf entry ≠ key.type)
  /-- A column goes behind those that are there. -/
  column : ∀ (key : EntityKey) (c : Column), (r.after (.addColumn key c)).table? key =
    some { r.entry key with columns := (r.entry key).columns ++ [c] }
  /-- A relation replaces the one of its property. -/
  relation : ∀ (key : EntityKey) (relation : Relation), ∃ relations,
    (r.after (.setRelation key relation)).table? key =
      some { r.entry key with relations := relations } ∧
    Table.Merges relation.property (fun _ after => after = relation)
      (r.entry key).relations relations
  /-- A patch changes what it sets in the relation of its property, or in a new one. -/
  patch : ∀ (key : EntityKey) (property : String) (p : RelationPatch), ∃ relations,
    (r.after (.patchRelation key property p)).table? key =
      some { r.entry key with relations := relations } ∧
    Table.Merges property
      (fun before after => (before.getD (.placeholder property)).Patched p after)
      (r.entry key).relations relations
  /-- A table whose name is no identifier is refused. -/
  refusal : ∀ (key : EntityKey) (t : Table), Identifier.isValid t.name false = false →
    (Call.register key t).answer r = .error (.invalidIdentifier .table t.name) ∧
    r.after (.register key t) = r
  /-- The order of two calls for different entities does not matter, neither to the entries nor to
  whether one of the calls is refused. -/
  apart : ∀ (a b : Call) (key other : EntityKey), a.entity? = some key → b.entity? = some other →
    key.type ≠ other.type →
    (∀ k, ((r.after a).after b).table? k = ((r.after b).after a).table? k) ∧
    ((r.after a).after b).entries.Perm ((r.after b).after a).entries ∧
    (b.answer (r.after a)).map (fun _ => ()) = (b.answer r).map fun _ => ()

theorem Call.answer_alike (call : Call) (r r' : Registry) :
    (call.answer r).map (fun _ => ()) = (call.answer r').map fun _ => () := by
  cases call with
  | register key t =>
    by_cases valid : Identifier.isValid t.name false = true
    · have answered : ∀ r : Registry, (register key t).answer r = .ok (r.addTable key t) :=
        fun _ => if_pos valid
      rw [answered, answered]
      rfl
    · rw [register_refused valid, register_refused valid]
  | _ => rfl

theorem entryFor?_after_comm {a b : Call} (first : a.entity? = some key)
    (second : b.entity? = some other) (apart : key.type ≠ other.type) (r : Registry) (type : Nat) :
    ((r.after a).after b).entryFor? type = ((r.after b).after a).entryFor? type := by
  rw [entryFor?_after second, entryFor?_after first, entryFor?_after first, entryFor?_after first,
    entryFor?_after second, entryFor?_after second, table?_after first, table?_after second, if_neg apart,
    if_neg apart.symm, if_neg apart, if_neg apart.symm]
  by_cases own : type = key.type
  · rw [if_neg (own ▸ apart), if_pos own, if_pos own]
  · rw [if_neg own, if_neg own]

theorem Sound.merging (sound : r.Sound) : r.Merging where
  others call key entity := by
    refine ⟨?_, filter_after entity r⟩
    intro other unlike
    rw [table?_after entity, if_neg unlike]
  column key c := by
    rw [table?_after rfl, if_pos rfl]
    rfl
  relation key relation := by
    refine ⟨((r.entry key).setRelation relation).relations, ?_, ?_⟩
    · rw [table?_after rfl, if_pos rfl]
      rfl
    · exact Table.merges_upsertRelation (sound.distinct_entry key) (fun _ _ => rfl) rfl
  patch key property p := by
    refine ⟨((r.entry key).patchRelation property p).relations, ?_, ?_⟩
    · rw [table?_after rfl, if_pos rfl]
      rfl
    · exact Table.merges_upsertRelation (sound.distinct_entry key) (fun r _ => r.patched p)
        ((Relation.placeholder property).patched p)
  refusal key t invalid := by
    have refused : ¬ Identifier.isValid t.name false = true := by simp [invalid]
    exact ⟨register_refused refused, after_of_refused (register_refused refused)⟩
  apart a b key other first second unlike := by
    have same := entryFor?_after_comm first second unlike r
    refine ⟨fun k => congrArg (Option.map Prod.snd) (same k.type), ?_, b.answer_alike _ _⟩
    exact perm_of_find? (nodup_after second (nodup_after first sound.entities))
      (nodup_after first (nodup_after second sound.entities)) same

/-- Whatever `calls` were made, with tables whose relations have distinct properties, the registry
has one entry for each entity, the relations of each table have distinct properties, and the next
call merges what it declares into the entry of its own entity. -/
theorem calls_merge {calls : List Call}
    (passed : ∀ call ∈ calls, ∀ t, call.table? = some t → t.DistinctRelations) :
    (afterAll calls).Sound ∧ (afterAll calls).Merging :=
  ⟨sound_afterAll passed, (sound_afterAll passed).merging⟩

end Registry

namespace Harbour

/-- Sailors of the harbour and of the mill, whose types have one name. -/
def sailor : EntityKey := .of 1 "harbour::Sailor"

def boater : EntityKey := .of 2 "mill::Sailor"

def ship : EntityKey := .of 3 "harbour::Ship"

def port : EntityKey := .of 4 "harbour::Port"

/-- The relation from a sailor to the ship. -/
def onBoard : Relation := { property := "ship", kind := .manyToOne, target := ship }

/-- Calls in which a relation is patched before anything else is known of its entity, and a table is
refused for its name. -/
def calls : List Registry.Call :=
  [.patchRelation sailor "ship" { inverseSide := some "crew", eager := some true },
    .addColumn boater { name := "boat", type := .text },
    .addColumn sailor { name := "rank", type := .text },
    .register ship { name := "ships", relations := [
      { property := "crew", kind := .oneToMany, target := sailor },
      { property := "port", kind := .manyToOne, target := port }] },
    .register port { name := "no port" },
    .patchRelation ship "crew" { inverseSide := some "ship" },
    .setRelation sailor onBoard]

theorem calls_merged :
    (∀ call ∈ calls, ∀ t, call.table? = some t → t.DistinctRelations) ∧
      (Registry.afterAll calls).table? sailor = some
        { name := "sailor", columns := [{ name := "rank", type := .text }],
          relations := [onBoard] } ∧
      (Registry.afterAll calls).table? boater = some
        { name := "sailor", columns := [{ name := "boat", type := .text }] } ∧
      (Registry.afterAll calls).Sound ∧ (Registry.afterAll calls).Merging := by
  have passed : ∀ call ∈ calls, ∀ t, call.table? = some t → t.DistinctRelations := by
    intro call member t given
    simp only [calls, List.mem_cons, List.not_mem_nil, or_false] at member
    rcases member with rfl | rfl | rfl | rfl | rfl | rfl | rfl
    case inr.inr.inr.inl =>
      cases given
      show ["crew", "port"].Nodup
      decide
    case inr.inr.inr.inr.inl =>
      cases given
      exact List.nodup_nil
    all_goals cases given
  exact ⟨passed, by rfl, by rfl, Registry.calls_merge passed⟩

end Harbour

end EntityStore
