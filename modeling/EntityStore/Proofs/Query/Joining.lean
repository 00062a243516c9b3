import EntityStore.Proofs.Result
import EntityStore.Repository

/-!
# Queries joined along relations

What the query of a repository is made of. Joining along relations widens a query by joins and
selected expressions, and leaves everything else of it as it is.
-/

namespace EntityStore

namespace Query

section

variable {registry : Registry} {q q' : Query} {property : String}

/-- How a query is joined along a `relation` depends on the kind of the relation. -/
theorem joinRelation_declared {relation : Relation}
    (declared : q.table.relation? property = some relation) :
    joinRelation registry q property = registry.table relation.target >>= fun target =>
      match relation.kind with
      | .manyToOne | .oneToOne => q.joinReferred relation target
      | .oneToMany => q.joinReferring relation target
      | .manyToMany => q.joinThrough relation target := by
  simp only [joinRelation, declared]
  rfl

theorem joinRelation_eq_ok (h : joinRelation registry q property = .ok q') :
    ∃ selected joins, q' = { q with selected := selected, joins := joins } := by
  cases declared : q.table.relation? property with
  | none =>
    simp only [joinRelation, declared] at h
    cases h
  | some relation =>
    rw [joinRelation_declared declared, Except.bind_eq_ok] at h
    obtain ⟨target, -, h⟩ := h
    cases kind : relation.kind with
    | manyToOne | oneToOne =>
      simp only [kind, joinReferred, Except.bind_eq_ok] at h
      obtain ⟨referenced, -, h⟩ := h
      cases h
      exact ⟨_, _, rfl⟩
    | oneToMany =>
      simp only [kind, joinReferring, Except.bind_eq_ok] at h
      obtain ⟨primary, -, h⟩ := h
      cases h
      exact ⟨_, _, rfl⟩
    | manyToMany =>
      simp only [kind, joinThrough, Except.bind_eq_ok] at h
      obtain ⟨primary, -, targetPrimary, -, h⟩ := h
      cases h
      exact ⟨_, _, rfl⟩

theorem foldlM_joinRelation_eq_ok {properties : List String}
    (h : properties.foldlM (joinRelation registry) q = .ok q') :
    ∃ selected joins, q' = { q with selected := selected, joins := joins } := by
  induction properties generalizing q with
  | nil =>
    cases h
    exact ⟨q'.selected, q'.joins, rfl⟩
  | cons property rest ih =>
    rw [List.foldlM_cons, Except.bind_eq_ok] at h
    obtain ⟨next, first, h⟩ := h
    obtain ⟨_, _, rfl⟩ := joinRelation_eq_ok first
    obtain ⟨selected, joins, rfl⟩ := ih h
    exact ⟨selected, joins, rfl⟩

end

end Query

/-- The query of `findQuery`. Where relations are followed, the table is used under its own name. -/
theorem Repository.findQuery_eq_ok {σ α : Type} {r : Repository σ α} {o : FindOptions} {q : Query}
    (h : r.findQuery o = .ok q) : ∃ selected joins, q =
      { table := r.table, rename := if o.relations.isEmpty then none else some r.table.name,
        selected := selected, filter := o.filter, joins := joins, order := o.order,
        limit := o.limit, offset := o.offset } := by
  simp only [findQuery, Except.bind_eq_ok, Query.joinRelations] at h
  obtain ⟨joined, hjoined, h⟩ := h
  cases h
  by_cases none : o.relations.isEmpty = true
  · rw [if_pos none] at hjoined ⊢
    cases hjoined
    exact ⟨[], [], rfl⟩
  · rw [if_neg none] at hjoined ⊢
    obtain ⟨selected, joins, rfl⟩ := Query.foldlM_joinRelation_eq_ok hjoined
    exact ⟨selected, joins, rfl⟩

end EntityStore
