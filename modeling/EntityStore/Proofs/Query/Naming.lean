import EntityStore.Proofs.Query.Inverse
import Mathlib.Data.List.Nodup

/-!
# Names of joined tables

A query that is joined along relations uses its table under the table's own name, every target under
the name of its relation and every junction table under a name made from that. No name is compared
with another one, so two tables can come to be used under the same name. Every join refers back only:
its condition equates columns of tables that are named no later than its own.
-/

namespace EntityStore

open Sql

variable {σ α : Type}

namespace Relation

/-- The names under which a query uses the tables that it joins along `r`. -/
def joinedNames (r : Relation) : List String :=
  match r.kind with
  | .manyToMany => [r.junctionName, r.property]
  | .manyToOne | .oneToOne | .oneToMany => [r.property]

theorem mem_joinedNames {r : Relation} {name : String} :
    name ∈ r.joinedNames ↔
      name = r.property ∨ r.kind = .manyToMany ∧ name = r.junctionName := by
  cases kind : r.kind <;> simp [joinedNames, kind, or_comm]

theorem junctionName_ne_property (r : Relation) : r.junctionName ≠ r.property := by
  intro same
  have length := congrArg String.length same
  simp [junctionName] at length

theorem nodup_joinedNames (r : Relation) : r.joinedNames.Nodup := by
  unfold joinedNames
  split <;> simp [r.junctionName_ne_property]

/-- The names of the columns by which `r` is joined. -/
def keyNames (r : Relation) (root target : Table) : List String :=
  let junction := r.joinTable.getD {}
  match r.kind with
  | .manyToOne | .oneToOne => r.foreignKey :: (r.referenced target).toOption.toList
  | .oneToMany => r.backReference root :: (root.primary.toOption.map Column.name).toList
  | .manyToMany =>
    junction.joinColumn.getD (root.name ++ "Id") ::
      junction.inverseJoinColumn.getD (target.name ++ "Id") ::
        ((root.primary.toOption.map Column.name).toList ++
          (target.primary.toOption.map Column.name).toList)

/-- Relations of different names have different junction names. -/
theorem property_eq_of_junctionName_eq {r r' : Relation} (same : r.junctionName = r'.junctionName) :
    r.property = r'.property :=
  String.append_left_inj "_junction" |>.1 same

end Relation

/-- The condition of `j` equates a column of one table with a column of another one. Both tables are
used under one of the `names`, and `P` holds of the names of both columns. -/
def Join.Links (names : List String) (P : String → Prop) (j : Join) : Prop :=
  ∃ table ∈ names, ∃ other ∈ names, ∃ column otherColumn, P column ∧ P otherColumn ∧
    j.condition = columnsEqual table column other otherColumn

namespace Query

/-- The names under which a query uses its tables, in the order in which a statement has them. -/
def tableNames (q : Query) : List String := q.root :: q.joins.map Join.name

/-- Every join refers to names that are introduced no later than its own. -/
def Linked (q : Query) (P : String → Prop) : Prop :=
  ∀ earlier j later, q.joins = earlier ++ j :: later →
    j.Links (q.root :: (earlier ++ [j]).map Join.name) P

variable {registry : Registry} {q q' : Query} {P : String → Prop}

theorem Linked.of_no_joins (alone : q.joins = []) : q.Linked P := by
  intro earlier j later joins
  rw [alone] at joins
  simp at joins

theorem Linked.join (linked : q.Linked P) {kind : JoinKind} {table name condition : String}
    (links : (Join.mk kind table name condition).Links (q.tableNames ++ [name]) P) :
    (q.join kind table name condition).Linked P := by
  intro earlier j later joins
  change q.joins ++ [⟨kind, table, name, condition⟩] = earlier ++ j :: later at joins
  show j.Links (q.root :: (earlier ++ [j]).map Join.name) P
  -- Either it is the new join itself, or it was there before and refers to no more than it did.
  rcases List.eq_nil_or_concat later with rfl | ⟨later, last, rfl⟩
  · obtain ⟨rfl, last⟩ := List.append_inj' joins rfl
    cases last
    simpa [tableNames] using links
  · rw [List.concat_eq_append, ← List.cons_append, ← List.append_assoc] at joins
    exact linked earlier j later (List.append_inj' joins rfl).1

/-- Joining along a `relation` adds the names of the relation, and links them to those before. -/
structure Joined (q q' : Query) (relation : Relation) (target : Table) : Prop where
  table : q'.table = q.table
  root : q'.root = q.root
  names : q'.tableNames = q.tableNames ++ relation.joinedNames
  linked : ∀ P : String → Prop, (∀ c ∈ relation.keyNames q.table target, P c) → q.Linked P →
    q'.Linked P

theorem joined_joinSelecting {relation : Relation} {target : Table} {kind : JoinKind}
    {table condition : String} (single : relation.joinedNames = [relation.property])
    (links : (Join.mk kind table relation.property condition).Links
      (q.tableNames ++ [relation.property]) (· ∈ relation.keyNames q.table target)) :
    q.Joined (q.joinSelecting kind table relation.property condition) relation target where
  table := rfl
  root := rfl
  names := by
    rw [single]
    simp [tableNames, joinSelecting, Query.join, root]
  linked P keys linked := by
    refine linked.join ?_
    obtain ⟨table, htable, other, hother, column, otherColumn, first, second, condition⟩ := links
    exact ⟨table, htable, other, hother, column, otherColumn, keys _ first, keys _ second, condition⟩

theorem joinRelation_joined {property : String} (own : q.root = q.table.name)
    (h : joinRelation registry q property = .ok q') :
    ∃ relation target, q.table.relation? property = some relation ∧
      registry.table relation.target = .ok target ∧ q.Joined q' relation target := by
  cases declared : q.table.relation? property with
  | none =>
    simp only [joinRelation, declared] at h
    cases h
  | some relation =>
    have first : q.table.name ∈ q.tableNames := own ▸ List.mem_cons_self
    rw [joinRelation_declared declared, Except.bind_eq_ok] at h
    obtain ⟨target, leads, h⟩ := h
    refine ⟨relation, target, rfl, leads, ?_⟩
    cases kind : relation.kind with
    | manyToOne | oneToOne =>
      simp only [kind, joinReferred, Except.bind_eq_ok] at h
      obtain ⟨referenced, refers, h⟩ := h
      cases h
      refine joined_joinSelecting (by simp [Relation.joinedNames, kind]) ?_
      refine ⟨_, List.mem_append_left _ first, _, List.mem_append_right _ List.mem_cons_self, _, _,
        ?_, ?_, rfl⟩ <;> simp [Relation.keyNames, kind, refers, Except.toOption]
    | oneToMany =>
      simp only [kind, joinReferring, Except.bind_eq_ok] at h
      obtain ⟨primary, owns, h⟩ := h
      cases h
      refine joined_joinSelecting (by simp [Relation.joinedNames, kind]) ?_
      refine ⟨_, List.mem_append_right _ List.mem_cons_self, _, List.mem_append_left _ first, _, _,
        ?_, ?_, rfl⟩ <;> simp [Relation.keyNames, kind, owns, Except.toOption]
    | manyToMany =>
      simp only [kind, joinThrough, Except.bind_eq_ok] at h
      obtain ⟨primary, owns, targetPrimary, ownsToo, h⟩ := h
      cases h
      refine ⟨rfl, rfl, ?_, fun P keys linked => ?_⟩
      · simp [tableNames, joinSelecting, Query.join, root, Relation.joinedNames, kind]
      · simp only [Relation.keyNames, kind, owns, ownsToo, Except.toOption, Option.map_some,
          Option.toList_some, List.forall_mem_cons, List.singleton_append] at keys
        obtain ⟨owner, inverse, key, targetKey, -⟩ := keys
        refine Linked.join (linked.join ?_) ?_
        · exact ⟨_, List.mem_append_right _ List.mem_cons_self, _, List.mem_append_left _ first, _, _,
            owner, key, rfl⟩
        · refine ⟨_, List.mem_append_right _ List.mem_cons_self, _, ?_, _, _, targetKey, inverse, rfl⟩
          simp [tableNames, Query.join]

end Query

namespace Table

/-- The names under which a query of `t` uses the tables that it joins along the relation
`property`. -/
def joinedNames (t : Table) (property : String) : List String :=
  (t.relation? property).elim [] Relation.joinedNames

/-- Relations of `t` that can be followed together: none of them is listed twice, and none of them,
nor a junction table, is named like the table or like another one of them. -/
structure KeepsApart (t : Table) (properties : List String) : Prop where
  once : properties.Nodup
  own : t.name ∉ properties
  junctions : ∀ p ∈ properties, ∀ r, t.relation? p = some r → r.kind = .manyToMany →
    r.junctionName ∉ t.name :: properties

/-- When the relations `properties` are followed, `t` is joined by a column of this name. -/
def JoinsBy (t : Table) (registry : Registry) (properties : List String) (column : String) : Prop :=
  ∃ p ∈ properties, ∃ relation target, t.relation? p = some relation ∧
    registry.table relation.target = .ok target ∧ column ∈ relation.keyNames t target

variable {t : Table} {p : String} {r : Relation}

theorem property_of_relation? (declared : t.relation? p = some r) : r.property = p := by
  simpa using List.find?_some declared

theorem joinedNames_declared (declared : t.relation? p = some r) :
    t.joinedNames p = r.joinedNames := by
  rw [joinedNames, declared, Option.elim_some]

theorem mem_joinedNames (declared : t.relation? p = some r) {name : String} :
    name ∈ t.joinedNames p ↔ name = p ∨ r.kind = .manyToMany ∧ name = r.junctionName := by
  rw [joinedNames_declared declared, Relation.mem_joinedNames, property_of_relation? declared]

section

variable {properties : List String} (declared : ∀ p ∈ properties, ∃ r, t.relation? p = some r)

include declared

theorem KeepsApart.of_nodup (distinct : (t.name :: properties.flatMap t.joinedNames).Nodup) :
    t.KeepsApart properties := by
  rw [List.nodup_cons, List.nodup_flatMap, List.mem_flatMap] at distinct
  obtain ⟨fresh, -, apart⟩ := distinct
  have own : ∀ p ∈ properties, p ∈ t.joinedNames p := by
    intro p hp
    obtain ⟨r, hr⟩ := declared p hp
    exact (mem_joinedNames hr).2 (.inl rfl)
  have symm : Std.Symm (Function.onFun List.Disjoint t.joinedNames) :=
    ⟨fun _ _ disjoint _ first second => disjoint second first⟩
  refine ⟨?_, fun hp => fresh ⟨_, hp, own _ hp⟩, ?_⟩
  · refine apart.imp_of_mem ?_
    rintro p _ hp - disjoint rfl
    exact disjoint (own p hp) (own p hp)
  · intro p hp r hr many taken
    have junction : r.junctionName ∈ t.joinedNames p := (mem_joinedNames hr).2 (.inr ⟨many, rfl⟩)
    rcases List.mem_cons.1 taken with same | hp'
    · exact fresh ⟨p, hp, same ▸ junction⟩
    · have other : p ≠ r.junctionName := property_of_relation? hr ▸ r.junctionName_ne_property.symm
      exact apart.forall hp hp' other junction (own _ hp')

theorem KeepsApart.nodup (apart : t.KeepsApart properties) :
    (t.name :: properties.flatMap t.joinedNames).Nodup := by
  rw [List.nodup_cons, List.nodup_flatMap, List.mem_flatMap]
  refine ⟨?_, ?_, ?_⟩
  · rintro ⟨p, hp, taken⟩
    obtain ⟨r, hr⟩ := declared p hp
    rcases (mem_joinedNames hr).1 taken with same | ⟨many, same⟩
    · exact apart.own (same ▸ hp)
    · exact apart.junctions p hp r hr many (same ▸ List.mem_cons_self)
  · intro p hp
    obtain ⟨r, hr⟩ := declared p hp
    exact joinedNames_declared hr ▸ r.nodup_joinedNames
  · refine apart.once.imp_of_mem ?_
    intro p p' hp hp' other name first second
    obtain ⟨r, hr⟩ := declared p hp
    obtain ⟨r', hr'⟩ := declared p' hp'
    rcases (mem_joinedNames hr).1 first with rfl | ⟨many, rfl⟩
    · rcases (mem_joinedNames hr').1 second with same | ⟨many', same⟩
      · exact other same
      · exact apart.junctions p' hp' r' hr' many' (same ▸ List.mem_cons_of_mem _ hp)
    · rcases (mem_joinedNames hr').1 second with same | ⟨-, same⟩
      · exact apart.junctions p hp r hr many (same ▸ List.mem_cons_of_mem _ hp')
      · have both := Relation.property_eq_of_junctionName_eq same
        rw [property_of_relation? hr, property_of_relation? hr'] at both
        exact other both

end

end Table

namespace Query

variable {registry : Registry} {q q' : Query}

theorem foldlM_joinRelation_joined {properties : List String} {P : String → Prop}
    (own : q.root = q.table.name) (keys : ∀ c, q.table.JoinsBy registry properties c → P c)
    (linked : q.Linked P) (h : properties.foldlM (joinRelation registry) q = .ok q') :
    (∀ p ∈ properties, ∃ r, q.table.relation? p = some r) ∧ q'.Linked P ∧
      q'.tableNames = q.tableNames ++ properties.flatMap q.table.joinedNames := by
  induction properties generalizing q with
  | nil =>
    cases h
    exact ⟨List.forall_mem_nil _, linked, (List.append_nil _).symm⟩
  | cons property rest ih =>
    rw [List.foldlM_cons, Except.bind_eq_ok] at h
    obtain ⟨next, first, h⟩ := h
    obtain ⟨relation, target, declared, leads, joined⟩ := joinRelation_joined own first
    have ownNext : next.root = next.table.name := by rw [joined.root, joined.table, own]
    have linkedNext : next.Linked P := by
      refine joined.linked P (fun c hc => keys c ?_) linked
      exact ⟨property, List.mem_cons_self, relation, target, declared, leads, hc⟩
    have keysNext : ∀ c, next.table.JoinsBy registry rest c → P c := by
      rintro c ⟨p, hp, others⟩
      rw [joined.table] at others
      exact keys c ⟨p, List.mem_cons_of_mem _ hp, others⟩
    obtain ⟨others, linked', names⟩ := ih ownNext keysNext linkedNext h
    rw [joined.table] at others names
    refine ⟨List.forall_mem_cons.2 ⟨⟨relation, declared⟩, others⟩, linked', ?_⟩
    rw [names, joined.names, List.flatMap_cons, Table.joinedNames_declared declared,
      List.append_assoc]

/-- The statement of a query introduces its table and those that it joins, in order. -/
theorem selectStatement_joins {d : Dialect} {s : Statement} (built : q.selectStatement d = .ok s) :
    (∀ j ∈ q.joins, Identifier.isValid j.name false = true) ∧
      ∃ rest, s.sql = q.head ++ (textFrom d 1 q.joinClauses ++ rest) := by
  simp only [selectStatement, Except.bind_eq_ok] at built
  obtain ⟨sql, hsql, built⟩ := built
  obtain ⟨valid, rfl⟩ := selectSql_eq_ok hsql
  cases built
  refine ⟨fun j hj => (valid.joins j hj).2, ?_⟩
  simp only [Sql.statement, textFrom, textFrom_append]
  exact ⟨_, rfl⟩

end Query

/-- The names that the query of `findQuery` uses are those of its table and of the relations that
are followed. -/
theorem Repository.findQuery_names {r : Repository σ α} {o : FindOptions} {q : Query}
    (found : r.findQuery o = .ok q) :
    (∀ p ∈ o.relations, ∃ relation, r.table.relation? p = some relation) ∧
      q.Linked (r.table.JoinsBy r.registry o.relations) ∧
      q.tableNames = r.table.name :: o.relations.flatMap r.table.joinedNames := by
  simp only [findQuery, Except.bind_eq_ok, Query.joinRelations] at found
  obtain ⟨joined, hjoined, found⟩ := found
  cases found
  by_cases none : o.relations.isEmpty = true
  · rw [if_pos none] at hjoined
    cases hjoined
    rw [List.isEmpty_iff.1 none]
    exact ⟨List.forall_mem_nil _, .of_no_joins rfl, rfl⟩
  · rw [if_neg none] at hjoined
    exact Query.foldlM_joinRelation_joined rfl (fun _ => id) (.of_no_joins rfl) hjoined

/-- The statement that finds members along relations introduces the table and then the joined
tables. Their names are distinct if and only if the relations keep apart. The condition of every
join equates columns of two tables that are named no later than that of the join, and it mentions no
other tables if the names of columns are plain. -/
theorem joined_names_distinct_iff {r : Repository σ α} {o : FindOptions} {q : Query} {d : Dialect}
    {s : Statement} (found : r.findQuery o = .ok q) (built : q.selectStatement d = .ok s) :
    (∃ rest, s.sql = q.head ++ (textFrom d 1 q.joinClauses ++ rest)) ∧
      q.tableNames = r.table.name :: o.relations.flatMap r.table.joinedNames ∧
      (q.tableNames.Nodup ↔ r.table.KeepsApart o.relations) ∧
      ∀ earlier j later, q.joins = earlier ++ j :: later →
        ∃ table ∈ q.root :: (earlier ++ [j]).map Join.name,
          ∃ other ∈ q.root :: (earlier ++ [j]).map Join.name,
            (∃ column otherColumn, j.condition = columnsEqual table column other otherColumn) ∧
            (Identifier.isValid r.table.name false = true →
              (∀ c, r.table.JoinsBy r.registry o.relations c → Identifier.IsPlain c) →
                qualifiers j.condition = [table, other]) := by
  obtain ⟨validJoins, text⟩ := Query.selectStatement_joins built
  obtain ⟨declared, linked, names⟩ := Repository.findQuery_names found
  refine ⟨text, names, ?_, ?_⟩
  · rw [names]
    exact ⟨Table.KeepsApart.of_nodup declared, Table.KeepsApart.nodup declared⟩
  · intro earlier j later joins
    obtain ⟨table, htable, other, hother, column, otherColumn, first, second, condition⟩ :=
      linked earlier j later joins
    refine ⟨table, htable, other, hother, ⟨column, otherColumn, condition⟩, ?_⟩
    intro own plain
    have root : q.root = r.table.name := by
      rw [Query.tableNames] at names
      exact (List.cons.inj names).1
    have valid : ∀ name ∈ q.root :: (earlier ++ [j]).map Join.name,
        Identifier.isValid name false = true := by
      rw [List.forall_mem_cons, root, List.forall_mem_map]
      refine ⟨own, fun j' hj' => validJoins j' ?_⟩
      rw [joins, List.append_cons]
      exact List.mem_append_left _ hj'
    rw [condition]
    exact qualifiers_columnsEqual (valid table htable) (plain _ first) (valid other hother)
      (plain _ second)

namespace Forum

/-- Posts, with an author, an editor who is known under a column of another table, and tags. -/
def posts : Table where
  name := "posts"
  columns := [{ name := "id", type := .integer, primary := true }]
  relations := [
    { property := "author", kind := .manyToOne, target := ⟨1, "Author"⟩ },
    { property := "editor", kind := .manyToOne, target := ⟨1, "Author"⟩,
      joinColumn := some { referenced := some "staff.id" } },
    { property := "tags", kind := .manyToMany, target := ⟨3, "Tag"⟩ }]

def authors : Table where
  name := "authors"
  columns := [{ name := "id", type := .integer, primary := true }]

def tags : Table where
  name := "tags"
  columns := [{ name := "id", type := .integer, primary := true }]

def repository : Repository Unit Record where
  connection := ⟨{ all := fun _ => return .bare [], run := fun _ => return {} }, .sqlite⟩
  registry := ⟨[(⟨1, "Author"⟩, authors), (⟨2, "Post"⟩, posts), (⟨3, "Tag"⟩, tags)]⟩
  entity := ⟨⟨2, "Post"⟩, posts, id, .ok⟩
  table := posts
  owner := .dataSource

theorem keepsApart_author_tags : posts.KeepsApart ["author", "tags"] where
  once := by decide
  own := by decide
  junctions := by
    have author : posts.relation? "author" =
        some { property := "author", kind := .manyToOne, target := ⟨1, "Author"⟩ } := rfl
    have tags : posts.relation? "tags" =
        some { property := "tags", kind := .manyToMany, target := ⟨3, "Tag"⟩ } := rfl
    simp only [List.forall_mem_cons, author, tags, Option.some.injEq]
    refine ⟨?_, ?_, nofun⟩
    · rintro _ rfl ⟨⟩
    · rintro _ rfl -
      decide

theorem plain_author_tags {c : String}
    (joins : posts.JoinsBy repository.registry ["author", "tags"] c) : Identifier.IsPlain c := by
  have author : posts.relation? "author" =
      some { property := "author", kind := .manyToOne, target := ⟨1, "Author"⟩ } := rfl
  have tags : posts.relation? "tags" =
      some { property := "tags", kind := .manyToMany, target := ⟨3, "Tag"⟩ } := rfl
  have authorTarget : repository.registry.table ⟨1, "Author"⟩ = .ok Forum.authors := rfl
  have tagTarget : repository.registry.table ⟨3, "Tag"⟩ = .ok Forum.tags := rfl
  obtain ⟨p, hp, relation, target, declared, leads, hc⟩ := joins
  simp only [List.mem_cons, List.not_mem_nil, or_false] at hp
  rcases hp with rfl | rfl
  · cases author.symm.trans declared
    cases authorTarget.symm.trans leads
    revert c
    decide
  · cases tags.symm.trans declared
    cases tagTarget.symm.trans leads
    revert c
    decide

theorem author_tags_distinct :
    ∃ q s, repository.findQuery { relations := ["author", "tags"] } = .ok q ∧
      q.selectStatement .sqlite = .ok s ∧
      q.tableNames = ["posts", "author", "tags_junction", "tags"] ∧ q.tableNames.Nodup ∧
      Identifier.isValid posts.name false = true ∧
      (∀ c, posts.JoinsBy repository.registry ["author", "tags"] c → Identifier.IsPlain c) ∧
      ∃ table ∈ q.tableNames, ∃ other ∈ q.tableNames,
        qualifiers "tags.id = tags_junction.tagsId" = [table, other] := by
  obtain ⟨q, found, s, built, earlier, joins⟩ :
      ∃ q, repository.findQuery { relations := ["author", "tags"] } = .ok q ∧
        ∃ s, q.selectStatement .sqlite = .ok s ∧
          ∃ earlier, q.joins =
            earlier ++ [⟨.left, "tags", "tags", "tags.id = tags_junction.tagsId"⟩] :=
    ⟨_, rfl, _, rfl, [_, _], rfl⟩
  obtain ⟨-, names, distinct, refers⟩ := joined_names_distinct_iff found built
  obtain ⟨table, htable, other, hother, -, mentions⟩ := refers earlier _ [] joins
  rw [← joins] at htable hother
  have valid : Identifier.isValid posts.name false = true := by decide
  exact ⟨q, s, found, built, names, distinct.2 keepsApart_author_tags, valid,
    fun _ => plain_author_tags, table, htable, other, hother,
    mentions valid fun _ => plain_author_tags⟩

/-- A relation that is followed twice makes two tables go by one name, and a column that is named with
a point makes a condition mention a table that nothing introduces. -/
theorem author_clashes_and_staff_unnamed :
    (∃ q, repository.findQuery { relations := ["author", "author"] } = .ok q ∧
      q.selectStatement .sqlite = .ok
        ⟨"SELECT posts.*, author.*, author.* FROM posts posts" ++
          " LEFT JOIN authors author ON posts.authorId = author.id" ++
          " LEFT JOIN authors author ON posts.authorId = author.id", []⟩ ∧
      q.tableNames = ["posts", "author", "author"] ∧ ¬ q.tableNames.Nodup) ∧
    ∃ q, repository.findQuery { relations := ["editor"] } = .ok q ∧
      q.selectStatement .sqlite = .ok
        ⟨"SELECT posts.*, editor.* FROM posts posts" ++
          " LEFT JOIN authors editor ON posts.editorId = editor.staff.id", []⟩ ∧
      q.tableNames = ["posts", "editor"] ∧
      qualifiers "posts.editorId = editor.staff.id" = ["posts", "editor.staff"] := by
  refine ⟨⟨_, rfl, rfl, rfl, ?_⟩, _, rfl, rfl, rfl, ?_⟩
  · decide
  · decide

end Forum

end EntityStore
