import EntityStore.Proofs.Query.Joining
import EntityStore.Proofs.Statement.Qualifier

/-!
# Relations that lead to each other

A relation from one row to many and its way back, from many rows to one, are joined by conditions
that are formed apart: the first finds the foreign key by the name of the way back, the other by its
own declaration. Both conditions are read as equations between columns here and compared.
-/

namespace EntityStore

open Sql

variable {σ τ α β : Type}

/-! ## Reading the condition of a join -/

/-- The two columns that `text` equates, each with its table. -/
def Sql.equated? (text : String) : Option ((String × String) × (String × String)) :=
  match lexemes text.toList with
  | [left, ['='], right] => do return (← reference? left, ← reference? right)
  | _ => none

/-- An identifier without qualifier. -/
def Identifier.IsPlain (name : String) : Prop := isValid name false = true ∧ '.' ∉ name.toList

instance (name : String) : Decidable (Identifier.IsPlain name) :=
  inferInstanceAs (Decidable (_ ∧ _))

theorem Sql.lexemes_equation {left right : String} (hleft : IsWord left) (hright : IsWord right) :
    lexemes (left ++ (" = " ++ right)).toList = [left.toList, ['='], right.toList] := by
  have sign : lexemes " = ".toList = [['=']] := by decide
  have starts : isApartAtStart (" = " ++ right).toList = true :=
    startsApart_append _ (by decide) (by decide)
  rw [String.toList_append, lexemes_append (.inr starts), String.toList_append,
    lexemes_append (.inl (by decide)), sign, lexemes_word hleft.1 hleft.2,
    lexemes_word hright.1 hright.2]
  rfl

section

variable {table column otherTable otherColumn : String}
  (htable : Identifier.isValid table false = true) (hcolumn : Identifier.IsPlain column)
  (hother : Identifier.isValid otherTable false = true)
  (hotherColumn : Identifier.IsPlain otherColumn)

include htable hcolumn hother hotherColumn

theorem Sql.lexemes_columnsEqual :
    lexemes (columnsEqual table column otherTable otherColumn).toList =
      [(table ++ "." ++ column).toList, ['='], (otherTable ++ "." ++ otherColumn).toList] := by
  have left : IsWord (table ++ "." ++ column) :=
    (isWord_of_isValid htable).qualified (isWord_of_isValid hcolumn.1)
  have right : IsWord (otherTable ++ "." ++ otherColumn) :=
    (isWord_of_isValid hother).qualified (isWord_of_isValid hotherColumn.1)
  have text : columnsEqual table column otherTable otherColumn =
      table ++ "." ++ column ++ (" = " ++ (otherTable ++ "." ++ otherColumn)) := by
    simp [columnsEqual, String.append_assoc]
  rw [text, lexemes_equation left right]

theorem Sql.equated?_columnsEqual :
    equated? (columnsEqual table column otherTable otherColumn) =
      some ((table, column), (otherTable, otherColumn)) := by
  simp only [equated?, lexemes_columnsEqual htable hcolumn hother hotherColumn,
    reference?_qualified _ hcolumn.2, reference?_qualified _ hotherColumn.2]
  rfl

/-- The condition mentions these two tables and no other one. -/
theorem Sql.qualifiers_columnsEqual :
    qualifiers (columnsEqual table column otherTable otherColumn) = [table, otherTable] := by
  have sign : qualifier? ['='] = none := by decide
  have left : qualifier? (table ++ "." ++ column).toList = some table := by
    rw [qualifier?, reference?_qualified _ hcolumn.2, Option.map_some]
  have right : qualifier? (otherTable ++ "." ++ otherColumn).toList = some otherTable := by
    rw [qualifier?, reference?_qualified _ hotherColumn.2, Option.map_some]
  simp only [qualifiers, lexemes_columnsEqual htable hcolumn hother hotherColumn,
    List.filterMap_cons, left, sign, right, List.filterMap_nil]

end

/-! ## The joins of a query along one relation -/

namespace Repository

variable {r : Repository σ α} {o : FindOptions} {p : String} {relation : Relation} {target : Table}

theorem findQuery_along (only : o.relations = [p]) {joined : Query}
    (h : Query.joinRelation r.registry (r.query.renamed r.table.name) p = .ok joined) :
    ∃ q, r.findQuery o = .ok q ∧ q.joins = joined.joins := by
  have along : r.query.joinRelations r.registry [p] = .ok joined := by
    rw [Query.joinRelations, if_neg (by simp), List.foldlM_cons, Except.bind_eq_ok]
    exact ⟨joined, h, rfl⟩
  rw [findQuery, only, along]
  exact ⟨_, rfl, rfl⟩

/-- Where one row leads to many, they refer to its primary column. -/
theorem findQuery_referring (only : o.relations = [p])
    (declared : r.table.relation? p = some relation) (many : relation.kind = .oneToMany)
    (leads : r.registry.table relation.target = .ok target) {primary : Column}
    (owns : r.table.primary = .ok primary) :
    ∃ q, r.findQuery o = .ok q ∧ q.joins = [⟨.left, target.name, p,
      columnsEqual p (relation.backReference r.table) r.table.name primary.name⟩] := by
  have named : relation.property = p := by simpa using List.find?_some declared
  have start : (r.query.renamed r.table.name).table.relation? p = some relation := declared
  have joined : Query.joinRelation r.registry (r.query.renamed r.table.name) p =
      .ok ((r.query.renamed r.table.name).joinSelecting .left target.name relation.property
        (columnsEqual relation.property (relation.backReference r.table) r.table.name
          primary.name)) := by
    rw [Query.joinRelation_declared start, Except.bind_eq_ok]
    refine ⟨target, leads, ?_⟩
    simp only [many]
    rw [Query.joinReferring, Except.bind_eq_ok]
    exact ⟨primary, owns, rfl⟩
  rw [named] at joined
  exact findQuery_along only joined

/-- Where many rows lead to one, they refer to it by their `foreignKey`. -/
theorem findQuery_referred (only : o.relations = [p])
    (declared : r.table.relation? p = some relation) (one : relation.kind = .manyToOne)
    (leads : r.registry.table relation.target = .ok target) {column : String}
    (refers : relation.referenced target = .ok column) :
    ∃ q, r.findQuery o = .ok q ∧ q.joins = [⟨.left, target.name, p,
      columnsEqual r.table.name relation.foreignKey p column⟩] := by
  have named : relation.property = p := by simpa using List.find?_some declared
  have start : (r.query.renamed r.table.name).table.relation? p = some relation := declared
  have joined : Query.joinRelation r.registry (r.query.renamed r.table.name) p =
      .ok ((r.query.renamed r.table.name).joinSelecting .left target.name relation.property
        (columnsEqual r.table.name relation.foreignKey relation.property column)) := by
    rw [Query.joinRelation_declared start, Except.bind_eq_ok]
    refine ⟨target, leads, ?_⟩
    simp only [one]
    rw [Query.joinReferred, Except.bind_eq_ok]
    exact ⟨column, refers, rfl⟩
  rw [named] at joined
  exact findQuery_along only joined

end Repository

/-! ## Both directions -/

/-- Two relations lead to each other: `toMany` from one row of `a` to many of `b`, and `toOne`
back. -/
structure Repository.Inverse (a : Repository σ α) (b : Repository τ β) (toMany toOne : Relation) :
    Prop where
  declared : a.table.relation? toMany.property = some toMany
  many : toMany.kind = .oneToMany
  leads : a.registry.table toMany.target = .ok b.table
  inverse : toMany.inverseSide = some toOne.property
  declaredBack : b.table.relation? toOne.property = some toOne
  one : toOne.kind = .manyToOne
  leadsBack : b.registry.table toOne.target = .ok a.table

/-- The conditions that join the tables of two entities along relations that lead to each other
equate the same columns if and only if the foreign key is named after its relation and refers to the
primary column. -/
theorem inverse_joins_agree_iff {a : Repository σ α} {b : Repository τ β}
    {toMany toOne : Relation} (inverse : a.Inverse b toMany toOne) {primary : Column}
    (owns : a.table.primary = .ok primary) {referenced : String}
    (refers : toOne.referenced a.table = .ok referenced)
    (tables : ∀ name ∈ [a.table.name, b.table.name, toMany.property, toOne.property],
      Identifier.isValid name false = true)
    (columns : ∀ name ∈ [toOne.property ++ "Id", primary.name, toOne.foreignKey, referenced],
      Identifier.IsPlain name)
    {o o' : FindOptions} (along : o.relations = [toMany.property])
    (back : o'.relations = [toOne.property]) :
    ∃ qa qb many one, a.findQuery o = .ok qa ∧ b.findQuery o' = .ok qb ∧
      qa.joins = [⟨.left, b.table.name, toMany.property, many⟩] ∧
      qb.joins = [⟨.left, a.table.name, toOne.property, one⟩] ∧
      ((∃ column key,
          equated? many = some ((toMany.property, column), (a.table.name, key)) ∧
          equated? one = some ((b.table.name, column), (toOne.property, key))) ↔
        toOne.foreignKey = toOne.property ++ "Id" ∧ referenced = primary.name) := by
  simp only [List.forall_mem_cons] at tables columns
  obtain ⟨tableA, tableB, nameA, nameB, -⟩ := tables
  obtain ⟨backColumn, primaryColumn, foreignColumn, referencedColumn, -⟩ := columns
  obtain ⟨qa, foundA, joinsA⟩ := Repository.findQuery_referring along inverse.declared inverse.many
    inverse.leads owns
  obtain ⟨qb, foundB, joinsB⟩ := Repository.findQuery_referred back inverse.declaredBack inverse.one
    inverse.leadsBack refers
  have backReference : toMany.backReference a.table = toOne.property ++ "Id" := by
    rw [Relation.backReference, inverse.inverse, Option.getD_some]
  rw [backReference] at joinsA
  refine ⟨qa, qb, _, _, foundA, foundB, joinsA, joinsB, ?_⟩
  rw [equated?_columnsEqual nameA backColumn tableA primaryColumn,
    equated?_columnsEqual tableB foreignColumn nameB referencedColumn]
  constructor
  · rintro ⟨column, key, many, one⟩
    simp only [Option.some.injEq, Prod.mk.injEq] at many one
    obtain ⟨⟨-, rfl⟩, -, rfl⟩ := many
    exact ⟨one.1.2, one.2.2⟩
  · rintro ⟨sameColumn, sameKey⟩
    rw [sameColumn, sameKey]
    exact ⟨_, _, rfl, rfl⟩

namespace Blog

def authors : Table where
  name := "authors"
  columns := [{ name := "id", type := .integer, primary := true }]
  relations := [
    { property := "posts", kind := .oneToMany, target := ⟨2, "Post"⟩, inverseSide := some "author" }]

/-- Posts, each with an author, by the column `key`. -/
def posts (key : Option JoinColumn) : Table where
  name := "posts"
  columns := [{ name := "id", type := .integer, primary := true }]
  relations := [
    { property := "author", kind := .manyToOne, target := ⟨1, "Author"⟩, joinColumn := key }]

def repository (key : Option JoinColumn) (e : Entity Record) : Repository Unit Record where
  connection := ⟨{ all := fun _ => return .bare [], run := fun _ => return {} }, .sqlite⟩
  registry := ⟨[(⟨1, "Author"⟩, authors), (⟨2, "Post"⟩, posts key)]⟩
  entity := e
  table := e.table
  owner := .dataSource

def authorRepository (key : Option JoinColumn) : Repository Unit Record :=
  repository key ⟨⟨1, "Author"⟩, authors, id, .ok⟩

def postRepository (key : Option JoinColumn) : Repository Unit Record :=
  repository key ⟨⟨2, "Post"⟩, posts key, id, .ok⟩

def withPosts : FindOptions := { relations := ["posts"] }

def withAuthor : FindOptions := { relations := ["author"] }

theorem posts_joined_alike :
    ∃ toMany toOne qa qb many one,
      (authorRepository none).Inverse (postRepository none) toMany toOne ∧
      (authorRepository none).findQuery withPosts = .ok qa ∧
      (postRepository none).findQuery withAuthor = .ok qb ∧
      qa.joins = [⟨.left, "posts", "posts", many⟩] ∧
      qb.joins = [⟨.left, "authors", "author", one⟩] ∧
      ∃ column key, equated? many = some (("posts", column), ("authors", key)) ∧
        equated? one = some (("posts", column), ("author", key)) := by
  have inverse : (authorRepository none).Inverse (postRepository none)
      { property := "posts", kind := .oneToMany, target := ⟨2, "Post"⟩, inverseSide := some "author" }
      { property := "author", kind := .manyToOne, target := ⟨1, "Author"⟩ } := by
    refine ⟨?_, rfl, ?_, rfl, ?_, rfl, ?_⟩ <;> rfl
  have owns : (authorRepository none).table.primary =
      .ok { name := "id", type := .integer, primary := true } := rfl
  have refers : Relation.referenced
      { property := "author", kind := .manyToOne, target := ⟨1, "Author"⟩ }
      (authorRepository none).table = .ok "id" := rfl
  have along : withPosts.relations = ["posts"] := rfl
  have back : withAuthor.relations = ["author"] := rfl
  obtain ⟨qa, qb, many, one, foundA, foundB, joinsA, joinsB, agree⟩ :=
    inverse_joins_agree_iff inverse owns refers (by decide) (by decide) along back
  exact ⟨_, _, qa, qb, many, one, inverse, foundA, foundB, joinsA, joinsB, agree.2 ⟨rfl, rfl⟩⟩

/-- The foreign key has a name of its own. One direction joins on it, the other on a column that
nobody has declared. -/
theorem writer_joined_otherwise :
    ∃ qa qb, (authorRepository (some { name := some "writer_id" })).findQuery withPosts = .ok qa ∧
      (postRepository (some { name := some "writer_id" })).findQuery withAuthor = .ok qb ∧
      qa.joins = [⟨.left, "posts", "posts", "posts.authorId = authors.id"⟩] ∧
      qb.joins = [⟨.left, "authors", "author", "posts.writer_id = author.id"⟩] ∧
      ¬ ∃ column key,
        equated? "posts.authorId = authors.id" = some (("posts", column), ("authors", key)) ∧
        equated? "posts.writer_id = author.id" = some (("posts", column), ("author", key)) := by
  refine ⟨_, _, rfl, rfl, rfl, rfl, ?_⟩
  rintro ⟨column, key, many, one⟩
  have manyRead : equated? "posts.authorId = authors.id" =
      some (("posts", "authorId"), ("authors", "id")) := by decide
  have oneRead : equated? "posts.writer_id = author.id" =
      some (("posts", "writer_id"), ("author", "id")) := by decide
  rw [manyRead] at many
  rw [oneRead] at one
  cases many
  exact absurd one (by decide)

end Blog

end EntityStore
