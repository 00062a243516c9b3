import EntityStore.Proofs.Condition.Token
import EntityStore.Proofs.Identifier.SelectName
import EntityStore.Proofs.Statement.Clauses

/-!
# When the table gets its other name

A query is put together by calls, one of which gives its table another name. Wherever that call
stands among the others, the errors and the parameters of the statement are the same. The text is the
same, too, but for one case: a joined table is selected while nothing was, so that the name of the
table at that time enters the select list, and it is still in it at the end.
-/

namespace EntityStore

namespace Query

/-! ## Calls -/

/-- A call that adds to a query, apart from `Query.renamed`. -/
inductive Call where
  | select (expressions : List String)
  | addSelect (expressions : List String)
  | filtered (filter : Filter)
  | groupBy (columns : List String)
  | groupsFiltered (filter : Filter)
  | orderBy (column : String) (direction : Direction)
  | limited (count : Nat)
  | skipping (count : Nat)
  | join (kind : JoinKind) (table name condition : String)
  | joinSelecting (kind : JoinKind) (table name condition : String)

def Call.apply (q : Query) : Call → Query
  | select expressions => q.select expressions
  | addSelect expressions => q.addSelect expressions
  | filtered filter => q.filtered filter
  | groupBy columns => q.groupBy columns
  | groupsFiltered filter => q.groupsFiltered filter
  | orderBy column direction => q.orderBy column direction
  | limited count => q.limited count
  | skipping count => q.skipping count
  | join kind table name condition => q.join kind table name condition
  | joinSelecting kind table name condition => q.joinSelecting kind table name condition

def made (q : Query) (calls : List Call) : Query := calls.foldl Call.apply q

/-- Whether `calls` leave a select list that begins with the columns of the table, under the name
that it has during the calls: a joined table is selected while nothing else is, and the list is not
replaced any more. -/
def NamesRoot (q : Query) (calls : List Call) : Prop :=
  ∃ before kind table name condition after,
    calls = before ++ .joinSelecting kind table name condition :: after ∧
      (q.made before).selected = [] ∧ ∀ expressions, .select expressions ∉ after

variable {q q' : Query} {a : String} {calls : List Call}

theorem made_append_singleton (q : Query) (calls : List Call) (call : Call) :
    q.made (calls ++ [call]) = call.apply (q.made calls) := by
  simp [made]

@[simp] theorem made_table (q : Query) (calls : List Call) : (q.made calls).table = q.table := by
  induction calls using List.reverseRecOn with
  | nil => rfl
  | append_singleton calls call ih =>
    rw [made_append_singleton, ← ih]
    cases call <;> rfl

@[simp] theorem made_rename (q : Query) (calls : List Call) : (q.made calls).rename = q.rename := by
  induction calls using List.reverseRecOn with
  | nil => rfl
  | append_singleton calls call ih =>
    rw [made_append_singleton, ← ih]
    cases call <;> rfl

theorem namesRoot_append_singleton (q : Query) (calls : List Call) (call : Call) :
    q.NamesRoot (calls ++ [call]) ↔
      (q.NamesRoot calls ∧ ∀ expressions, call ≠ .select expressions) ∨
        ((q.made calls).selected = [] ∧
          ∃ kind table name condition, call = .joinSelecting kind table name condition) := by
  constructor
  · rintro ⟨before, kind, table, name, condition, after, split, empty, kept⟩
    rcases List.eq_nil_or_concat after with rfl | ⟨between, last, rfl⟩
    · obtain ⟨rfl, same⟩ := List.append_inj' split rfl
      cases same
      exact .inr ⟨empty, kind, table, name, condition, rfl⟩
    · rw [List.concat_eq_append, ← List.cons_append, ← List.append_assoc] at split
      obtain ⟨rfl, same⟩ := List.append_inj' split rfl
      cases same
      refine .inl ⟨⟨before, kind, table, name, condition, between, rfl, empty, ?_⟩, ?_⟩
      · intro expressions selects
        exact kept expressions (by simp [selects])
      · rintro expressions rfl
        exact kept expressions (by simp)
  · rintro (⟨⟨before, kind, table, name, condition, after, rfl, empty, kept⟩, other⟩ |
      ⟨empty, kind, table, name, condition, rfl⟩)
    · refine ⟨before, kind, table, name, condition, after ++ [call], by simp, empty, ?_⟩
      intro expressions selects
      rcases List.mem_append.1 selects with selects | selects
      · exact kept expressions selects
      · exact other expressions (List.mem_singleton.1 selects).symm
    · exact ⟨calls, kind, table, name, condition, [], rfl, empty, by simp⟩

/-! ## Two queries -/

/-- The queries select the columns of the table under different names, and are the same else: `q`
under the name `a`, which it uses, and `q'` under its own. -/
def Differs (a : String) (q q' : Query) : Prop :=
  ∃ rest, q'.selected = (q'.table.name ++ ".*") :: rest ∧
    q = { q'.renamed a with selected := (a ++ ".*") :: rest }

theorem Differs.renamed (h : Differs a q q') : Differs a q (q'.renamed a) := h

/-- Only where the select list is replaced do queries that differ become the same. -/
theorem Differs.apply (h : Differs a q q') (call : Call) :
    (∃ expressions, call = .select expressions) ∧ call.apply q = (call.apply q').renamed a ∨
      (∀ expressions, call ≠ .select expressions) ∧ Differs a (call.apply q) (call.apply q') := by
  obtain ⟨rest, named, rfl⟩ := h
  cases call with
  | select expressions => exact .inl ⟨⟨expressions, rfl⟩, rfl⟩
  | addSelect expressions =>
    refine .inr ⟨nofun, rest ++ expressions, ?_, rfl⟩
    show q'.selected ++ expressions = _
    rw [named]
    rfl
  | joinSelecting kind table name condition =>
    refine .inr ⟨nofun, rest ++ [name ++ ".*"], ?_, rfl⟩
    show (if q'.selected.isEmpty then _ else q'.selected) ++ _ = _
    rw [named]
    rfl
  | filtered | groupBy | groupsFiltered | orderBy | limited | skipping | join =>
    exact .inr ⟨nofun, rest, named, rfl⟩

/-- A query whose table was renamed goes on like one whose table was not, unless a joined table is
selected while nothing is. -/
theorem renamed_apply (own : q.rename = none) (a : String) (call : Call) :
    (q.selected = [] ∧ ∃ kind table name condition, call = .joinSelecting kind table name condition) ∧
        Differs a (call.apply (q.renamed a)) (call.apply q) ∨
      ¬ (q.selected = [] ∧
        ∃ kind table name condition, call = .joinSelecting kind table name condition) ∧
        call.apply (q.renamed a) = (call.apply q).renamed a := by
  cases call with
  | joinSelecting kind table name condition =>
    cases empty : q.selected with
    | nil =>
      refine .inl ⟨⟨rfl, kind, table, name, condition, rfl⟩, [name ++ ".*"], ?_, ?_⟩
      · simp [Call.apply, joinSelecting, join, empty, root, own]
      · simp [Call.apply, joinSelecting, join, empty, root, renamed]
    | cons first rest =>
      refine .inr ⟨nofun, ?_⟩
      simp [Call.apply, joinSelecting, join, empty, renamed]
  | select | addSelect | filtered | groupBy | groupsFiltered | orderBy | limited | skipping | join =>
    exact .inr ⟨by rintro ⟨-, _, _, _, _, ⟨⟩⟩, rfl⟩

/-- The `calls` come between an early renaming and a late one: the queries differ afterwards exactly
if the table is named in the select list. -/
theorem renamed_made (own : q.rename = none) (a : String) (calls : List Call) :
    q.NamesRoot calls ∧ Differs a ((q.renamed a).made calls) (q.made calls) ∨
      ¬ q.NamesRoot calls ∧ (q.renamed a).made calls = (q.made calls).renamed a := by
  induction calls using List.reverseRecOn with
  | nil =>
    refine .inr ⟨?_, rfl⟩
    rintro ⟨before, _, _, _, _, after, split, -⟩
    cases before <;> cases split
  | append_singleton calls call ih =>
    rw [namesRoot_append_singleton, made_append_singleton, made_append_singleton]
    rcases ih with ⟨names, differ⟩ | ⟨unnamed, same⟩
    · -- the list is not empty any more, so that only its replacement matters
      have filled : (q.made calls).selected ≠ [] := by
        obtain ⟨rest, named, -⟩ := differ
        rw [named]
        nofun
      rcases differ.apply call with ⟨⟨expressions, rfl⟩, same⟩ | ⟨other, differ⟩
      · refine .inr ⟨?_, same⟩
        rintro (⟨-, other⟩ | ⟨empty, -⟩)
        · exact other expressions rfl
        · exact filled empty
      · exact .inl ⟨.inl ⟨names, other⟩, differ⟩
    · rw [same]
      rcases renamed_apply ((made_rename q calls).trans own) a call with ⟨joins, differ⟩ | ⟨other, same⟩
      · exact .inl ⟨.inr joins, differ⟩
      · refine .inr ⟨?_, same⟩
        rintro (⟨names, -⟩ | joins)
        · exact unnamed names
        · exact other joins

/-- The `calls` come after both renamings. -/
theorem Differs.made (h : Differs a q q') (used : q'.rename = some a) (calls : List Call) :
    (∀ expressions, .select expressions ∉ calls) ∧ Differs a (q.made calls) (q'.made calls) ∨
      ¬ (∀ expressions, .select expressions ∉ calls) ∧ q.made calls = q'.made calls := by
  induction calls generalizing q q' with
  | nil => exact .inl ⟨by simp, h⟩
  | cons call rest ih =>
    rcases h.apply call with ⟨⟨expressions, rfl⟩, same⟩ | ⟨other, differ⟩
    · refine .inr ⟨?_, ?_⟩
      · intro kept
        exact kept expressions List.mem_cons_self
      · have renamed : (Call.apply q' (.select expressions)).renamed a =
            Call.apply q' (.select expressions) := by
          show ({ q' with selected := expressions, rename := some a } : Query) = _
          rw [← used]
          rfl
        show (Call.apply q (.select expressions)).made rest = _
        rw [same, renamed]
        rfl
    · have used' : (call.apply q').rename = some a := by
        rw [← used]
        cases call <;> rfl
      rcases ih differ used' with ⟨kept, differ⟩ | ⟨replaced, same⟩
      · refine .inl ⟨?_, differ⟩
        intro expressions selects
        rcases List.mem_cons.1 selects with rfl | selects
        · exact other expressions rfl
        · exact kept expressions selects
      · refine .inr ⟨?_, same⟩
        intro kept
        exact replaced fun expressions selects => kept expressions (List.mem_cons_of_mem _ selects)

end Query

/-! ## Their statements -/

namespace Identifier

/-- The columns of a `table` are selected without a name of their own. -/
theorem selectName?_columns (table : String) : selectName? (table ++ ".*") = none := by
  rw [Option.eq_none_iff_forall_ne_some]
  intro name found
  obtain ⟨front, word, rest, h, trims, valid⟩ := selectName?_eq_some_iff.1 found
  have star : '*' ∈ rest := by
    have last : (front ++ (word ++ rest)).getLast? = some '*' := by
      rw [← h.split]
      simp
    rcases List.eq_nil_or_concat rest with rfl | ⟨others, final, rfl⟩
    · obtain ⟨a, -, s, -, rfl⟩ := h.introduces
      simp at last
    · rw [List.concat_eq_append, ← List.append_assoc, ← List.append_assoc,
        List.getLast?_concat] at last
      cases last
      simp
  refine ((isValid_iff name).1 valid).free ?_
  rw [← Text.trim_eq_iff.2 trims]
  exact Text.mem_trim (by decide) star

end Identifier

namespace Query

variable {q q' : Query} {a : String}

/-- The clauses of a query, after what it selects. -/
def clauses (q : Query) (d : Dialect) : Except Error Sql := do
  let joins ← q.joins.mapM Join.sql
  let rows ← q.whereClause d
  let groups ← q.groupClause
  let having ← q.filterClause d " HAVING " q.selectNames q.having
  let closing ← q.closing
  return joins.flatten ++ (rows ++ (groups ++ (having ++ closing)))

theorem selectStatement_eq_map (q : Query) (d : Dialect) :
    q.selectStatement d = (fun sql => Sql.statement d (.text q.head :: sql)) <$> q.clauses d := by
  rw [selectStatement_eq]
  simp only [opening, clauses, bind_assoc, pure_bind, map_bind, map_pure, List.cons_append]

/-- Of the select list only its names matter to the clauses. -/
theorem clauses_selecting (q : Query) {selected : List String}
    (names : selected.filterMap Identifier.selectName? = q.selectNames) (d : Dialect) :
    ({ q with selected := selected } : Query).clauses d = q.clauses d := by
  have same : ({ q with selected := selected } : Query).selectNames = q.selectNames := names
  unfold clauses groupClause closing orderClause
  rw [same]
  rfl

/-- The first expression comes into a statement at one place. -/
theorem head_selecting (q : Query) (rest : List String) :
    ∃ text, ∀ first, ({ q with selected := first :: rest } : Query).head =
      "SELECT " ++ first ++ text := by
  cases rest with
  | nil =>
    refine ⟨" FROM " ++ q.tableText, fun first => ?_⟩
    simp [head, String.append_assoc]
    rfl
  | cons next rest =>
    refine ⟨", " ++ ", ".intercalate (next :: rest) ++ " FROM " ++ q.tableText, fun first => ?_⟩
    simp [head, String.append_assoc]
    rfl

theorem Differs.selectStatement (h : Differs a q q') (used : q'.rename = some a) (d : Dialect) :
    (∃ e, q.selectStatement d = .error e ∧ q'.selectStatement d = .error e) ∨
      ∃ text params, q.selectStatement d = .ok ⟨"SELECT " ++ a ++ ".*" ++ text, params⟩ ∧
        q'.selectStatement d = .ok ⟨"SELECT " ++ q'.table.name ++ ".*" ++ text, params⟩ := by
  obtain ⟨rest, named, rfl⟩ := h
  have renamed : q'.renamed a = q' := by
    rw [Query.renamed, ← used]
  have names : ((a ++ ".*") :: rest).filterMap Identifier.selectName? = q'.selectNames := by
    rw [selectNames, named, List.filterMap_cons, List.filterMap_cons,
      Identifier.selectName?_columns, Identifier.selectName?_columns]
  obtain ⟨text, heads⟩ := q'.head_selecting rest
  have head : q'.head = "SELECT " ++ (q'.table.name ++ ".*") ++ text := by
    rw [← heads, ← named]
  rw [renamed, selectStatement_eq_map, selectStatement_eq_map, clauses_selecting q' names, heads, head]
  cases q'.clauses d with
  | error e => exact .inl ⟨e, rfl, rfl⟩
  | ok sql =>
    refine .inr ⟨text ++ Sql.textFrom d 1 sql, sql.params, ?_, ?_⟩
    · simp [Sql.statement, Sql.textFrom, String.append_assoc]
    · simp [Sql.statement, Sql.textFrom, String.append_assoc]

/-- The query that calls make of `t`, which is renamed between those `before` and those `after`. -/
def renamedAfter (t : Table) (a : String) (before after : List Call) : Query :=
  ((({ table := t } : Query).made before).renamed a).made after

/-- Renaming a table earlier or later does not change the errors and the parameters of a statement.
It changes its text exactly if calls in `between` name the table in the select list, calls `after`
both leave the list as it is, and `a` is really another name. -/
theorem renaming_moves_iff (t : Table) (d : Dialect) (a : String)
    (before between after : List Call) :
    ((renamedAfter t a before (between ++ after)).selectStatement d).map Statement.params =
        ((renamedAfter t a (before ++ between) after).selectStatement d).map Statement.params ∧
      ((renamedAfter t a before (between ++ after)).selectStatement d =
          (renamedAfter t a (before ++ between) after).selectStatement d ↔
        (∃ e, (renamedAfter t a (before ++ between) after).selectStatement d = .error e) ∨ a = t.name ∨
          ¬ ((({ table := t } : Query).made before).NamesRoot between ∧
            ∀ expressions, .select expressions ∉ after)) := by
  have own : (({ table := t } : Query).made before).rename = none := made_rename _ _
  have early : renamedAfter t a before (between ++ after) =
      (((({ table := t } : Query).made before).renamed a).made between).made after := by
    simp [renamedAfter, made]
  have late : renamedAfter t a (before ++ between) after =
      (((({ table := t } : Query).made before).made between).renamed a).made after := by
    simp [renamedAfter, made]
  rcases renamed_made own a between with ⟨names, differ⟩ | ⟨unnamed, same⟩
  · rcases differ.renamed.made rfl after with ⟨kept, differ⟩ | ⟨replaced, same⟩
    · rw [← early, ← late] at differ
      have used : (renamedAfter t a (before ++ between) after).rename = some a := by
        rw [late, made_rename]
        rfl
      have table : (renamedAfter t a (before ++ between) after).table = t := by
        rw [late, made_table]
        simp [renamed]
      rcases differ.selectStatement used d with ⟨e, first, second⟩ | ⟨text, params, first, second⟩
      · rw [first, second]
        exact ⟨rfl, iff_of_true rfl (.inl ⟨e, rfl⟩)⟩
      · rw [first, second, table]
        refine ⟨rfl, ?_⟩
        constructor
        · intro equal
          have texts := congrArg Statement.sql (Except.ok.inj equal)
          have chars : a.toList = t.name.toList := by
            simpa [← String.toList_inj] using texts
          exact .inr (.inl (String.toList_inj.1 chars))
        · rintro (⟨e, ⟨⟩⟩ | rfl | unnamed)
          · rfl
          · exact absurd ⟨names, kept⟩ unnamed
    · have equal := same
      rw [← early, ← late] at equal
      rw [equal]
      exact ⟨rfl, iff_of_true rfl (.inr (.inr fun named => replaced named.2))⟩
  · have equal : renamedAfter t a before (between ++ after) = renamedAfter t a (before ++ between) after := by
      rw [early, late, same]
    rw [equal]
    exact ⟨rfl, iff_of_true rfl (.inr (.inr fun named => unnamed named.1))⟩

end Query

namespace Forum

def users : Table where
  name := "users"
  columns := [.primaryGenerated "id" .increment, { name := "name", type := .text }]

/-- The posts of a user, selected beside the user. -/
def withPosts : Query.Call := .joinSelecting .left "posts" "p" "p.author_id = u.id"

/-- The users of a name come in the same statement, whether the table is renamed first or last: what
is selected for the joined posts is replaced afterwards. -/
theorem users_renaming_moves :
    (Query.renamedAfter users "u" [] [withPosts, .filtered (.condition (.equal "name" (.text "Ann"))),
        .select ["p.title"]]).selectStatement .sqlite =
      (Query.renamedAfter users "u" [withPosts, .filtered (.condition (.equal "name" (.text "Ann"))),
        .select ["p.title"]] []).selectStatement .sqlite ∧
    (Query.renamedAfter users "u" [withPosts, .filtered (.condition (.equal "name" (.text "Ann"))),
        .select ["p.title"]] []).selectStatement .sqlite =
      .ok ⟨"SELECT p.title FROM users u LEFT JOIN posts p ON p.author_id = u.id WHERE u.name = ?",
        [.text "Ann"]⟩ := by
  refine ⟨?_, rfl⟩
  refine (Query.renaming_moves_iff users .sqlite "u" []
    [withPosts, .filtered (.condition (.equal "name" (.text "Ann"))), .select ["p.title"]] []).2.2
    (.inr (.inr ?_))
  rintro ⟨named, -⟩
  rcases (Query.namesRoot_append_singleton _ [withPosts, _] _).1 named with ⟨-, other⟩ | ⟨-, joins⟩
  · exact other _ rfl
  · obtain ⟨_, _, _, _, ⟨⟩⟩ := joins

/-- Users and their posts are selected, and then the table is renamed: the statement still asks for
the columns of `users`, a name that it does not use any more. -/
theorem users_named_too_early :
    (Query.renamedAfter users "u" [] [withPosts]).selectStatement .sqlite =
      .ok ⟨"SELECT u.*, p.* FROM users u LEFT JOIN posts p ON p.author_id = u.id", []⟩ ∧
    (Query.renamedAfter users "u" [withPosts] []).selectStatement .sqlite =
      .ok ⟨"SELECT users.*, p.* FROM users u LEFT JOIN posts p ON p.author_id = u.id", []⟩ ∧
    (Query.renamedAfter users "u" [] [withPosts]).selectStatement .sqlite ≠
      (Query.renamedAfter users "u" [withPosts] []).selectStatement .sqlite := by
  refine ⟨rfl, rfl, ?_⟩
  intro same
  have texts : "SELECT u.*, p.* FROM users u LEFT JOIN posts p ON p.author_id = u.id" =
      "SELECT users.*, p.* FROM users u LEFT JOIN posts p ON p.author_id = u.id" :=
    congrArg Statement.sql (Except.ok.inj same)
  revert texts
  decide

end Forum

end EntityStore
