import EntityStore.Proofs.Statement.Clauses
import Mathlib.Data.List.TakeWhile

/-!
# Which queries are accepted

A query names joined tables and columns, clause by clause. It has a statement exactly when every name
is declared where it stands, and otherwise the complaint is about the first one that is not. Every
step of the compilation checks a list of names in this sense, and steps are put together as the lists
are.
-/

namespace EntityStore

/-! ## Names with a qualifier -/

/-- The first point of `name` stands between `qualifier` and `rest`. -/
def Identifier.Cut (name qualifier rest : String) : Prop :=
  name = qualifier ++ "." ++ rest ∧ '.' ∉ qualifier.toList

theorem Identifier.qualifier?_eq_none {name : String} (h : Identifier.qualifier? name = none) :
    '.' ∉ name.toList := by
  unfold qualifier? at h
  split at h
  · cases h
  · rename_i hnil
    intro hmem
    have hpoint := List.dropWhile_eq_nil_iff.1 hnil '.' hmem
    simp at hpoint

theorem Identifier.qualifier?_eq_some {name qualifier rest : String}
    (h : Identifier.qualifier? name = some (qualifier, rest)) : Cut name qualifier rest := by
  unfold qualifier? at h
  split at h
  · rename_i c others hcons
    obtain ⟨rfl, rfl⟩ := Prod.mk.inj (Option.some.inj h)
    have hpoint : c = '.' := by
      have hhead := List.head?_dropWhile_not (· != '.') name.toList
      rw [hcons] at hhead
      simpa using hhead
    have hwhole := List.takeWhile_append_dropWhile (p := (· != '.')) (l := name.toList)
    rw [hcons, hpoint] at hwhole
    refine ⟨?_, ?_⟩
    · rw [← String.toList_inj]
      simp [hwhole]
    · intro hmem
      rw [String.toList_ofList] at hmem
      have hother := List.mem_takeWhile_imp hmem
      simp at hother
  · cases h

/-- There is only one way to cut a name at its first point. -/
theorem Identifier.Cut.unique {name qualifier rest qualifier' rest' : String}
    (h : Cut name qualifier rest) (h' : Cut name qualifier' rest') :
    qualifier = qualifier' ∧ rest = rest' := by
  obtain ⟨rfl, hplain⟩ := h
  obtain ⟨hname, hplain'⟩ := h'
  have hchars : qualifier.toList ++ '.' :: rest.toList = qualifier'.toList ++ '.' :: rest'.toList := by
    rw [← String.toList_inj] at hname
    simpa using hname
  have htake : qualifier.toList = qualifier'.toList := by
    have hfirst := congrArg (List.takeWhile (· != '.')) hchars
    have hall : ∀ cs : List Char, '.' ∉ cs → ∀ c ∈ cs, (c != '.') = true := by
      intro cs hcs c hc
      rw [bne_iff_ne]
      rintro rfl
      exact hcs hc
    rw [List.takeWhile_append_of_pos (hall _ hplain),
      List.takeWhile_append_of_pos (hall _ hplain')] at hfirst
    simpa using hfirst
  rw [htake, List.append_cancel_left_eq] at hchars
  exact ⟨String.toList_inj.1 htake, String.toList_inj.1 (List.cons.inj hchars).2⟩

theorem Identifier.Cut.notPlain {name qualifier rest : String} (h : Cut name qualifier rest) :
    '.' ∈ name.toList := by
  rw [h.1]
  simp

/-! ## What a query names -/

/-- A name in a query. -/
inductive Mention where
  /-- A joined table, or the name given to it. -/
  | join (role : IdentifierRole) (text : String)
  /-- A column; whether names of the select list may stand for one depends on the clause. -/
  | column (selected : Bool) (name : String)

def Table.Declares (t : Table) (name : String) : Prop := ∃ c ∈ t.columns, c.name = name

theorem Table.declares_iff (t : Table) (name : String) :
    t.Declares name ↔ ∃ c, t.column? name = some c := by
  unfold Declares column?
  constructor
  · rintro ⟨c, hc, hname⟩
    rw [← Option.isSome_iff_exists, List.find?_isSome]
    exact ⟨c, hc, by simpa using hname⟩
  · rintro ⟨c, hc⟩
    exact ⟨c, List.mem_of_find?_eq_some hc, by simpa using List.find?_some hc⟩

namespace Query

variable (q : Query)

/-- The names of a query in the order of its clauses: the joins, the wanted rows, the groups, the
wanted groups and the order. All leaves of a filter count, those with an empty list of operands,
too. -/
def mentions : List Mention :=
  q.joins.flatMap (fun j => [.join .table j.table, .join .tableAlias j.name]) ++
    ((q.filter.elim [] Filter.columns).map (.column false) ++
      (q.groups.map (.column true) ++
        ((q.having.elim [] Filter.columns).map (.column true) ++
          q.order.map fun column => .column true column.1)))

/-- What `name` has to be so that it can stand for a column. -/
inductive Refers (selected : Bool) (name : String) : Prop where
  | plain (plain : '.' ∉ name.toList) (declared : q.table.Declares name)
  /-- Of a joined table nothing is known. -/
  | joined {qualifier rest : String} (cut : Identifier.Cut name qualifier rest)
    (foreign : qualifier ≠ q.root ∧ qualifier ≠ q.table.name)
  | qualified {qualifier rest : String} (cut : Identifier.Cut name qualifier rest)
    (own : qualifier = q.root ∨ qualifier = q.table.name) (declared : q.table.Declares rest)
  | selected (allowed : selected = true) (plain : '.' ∉ name.toList)
    (named : ∃ expression ∈ q.selected, Identifier.selectName? expression = some name)

/-- What is allowed where it stands. -/
def Allows : Mention → Prop
  | .join _ text => Identifier.isValid text false = true
  | .column selected name => Identifier.isValid name false = true ∧ q.Refers selected name

/-- The complaint about a name that is not allowed. A name that is an identifier is reported without
the qualifier that refers to the table. -/
def complaint : Mention → Error
  | .join role text => .invalidIdentifier role text
  | .column _ name =>
    if Identifier.isValid name false then
      .unknownColumn q.table.name (((Identifier.qualifier? name).map Prod.snd).getD name)
    else .invalidIdentifier .column name

variable {q} {α β : Type}

/-- A step that checks names, one after another. -/
inductive Checks (q : Query) : List Mention → Except Error α → Prop where
  | passed {ms : List Mention} (a : α) (allowed : ∀ m ∈ ms, q.Allows m) : Checks q ms (.ok a)
  | stopped {before after : List Mention} {m : Mention} (earlier : ∀ b ∈ before, q.Allows b)
    (refused : ¬ q.Allows m) : Checks q (before ++ m :: after) (.error (q.complaint m))

namespace Checks

theorem nothing (a : α) : q.Checks [] (.ok a) := .passed a (by simp)

theorem allowed {m : Mention} (a : α) (h : q.Allows m) : q.Checks [m] (.ok a) :=
  .passed a (by simpa using h)

theorem refused {m : Mention} {e : Error} (h : ¬ q.Allows m) (complaint : q.complaint m = e) :
    q.Checks [m] (.error e : Except Error α) := by
  rw [← complaint]
  have earlier : ∀ b ∈ ([] : List Mention), q.Allows b := nofun
  exact .stopped earlier h

theorem after {first second : List Mention} {x : Except Error α}
    (allowed : ∀ m ∈ first, q.Allows m) (h : q.Checks second x) : q.Checks (first ++ second) x := by
  cases h with
  | passed a others =>
    refine .passed a ?_
    intro m hm
    exact (List.mem_append.1 hm).elim (allowed m) (others m)
  | stopped earlier refused =>
    rw [← List.append_assoc]
    refine .stopped ?_ refused
    intro m hm
    exact (List.mem_append.1 hm).elim (allowed m) (earlier m)

theorem bind {first second : List Mention} {x : Except Error α} {f : α → Except Error β}
    (hx : q.Checks first x) (hf : ∀ a, q.Checks second (f a)) :
    q.Checks (first ++ second) (x >>= f) := by
  cases hx with
  | passed a allowed => exact (hf a).after allowed
  | stopped earlier refused =>
    rw [List.append_assoc, List.cons_append]
    exact .stopped earlier refused

/-- What `f` makes of the result is not checked any more. -/
theorem returning {ms : List Mention} {x : Except Error α} (h : q.Checks ms x) (f : α → β) :
    q.Checks ms (x >>= fun a => pure (f a)) := by
  rw [← List.append_nil ms]
  exact h.bind fun a => nothing (f a)

/-- A step has a result exactly if all the names that it checks are allowed. -/
theorem exists_ok_iff {ms : List Mention} {x : Except Error α} (h : q.Checks ms x) :
    (∃ a, x = .ok a) ↔ ∀ m ∈ ms, q.Allows m := by
  cases h with
  | passed a allowed => exact ⟨fun _ => allowed, fun _ => ⟨a, rfl⟩⟩
  | stopped earlier refused =>
    refine ⟨?_, fun allowed => absurd (allowed _ (by simp)) refused⟩
    rintro ⟨a, ⟨⟩⟩

theorem mapM {ms : α → List Mention} {f : α → Except Error β} (each : ∀ a, q.Checks (ms a) (f a))
    (as : List α) : q.Checks (as.flatMap ms) (as.mapM f) := by
  induction as with
  | nil => exact nothing []
  | cons a as ih =>
    rw [List.mapM_cons, List.flatMap_cons]
    exact (each a).bind fun b => ih.returning (b :: ·)

end Checks

/-! ## One name -/

/-- The names of the select list that may stand for a column. -/
def namesFor (q : Query) (selected : Bool) : List String := if selected then q.selectNames else []

theorem mem_namesFor {selected : Bool} {name : String} : name ∈ q.namesFor selected ↔
    selected = true ∧ ∃ expression ∈ q.selected, Identifier.selectName? expression = some name := by
  cases selected with
  | true => simp [namesFor, selectNames]
  | false => simp [namesFor]

theorem checks_identifier (role : IdentifierRole) (text : String) :
    q.Checks [.join role text] (checkIdentifier role text) := by
  unfold checkIdentifier
  by_cases hvalid : Identifier.isValid text false = true
  · rw [if_pos hvalid]
    exact .allowed () hvalid
  · rw [if_neg hvalid]
    exact .refused hvalid rfl

/-- A name with a qualifier has only the two ways to stand for a column that begin with one. -/
theorem refers_cut {selected : Bool} {name qualifier rest : String}
    (cut : Identifier.Cut name qualifier rest) : q.Refers selected name ↔
      (qualifier ≠ q.root ∧ qualifier ≠ q.table.name) ∨ q.table.Declares rest := by
  constructor
  · intro h
    cases h with
    | plain plain _ => exact absurd cut.notPlain plain
    | selected _ plain _ => exact absurd cut.notPlain plain
    | joined cut' foreign =>
      obtain ⟨rfl, -⟩ := cut.unique cut'
      exact .inl foreign
    | qualified cut' _ declared =>
      obtain ⟨-, rfl⟩ := cut.unique cut'
      exact .inr declared
  · intro h
    by_cases foreign : qualifier ≠ q.root ∧ qualifier ≠ q.table.name
    · exact .joined cut foreign
    · exact .qualified cut (by tauto) (h.resolve_left foreign)

theorem refers_plain {selected : Bool} {name : String} (plain : '.' ∉ name.toList) :
    q.Refers selected name ↔ q.table.Declares name ∨ name ∈ q.namesFor selected := by
  rw [mem_namesFor]
  constructor
  · intro h
    cases h with
    | plain _ declared => exact .inl declared
    | selected allowed _ named => exact .inr ⟨allowed, named⟩
    | joined cut _ => exact absurd cut.notPlain plain
    | qualified cut _ _ => exact absurd cut.notPlain plain
  · rintro (declared | ⟨allowed, named⟩)
    · exact .plain plain declared
    · exact .selected allowed plain named

theorem resolve_invalid {names : List String} {name : String}
    (invalid : ¬ Identifier.isValid name false = true) :
    q.resolve names name = .error (.invalidIdentifier .column name) := by
  simp [resolve, invalid]

theorem resolve_cut {names : List String} {name qualifier rest : String}
    (valid : Identifier.isValid name false = true)
    (cut : Identifier.qualifier? name = some (qualifier, rest)) : q.resolve names name =
      if qualifier ≠ q.root ∧ qualifier ≠ q.table.name then .ok ⟨name, none⟩
      else (q.table.column rest).map fun column => ⟨name, some column⟩ := by
  simp only [resolve, valid, cut, Bool.not_true, Bool.false_eq_true, if_false]

theorem resolve_plain {names : List String} {name : String}
    (valid : Identifier.isValid name false = true) (plain : Identifier.qualifier? name = none) :
    (∃ c r, q.table.column? name = some c ∧ q.resolve names name = .ok r) ∨
    q.table.column? name = none ∧ q.resolve names name =
      if name ∈ names then .ok ⟨name, none⟩ else .error (.unknownColumn q.table.name name) := by
  simp only [resolve, valid, plain, Bool.not_true, Bool.false_eq_true, if_false]
  cases hcolumn : q.table.column? name with
  | some c => exact .inl ⟨c, _, rfl, rfl⟩
  | none => exact .inr ⟨rfl, by simp⟩

theorem checks_column (q : Query) (selected : Bool) (name : String) :
    q.Checks [.column selected name] (q.resolve (q.namesFor selected) name) := by
  by_cases hvalid : Identifier.isValid name false = true
  · cases hcut : Identifier.qualifier? name with
    | some parts =>
      obtain ⟨qualifier, rest⟩ := parts
      have hrefers : q.Refers selected name ↔ _ := refers_cut (Identifier.qualifier?_eq_some hcut)
      rw [resolve_cut hvalid hcut]
      by_cases foreign : qualifier ≠ q.root ∧ qualifier ≠ q.table.name
      · rw [if_pos foreign]
        exact .allowed _ ⟨hvalid, hrefers.2 (.inl foreign)⟩
      · rw [if_neg foreign, Table.column]
        have hdeclares := q.table.declares_iff rest
        cases hcolumn : q.table.column? rest with
        | some c => exact .allowed _ ⟨hvalid, hrefers.2 (.inr (hdeclares.2 ⟨c, hcolumn⟩))⟩
        | none =>
          refine .refused ?_ (by simp [complaint, hvalid, hcut])
          rintro ⟨-, h⟩
          obtain ⟨c, hfound⟩ := hdeclares.1 ((hrefers.1 h).resolve_left foreign)
          simp [hcolumn] at hfound
    | none =>
      have hrefers : q.Refers selected name ↔ _ := refers_plain (Identifier.qualifier?_eq_none hcut)
      have hdeclares := q.table.declares_iff name
      rcases resolve_plain (q := q) hvalid hcut with ⟨c, r, hcolumn, hresolve⟩ | ⟨hcolumn, hresolve⟩
      · rw [hresolve]
        exact .allowed r ⟨hvalid, hrefers.2 (.inl (hdeclares.2 ⟨c, hcolumn⟩))⟩
      · rw [hresolve]
        by_cases hgiven : name ∈ q.namesFor selected
        · rw [if_pos hgiven]
          exact .allowed _ ⟨hvalid, hrefers.2 (.inr hgiven)⟩
        · rw [if_neg hgiven]
          refine .refused ?_ (by simp [complaint, hvalid, hcut])
          rintro ⟨-, h⟩
          obtain ⟨c, hfound⟩ := hdeclares.1 ((hrefers.1 h).resolve_right hgiven)
          simp [hcolumn] at hfound
  · rw [resolve_invalid hvalid]
    exact .refused (fun h => hvalid h.1) (by simp [complaint, hvalid])

/-! ## Conditions and clauses -/

theorem checks_conditions {selected : Bool} {conditions : List Condition}
    (each : ∀ c ∈ conditions,
      q.Checks (c.columns.map (.column selected)) (c.inStorage (q.resolve (q.namesFor selected)))) :
    q.Checks ((conditions.flatMap Condition.columns).map (.column selected))
      (Condition.allInStorage (q.resolve (q.namesFor selected)) conditions) := by
  induction conditions with
  | nil => exact .nothing []
  | cons c rest ih =>
    rw [List.flatMap_cons, List.map_append]
    refine (each c List.mem_cons_self).bind fun first => ?_
    refine Checks.returning (ih ?_) (first :: ·)
    intro c' hc'
    exact each c' (List.mem_cons_of_mem c hc')

/-- Every leaf of `c` is checked, however deep it stands. -/
theorem checks_condition (q : Query) (selected : Bool) (c : Condition) :
    q.Checks (c.columns.map (.column selected))
      (c.inStorage (q.resolve (q.namesFor selected))) := by
  induction c with
  | compare comparison column operand => exact (q.checks_column selected column).returning _
  | oneOf column operands => exact (q.checks_column selected column).returning _
  | between column least greatest => exact (q.checks_column selected column).returning _
  | isNull column => exact (q.checks_column selected column).returning _
  | isNotNull column => exact (q.checks_column selected column).returning _
  | all conditions ih =>
    rw [Condition.columns_all]
    exact (checks_conditions ih).returning _
  | any conditions ih =>
    rw [Condition.columns_any]
    exact (checks_conditions ih).returning _
  | not c ih =>
    rw [Condition.columns_not]
    exact ih.returning _

theorem checks_filter (q : Query) (d : Dialect) (selected : Bool) (f : Filter) :
    q.Checks (f.columns.map (.column selected)) (f.sql d (q.resolve (q.namesFor selected))) := by
  cases f with
  | condition c => exact (q.checks_condition selected c).returning _
  | matching r =>
    have each : ∀ c ∈ r.equations, q.Checks (c.columns.map (.column selected))
        (c.inStorage (q.resolve (q.namesFor selected))) :=
      fun c _ => q.checks_condition selected c
    rw [Filter.sql_matching]
    exact (checks_conditions each).returning _

theorem checks_filterClause (q : Query) (d : Dialect) (word : String) (selected : Bool)
    (filter : Option Filter) :
    q.Checks ((filter.elim [] Filter.columns).map (.column selected))
      (q.filterClause d word (q.namesFor selected) filter) := by
  cases filter with
  | none => exact .nothing []
  | some f => exact (q.checks_filter d selected f).returning _

theorem checks_joins (q : Query) :
    q.Checks (q.joins.flatMap fun j => [.join .table j.table, .join .tableAlias j.name])
      (q.joins.mapM Join.sql) := by
  refine Checks.mapM (fun j => ?_) q.joins
  refine (checks_identifier .table j.table).bind fun _ => ?_
  exact (checks_identifier .tableAlias j.name).returning _

/-- A list of columns, each of which is written with something after it. -/
theorem checks_columns (q : Query) (name : β → String) (text : β → Reference → String)
    (items : List β) :
    q.Checks (items.map fun item => .column true (name item))
      (items.mapM fun item => do return text item (← q.resolve q.selectNames (name item))) := by
  rw [List.map_eq_flatMap]
  exact Checks.mapM (fun item => (q.checks_column true (name item)).returning _) items

theorem checks_groupClause (q : Query) :
    q.Checks (q.groups.map (.column true)) q.groupClause :=
  (q.checks_columns id (fun _ r => r.text) q.groups).returning _

theorem checks_orderClause (q : Query) :
    q.Checks (q.order.map fun column => .column true column.1) q.orderClause := by
  have written := q.checks_columns Prod.fst
    (fun (column : String × Direction) r => r.text ++ " " ++ column.2.word) q.order
  exact written.returning _

/-! ## Statements -/

theorem checks_selectSql (q : Query) (d : Dialect) : q.Checks q.mentions (q.selectSql d) := by
  refine q.checks_joins.bind fun joins => ?_
  refine (q.checks_filterClause d " WHERE " false q.filter).bind fun rows => ?_
  refine q.checks_groupClause.bind fun groups => ?_
  refine (q.checks_filterClause d " HAVING " true q.having).bind fun having => ?_
  exact q.checks_orderClause.returning _

/-- A query has a statement if and only if every name in it is allowed where it stands. If it has
none, the error is the complaint about the first name that is not allowed, in the order of the
clauses and from left to right within each of them. -/
theorem selectStatement_accepts (q : Query) (d : Dialect) :
    ((∃ s, q.selectStatement d = .ok s) ↔ ∀ m ∈ q.mentions, q.Allows m) ∧
    ∀ e, q.selectStatement d = .error e → ∃ before m after, q.mentions = before ++ m :: after ∧
      (∀ b ∈ before, q.Allows b) ∧ ¬ q.Allows m ∧ e = q.complaint m := by
  have checks : q.Checks q.mentions (q.selectStatement d) := (q.checks_selectSql d).returning _
  generalize q.selectStatement d = x at checks
  generalize q.mentions = ms at checks
  cases checks with
  | passed s allowed =>
    refine ⟨⟨fun _ => allowed, fun _ => ⟨s, rfl⟩⟩, ?_⟩
    rintro e ⟨⟩
  | @stopped before after m earlier refused =>
    refine ⟨⟨?_, ?_⟩, ?_⟩
    · rintro ⟨s, ⟨⟩⟩
    · intro allowed
      exact absurd (allowed m (by simp)) refused
    · intro e he
      exact ⟨before, m, after, rfl, earlier, refused, (Except.error.inj he).symm⟩

/-- A name of the select list stands for a column in `HAVING` and not in `WHERE`, where it is found
even beside an empty list of operands. -/
example (d : Dialect) :
    let people : Table := { name := "people", columns := [{ name := "age", type := .integer }] }
    let misplaced : Condition := .not (.any [.oneOf "youngest" []])
    let listed : Query := { table := people, selected := ["MIN(age) AS youngest"] }
    (∃ s, { listed with having := some (.condition misplaced) }.selectStatement d = .ok s) ∧
      { listed with filter := some (.condition misplaced) }.selectStatement d =
        .error (.unknownColumn "people" "youngest") :=
  ⟨⟨_, rfl⟩, rfl⟩

end Query

end EntityStore
