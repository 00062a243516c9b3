import EntityStore.Proofs.Query.Answer
import EntityStore.Proofs.Statement.Conditions
import EntityStore.Proofs.Statement.Row

/-!
# What the text of a query asks for

A statement that reads the rows of one table is read back from its text and its parameters alone:
which rows it wants, in which order, and which window of them. The rows that answer what was read
are those that answer the query.
-/

namespace EntityStore

open Sql

/-- The direction for which `word` stands. -/
def Direction.ofWord? (word : String) : Option Direction := [asc, desc].find? (·.word == word)

/-- What a statement asks of the rows of one table. -/
structure Selection where
  wanted : Option Predicate := none
  order : List (String × Direction) := []
  limit : Option Nat := none
  offset : Option Nat := none

namespace Selection

variable (s : Selection) (m : Reading)

/-- A row is wanted if the predicate is true of it. -/
def wants (row : Record) : Bool :=
  match s.wanted with
  | some p => decide (p.truth m.compares (m.cell row) = .yes)
  | none => true

/-- The part of `rows`, which are in order, that is asked for. -/
def window (rows : List Record) : List Record :=
  match s.limit with
  | some n => (rows.drop (s.offset.getD 0)).take n
  | none => rows.drop (s.offset.getD 0)

/-- The `rows` are what is asked of a table with the given `contents`. -/
def Answers (contents rows : List Record) : Prop :=
  ∃ arranged : List Record, arranged.Perm (contents.filter (s.wants m)) ∧
    arranged.Pairwise (m.InOrder id s.order) ∧ rows = s.window arranged

end Selection

/-! ## Reading -/

namespace Sql

/-- A clause that begins with a `word`, and may be left out. -/
def clause? {α : Type} (word : String) (parser : Parser α) : Parser (Option α)
  | .name text :: rest =>
    if text = word then (parser rest).map fun r => (some r.1, r.2)
    else some (none, .name text :: rest)
  | ts => some (none, ts)

/-- Predicates as far as they go. -/
def condition? : Parser Predicate := fun ts => disjunction (operand ts.length) ts.length ts

/-- At least one column, each with its direction and with commas between them. -/
def columns? : Parser (List (String × Direction))
  | .name column :: .name word :: .comma :: rest => do
    let direction ← Direction.ofWord? word
    let (others, rest) ← columns? rest
    return ((column, direction) :: others, rest)
  | .name column :: .name word :: rest => do
    return ([(column, ← Direction.ofWord? word)], rest)
  | _ => none

/-- What stands behind `ORDER`. -/
def order? : Parser (List (String × Direction))
  | .name word :: rest => if word = "BY" then columns? rest else none
  | _ => none

/-- A number of rows. -/
def count? : Parser Nat
  | .number n :: rest => some (n, rest)
  | _ => none

/-- What the tokens `ts` ask for, as a whole. -/
def selection? (ts : List Token) : Option Selection := do
  let (wanted, ts) ← clause? "WHERE" condition? ts
  let (order, ts) ← clause? "ORDER" order? ts
  let (limit, ts) ← clause? "LIMIT" count? ts
  let (offset, ts) ← clause? "OFFSET" count? ts
  if ts.isEmpty then some ⟨wanted, order.getD [], limit, offset⟩ else none

end Sql

/-- What a statement asks for that begins with `head`. -/
def Statement.selection? (st : Statement) (head : String) : Option Selection := do
  let rest ← st.sql.toList.dropPrefix? head.toList
  Sql.selection? (← fill? st.params 0 (← tokens? rest))

namespace Sql

/-- Nothing comes next, or one of the `words`. -/
def Follow (words : List String) (ts : List Token) : Prop :=
  ∀ t ∈ ts.head?, ∃ word ∈ words, t = .name word

/-- The tokens of a clause that may be left out, behind its `word`. -/
def clauseTokens (word : String) : Option (List Token) → List Token
  | none => []
  | some ts => .name word :: ts

theorem Follow.nil (words : List String) : Follow words [] := by simp [Follow]

theorem Follow.clauseTokens {words : List String} {rest : List Token} (h : Follow words rest)
    (word : String) (inner : Option (List Token)) :
    Follow (word :: words) (clauseTokens word inner ++ rest) := by
  cases inner with
  | none =>
    intro t ht
    obtain ⟨other, member, same⟩ := h t ht
    exact ⟨other, List.mem_cons_of_mem word member, same⟩
  | some ts =>
    intro t ht
    obtain rfl := Option.some.inj ht
    exact ⟨word, List.mem_cons_self, rfl⟩

/-- A clause is read, and where it is left out nothing is. -/
theorem clause?_eq {α : Type} {parser : Parser α} {word : String} {words : List String}
    {rest : List Token} (others : word ∉ words) (follow : Follow words rest)
    {inner : Option (List Token)} {x : Option α}
    (read : Option.Rel (fun ts a => parser (ts ++ rest) = some (a, rest)) inner x) :
    clause? word parser (clauseTokens word inner ++ rest) = some (x, rest) := by
  cases read with
  | some read => simp [clauseTokens, clause?, read]
  | none =>
    cases rest with
    | nil => rfl
    | cons t rest =>
      obtain ⟨other, member, rfl⟩ := follow t rfl
      have differ : other ≠ word := fun same => others (same ▸ member)
      simp [clauseTokens, clause?, differ]

theorem ofWord?_word (direction : Direction) : Direction.ofWord? direction.word = some direction := by
  cases direction <;> decide

def columnTokens (column : String × Direction) : List Token := [.name column.1, .name column.2.word]

theorem columns?_eq (column : String × Direction) (columns : List (String × Direction))
    {rest : List Token} (ends : Follow ["LIMIT", "OFFSET"] rest) :
    columns? ([Token.comma].intercalate ((column :: columns).map columnTokens) ++ rest) =
      some (column :: columns, rest) := by
  induction columns generalizing column with
  | nil =>
    have single : columns? (.name column.1 :: .name column.2.word :: rest) =
        some ([(column.1, column.2)], rest) := by
      cases rest with
      | nil => simp [columns?, ofWord?_word]
      | cons t rest =>
        obtain ⟨word, -, rfl⟩ := ends t rfl
        simp [columns?, ofWord?_word]
    simpa [columnTokens] using single
  | cons next columns ih =>
    have tokens : [Token.comma].intercalate ((column :: next :: columns).map columnTokens) =
        .name column.1 :: .name column.2.word :: .comma ::
          [Token.comma].intercalate ((next :: columns).map columnTokens) := by
      simp [columnTokens, List.intercalate_cons_cons]
    rw [tokens, List.cons_append, List.cons_append, List.cons_append, columns?, ih next]
    simp [ofWord?_word]

/-! ## The texts of the clauses -/

variable {d : Dialect}

theorem Reads.nil : Reads d [] [] := fun before after => ⟨[], rfl, fun more => by simp⟩

/-- Nothing joins with the beginning of the text of `sql`. -/
def StandsApart (d : Dialect) (sql : Sql) : Prop :=
  ∀ n, isApartAtStart (textFrom d n sql).toList = true

theorem standsApart_nil : StandsApart d [] := fun _ => rfl

theorem standsApart_text {s : String} (rest : Sql) (nonempty : s.toList ≠ [])
    (starts : isApartAtStart s.toList = true) : StandsApart d (.text s :: rest) :=
  fun _ => startsApart_append _ nonempty starts

theorem StandsApart.append {a b : Sql} (ha : StandsApart d a) (hb : StandsApart d b) :
    StandsApart d (a ++ b) := by
  intro n
  rw [textFrom_append, String.toList_append]
  cases first : (textFrom d n a).toList with
  | nil => exact hb _
  | cons c rest =>
    have apart := ha n
    rw [first] at apart
    exact apart

/-- A part that stands apart is read after another one. -/
theorem Reads.append_apart {a b : Sql} {ta tb : List Token} (ha : Reads d a ta) (hb : Reads d b tb)
    (apart : StandsApart d b) : Reads d (a ++ b) (ta ++ tb) :=
  ha.append hb fun _ n => .inr (apart n)

def columnClause (column : String × Direction) : String := column.1 ++ " " ++ column.2.word

theorem tokens?_columnClause {column : String × Direction} (name : isName column.1.toList = true) :
    tokens? (columnClause column).toList = some (columnTokens column) := by
  have word : tokens? (" " ++ column.2.word).toList = some [.name column.2.word] := by
    cases column.2 <;> rfl
  have starts : isApartAtStart (" " ++ column.2.word).toList = true :=
    startsApart_append _ (by decide) (by decide)
  unfold columnClause
  rw [String.append_assoc]
  exact Condition.tokens?_column name word starts

theorem tokens?_columns {column : String × Direction} {columns : List (String × Direction)}
    (names : ∀ c ∈ column :: columns, isName c.1.toList = true) :
    tokens? (", ".intercalate ((column :: columns).map columnClause)).toList =
      some ([Token.comma].intercalate ((column :: columns).map columnTokens)) := by
  induction columns generalizing column with
  | nil => simpa using tokens?_columnClause (names column List.mem_cons_self)
  | cons next columns ih =>
    have first := tokens?_columnClause (names column List.mem_cons_self)
    have others := ih fun c hc => names c (List.mem_cons_of_mem _ hc)
    have opened := tokens?_append (.inr (by decide)) first tokens?_comma
    have ends : isApartAtEnd ((columnClause column).toList ++ ", ".toList) = true := by
      rw [← String.toList_append]
      exact endsApart_append _ (by decide) (by decide)
    have whole := tokens?_append (.inl ends) opened others
    rw [List.map_cons, List.map_cons, String.intercalate_cons_cons, ← List.map_cons,
      String.toList_append, String.toList_append, whole]
    simp [List.intercalate_cons_cons]

theorem isFilled_columns (columns : List (String × Direction)) :
    ∀ t ∈ [Token.comma].intercalate (columns.map columnTokens), t.isFilled = true := by
  induction columns with
  | nil => exact fun t ht => nomatch ht
  | cons column columns ih =>
    cases columns with
    | nil => simp [columnTokens, Token.isFilled]
    | cons next columns =>
      rw [List.map_cons, List.map_cons, List.intercalate_cons_cons, ← List.map_cons]
      simp only [List.forall_mem_append]
      exact ⟨⟨by simp [columnTokens, Token.isFilled], by simp [Token.isFilled]⟩, ih⟩

def countTokens (n : Option Nat) : Option (List Token) := n.map fun n => [.number n]

theorem count?_countTokens (n : Option Nat) (rest : List Token) :
    Option.Rel (fun ts a => count? (ts ++ rest) = some (a, rest)) (countTokens n) n := by
  cases n with
  | none => exact .none
  | some n => exact .some rfl

/-- A clause with a number reads as its word and the number. -/
theorem reads_numberClause {word name : String} (opening : tokens? word.toList = some [.name name])
    (ends : isApartAtEnd word.toList = true) (n : Option Nat) :
    Reads d (Query.numberClause word n) (clauseTokens name (countTokens n)) := by
  cases n with
  | none => exact .nil
  | some n =>
    have number := tokens?_append (.inl ends) opening (tokens?_number n)
    rw [← String.toList_append] at number
    exact Reads.text number (by simp [clauseTokens, countTokens, Token.isFilled])

theorem standsApart_numberClause {word : String} (nonempty : word.toList ≠ [])
    (starts : isApartAtStart word.toList = true) (n : Option Nat) :
    StandsApart d (Query.numberClause word n) := by
  cases n with
  | none => exact standsApart_nil
  | some n =>
    refine standsApart_text [] ?_ (startsApart_append _ nonempty starts)
    rw [String.toList_append]
    exact List.append_ne_nil_of_left_ne_nil nonempty _

/-- A clause for the order reads as its words and the `columns`. -/
theorem reads_orderClause (columns : List (String × Direction))
    (names : ∀ c ∈ columns, isName c.1.toList = true) :
    ∃ inner x, Reads d (Query.listClause " ORDER BY " (columns.map columnClause))
        (clauseTokens "ORDER" inner) ∧ x.getD [] = columns ∧
      ∀ rest, Follow ["LIMIT", "OFFSET"] rest →
        Option.Rel (fun ts a => order? (ts ++ rest) = some (a, rest)) inner x := by
  cases columns with
  | nil => exact ⟨none, none, .nil, rfl, fun rest _ => .none⟩
  | cons column columns =>
    have opening : tokens? " ORDER BY ".toList = some [.name "ORDER", .name "BY"] := rfl
    have whole := tokens?_append (.inl (by decide)) opening (tokens?_columns names)
    rw [← String.toList_append] at whole
    refine ⟨some (.name "BY" :: [Token.comma].intercalate ((column :: columns).map columnTokens)),
      some (column :: columns), ?_, rfl, fun rest ends => .some ?_⟩
    · have filled : ∀ t ∈ [Token.name "ORDER", .name "BY"] ++
          [Token.comma].intercalate ((column :: columns).map columnTokens), t.isFilled = true :=
        List.forall_mem_append.2 ⟨by simp [Token.isFilled], isFilled_columns _⟩
      exact Reads.text whole filled
    · exact columns?_eq column columns ends

/-- Clauses one after another are what they are one by one. -/
theorem selection?_eq {rowTokens orderTokens : Option (List Token)} {rows : Option Predicate}
    {order : Option (List (String × Direction))} (limit offset : Option Nat)
    (parseRows : ∀ rest, Follow ["ORDER", "LIMIT", "OFFSET"] rest →
      Option.Rel (fun ts p => condition? (ts ++ rest) = some (p, rest)) rowTokens rows)
    (parseOrder : ∀ rest, Follow ["LIMIT", "OFFSET"] rest →
      Option.Rel (fun ts a => order? (ts ++ rest) = some (a, rest)) orderTokens order) :
    selection? (clauseTokens "WHERE" rowTokens ++ (clauseTokens "ORDER" orderTokens ++
      (clauseTokens "LIMIT" (countTokens limit) ++ clauseTokens "OFFSET" (countTokens offset)))) =
        some ⟨rows, order.getD [], limit, offset⟩ := by
  -- each clause is read where one of the words of later clauses comes next, or nothing
  have last := (Follow.nil []).clauseTokens "OFFSET" (countTokens offset)
  have bounds := last.clauseTokens "LIMIT" (countTokens limit)
  have clauses := bounds.clauseTokens "ORDER" orderTokens
  rw [← List.append_nil (Sql.clauseTokens "OFFSET" _), selection?,
    clause?_eq (by decide) clauses (parseRows _ clauses)]
  show (clause? "ORDER" order? _ >>= _) = _
  rw [clause?_eq (by decide) bounds (parseOrder _ bounds)]
  show (clause? "LIMIT" count? _ >>= _) = _
  rw [clause?_eq (by decide) last (count?_countTokens limit _)]
  show (clause? "OFFSET" count? _ >>= _) = _
  rw [clause?_eq (List.not_mem_nil) (Follow.nil []) (count?_countTokens offset _)]
  rfl

end Sql

/-- Behind its `head`, a statement asks for what its pieces read as. -/
theorem Sql.Reads.selection? {d : Dialect} {tail : Sql} {ts : List Token} (reads : Reads d tail ts)
    (head : String) :
    (Sql.statement d (.text head :: tail)).selection? head = Sql.selection? ts := by
  obtain ⟨raw, tokens, filled⟩ := reads [] []
  have whole := filled []
  simp only [List.append_nil, List.nil_append, List.length_nil, Nat.zero_add, fill?, Option.map_some]
    at whole tokens
  have dropped : (head ++ textFrom d 1 tail).toList.dropPrefix? head.toList =
      some (textFrom d 1 tail).toList := by
    rw [String.toList_append]
    exact List.dropPrefix?_append_of_beq _ (beq_self_eq_true _)
  unfold Statement.selection?
  simp only [Sql.statement, textFrom, Sql.params, dropped, Option.bind_eq_bind, Option.bind_some,
    tokens, whole]

/-! ## Reading queries back -/

/-- What `s` asks for is what `q` asks for. -/
structure Selection.Matches (s : Selection) (q : Query) (d : Dialect) : Prop where
  wanted : ∀ m row, s.wants m row = q.wants d m row
  order : s.order = q.order.map fun column => (q.columnText column.1, column.2)
  limit : s.limit = q.limit
  offset : s.offset = q.offset

namespace Query

variable {q : Query} {d : Dialect} (rename : ∀ table ∈ q.rename, isName table.toList = true)

include rename

/-- The clause for the wanted rows reads as its word and a predicate that says what `filter`
says. -/
theorem reads_whereClause (filter : Option Filter)
    (names : ∀ f ∈ filter, ∀ name ∈ f.columns, isName name.toList = true) :
    ∃ inner x, Reads d (q.clauseInTerms d " WHERE " filter) (clauseTokens "WHERE" inner) ∧
      (∀ rest, Follow ["ORDER", "LIMIT", "OFFSET"] rest →
        Option.Rel (fun ts p => condition? (ts ++ rest) = some (p, rest)) inner x) ∧
      ∀ s : Selection, s.wanted = x → ∀ m row,
        s.wants m row = ({ q with filter := filter } : Query).wants d m row := by
  cases filter with
  | none =>
    refine ⟨none, none, .nil, fun rest _ => .none, fun s hs m row => ?_⟩
    unfold Selection.wants
    rw [hs]
    rfl
  | some f =>
    obtain ⟨ts, p, reads, parses, agrees⟩ := reads_sqlInTerms rename d f (names f rfl)
    have opening : tokens? " WHERE ".toList = some [.name "WHERE"] := rfl
    refine ⟨some ts, some p, Reads.after_text opening (by simp [Token.isFilled]) (by decide) reads,
      fun rest follow => .some ?_, fun s hs m row => ?_⟩
    · refine parses rest (ts ++ rest).length (fun t ht => ?_) (by simp)
      obtain ⟨word, -, rfl⟩ := follow t ht
      exact ⟨rfl, rfl⟩
    · unfold Selection.wants
      rw [hs]
      exact congrArg (fun truth => decide (truth = Truth.yes)) (agrees m.compares (m.cell row))

/-- The statement that begins with a `head` and goes on with the clauses of one table is read back. -/
theorem selection?_statement (head : String)
    (names : ∀ f ∈ q.filter, ∀ name ∈ f.columns, isName name.toList = true)
    (ordered : ∀ column ∈ q.order, isName column.1.toList = true) :
    ∃ s, (Sql.statement d (.text head ::
      (q.clauseInTerms d " WHERE " q.filter ++ q.orderText))).selection? head = some s ∧
        s.Matches q d := by
  obtain ⟨rowTokens, rows, readRows, parseRows, agrees⟩ :=
    reads_whereClause (d := d) rename q.filter names
  obtain ⟨orderTokens, order, readOrder, orderEq, parseOrder⟩ := reads_orderClause (d := d)
    (q.order.map fun column => (q.columnText column.1, column.2)) (by
      intro column hcolumn
      obtain ⟨source, hsource, rfl⟩ := List.mem_map.1 hcolumn
      exact isName_columnText rename (ordered source hsource))
  rw [List.map_map] at readOrder
  have readLimit : Reads d (numberClause " LIMIT " q.limit)
      (clauseTokens "LIMIT" (countTokens q.limit)) := reads_numberClause rfl (by decide) q.limit
  have readOffset : Reads d (numberClause " OFFSET " q.offset)
      (clauseTokens "OFFSET" (countTokens q.offset)) := reads_numberClause rfl (by decide) q.offset
  have apartLimit : StandsApart d (numberClause " LIMIT " q.limit) :=
    standsApart_numberClause (by decide) (by decide) q.limit
  have apartOffset : StandsApart d (numberClause " OFFSET " q.offset) :=
    standsApart_numberClause (by decide) (by decide) q.offset
  have apartBounds := apartLimit.append apartOffset
  have apartOrder : StandsApart d q.orderText := by
    refine StandsApart.append ?_ apartBounds
    unfold listClause
    split
    · exact standsApart_nil
    · exact standsApart_text [] (by simp) (startsApart_append _ (by decide) (by decide))
  have reads : Reads d (q.clauseInTerms d " WHERE " q.filter ++ q.orderText) _ :=
    readRows.append_apart (readOrder.append_apart
      (readLimit.append_apart readOffset apartOffset) apartBounds) apartOrder
  refine ⟨⟨rows, order.getD [], q.limit, q.offset⟩, ?_, agrees _ rfl, orderEq, rfl, rfl⟩
  rw [reads.selection? head, selection?_eq q.limit q.offset parseRows parseOrder]

variable (free : ∀ f ∈ q.filter, ∀ name ∈ f.columns, FreeOfKeywords name)

include free

/-- What the statement of a query of one table without groups asks for is what the query asks
for. -/
theorem selectStatement_selection? (joins : q.joins = []) (groups : q.groups = [])
    (having : q.having = none) (sorted : ∀ column ∈ q.order, FreeOfKeywords column.1) {st : Statement}
    (built : q.selectStatement d = .ok st) :
    ∃ s, st.selection? q.head = some s ∧ s.Matches q d := by
  simp only [selectStatement, Except.bind_eq_ok] at built
  obtain ⟨sql, hsql, built⟩ := built
  cases built
  obtain ⟨valid, rfl⟩ := selectSql_eq_ok hsql
  have clauses : q.joinClauses ++ (q.clauseInTerms d " WHERE " q.filter ++ (q.groupText ++
      (q.clauseInTerms d " HAVING " q.having ++ q.orderText))) =
        q.clauseInTerms d " WHERE " q.filter ++ q.orderText := by
    unfold joinClauses groupText
    rw [joins, groups, having]
    rfl
  rw [clauses]
  refine selection?_statement rename q.head (fun f hf name hname => ?_) (fun column hcolumn => ?_)
  · exact (isName_iff name).2 ⟨valid.filters f (.inl hf) name hname, free f hf name hname⟩
  · exact (isName_iff column.1).2 ⟨valid.order column hcolumn, sorted column hcolumn⟩

/-- What the statement of an aggregate asks for is what the query wants, in any order and without
bounds. -/
theorem aggregateStatement_selection? {expression name : String} {st : Statement}
    (built : q.aggregateStatement d expression name = .ok st) :
    ∃ wanted, st.selection? ("SELECT " ++ expression ++ " AS " ++ name ++ " FROM " ++ q.tableText) =
      some { wanted := wanted } ∧
        ∀ m row, ({ wanted := wanted } : Selection).wants m row = q.wants d m row := by
  simp only [aggregateStatement, Except.bind_eq_ok] at built
  obtain ⟨sql, hsql, built⟩ := built
  cases built
  obtain ⟨valid, rfl⟩ := aggregateSql_eq_ok hsql
  have unsorted := selection?_statement (d := d)
    (q := { q with order := [], limit := none, offset := none }) rename
    ("SELECT " ++ expression ++ " AS " ++ name ++ " FROM " ++ q.tableText)
    (fun f hf column hcolumn => (isName_iff column).2
      ⟨valid f hf column hcolumn, free f hf column hcolumn⟩)
    (List.forall_mem_nil _)
  obtain ⟨⟨wanted, order, limit, offset⟩, read, same⟩ := unsorted
  obtain rfl : order = [] := same.order
  obtain rfl : limit = none := same.limit
  obtain rfl : offset = none := same.offset
  refine ⟨wanted, ?_, same.wanted⟩
  have text : Query.orderText { q with order := [], limit := none, offset := none } = [] := rfl
  rw [text, List.append_nil] at read
  exact read

end Query

/-- The order of columns under the texts that refer to them is the order of these texts. -/
theorem Reading.inOrder_map {m : Reading} {text : String → String} {a b : Record}
    (order : List (String × Direction)) :
    m.InOrder id (order.map fun column => (text column.1, column.2)) a b ↔ m.InOrder text order a b := by
  induction order with
  | nil => exact Iff.rfl
  | cons column rest ih =>
    obtain ⟨name, direction⟩ := column
    cases direction with
    | asc => exact and_congr Iff.rfl (imp_congr_right fun _ => ih)
    | desc => exact and_congr Iff.rfl (imp_congr_right fun _ => ih)

theorem Selection.Matches.window_eq {s : Selection} {q : Query} {d : Dialect} (same : s.Matches q d) :
    s.window = q.window := by
  obtain ⟨wanted, order, limit, offset⟩ := s
  obtain rfl : limit = q.limit := same.limit
  obtain rfl : offset = q.offset := same.offset
  rfl

/-- The rows that a statement asks for are those that answer its query. -/
theorem Selection.Matches.answers_iff {s : Selection} {q : Query} {d : Dialect}
    (same : s.Matches q d) {m : Reading} {contents rows : List Record} :
    s.Answers m contents rows ↔ q.Answers d m contents rows := by
  have wants : s.wants m = q.wants d m := funext (same.wanted m)
  have inOrder : m.InOrder id s.order = m.InOrder q.columnText q.order := by
    funext a b
    rw [same.order]
    exact propext (Reading.inOrder_map q.order)
  unfold Selection.Answers Query.Answers
  rw [wants, same.window_eq, inOrder]

end EntityStore
