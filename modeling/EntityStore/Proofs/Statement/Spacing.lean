import EntityStore.Proofs.Condition.Token
import EntityStore.Proofs.Statement.Clauses

/-!
# Spaced statements

The placeholders of a statement can be read from its text if no other text has a mark in it, and if
no text after a placeholder begins with a digit, which would be read as part of its number. The parts
of a statement are put together so that neither happens, as long as the texts that are taken as they
are have no mark.
-/

namespace EntityStore

namespace Sql

/-! ## Reading placeholders -/

/-- The placeholders of a text from left to right: question marks, and dollar signs with the digits
after them. -/
def placeholders : List Char → List String
  | [] => []
  | '?' :: rest => "?" :: placeholders rest
  | '$' :: rest => String.ofList ('$' :: rest.takeWhile Char.isDigit) :: placeholders rest
  | _ :: rest => placeholders rest

/-- No character of `s` marks a placeholder. -/
def Unmarked (s : String) : Prop := ∀ c ∈ s.toList, c ≠ '?' ∧ c ≠ '$'

instance (s : String) : Decidable (Unmarked s) :=
  List.decidableBAll (fun c => c ≠ '?' ∧ c ≠ '$') s.toList

theorem placeholders_append {as : List Char} (h : ∀ c ∈ as, c ≠ '?' ∧ c ≠ '$') (bs : List Char) :
    placeholders (as ++ bs) = placeholders bs := by
  induction as with
  | nil => rfl
  | cons a as ih =>
    obtain ⟨question, dollar⟩ := h a (by simp)
    have rest := ih fun c hc => h c (List.mem_cons_of_mem _ hc)
    rw [List.cons_append, placeholders, rest]
    · exact question
    · exact dollar

@[simp] theorem unmarked_append {a b : String} : Unmarked (a ++ b) ↔ Unmarked a ∧ Unmarked b := by
  simp only [Unmarked, String.toList_append]
  exact List.forall_mem_append

theorem unmarked_digits (n : Nat) : ∀ c ∈ Nat.toDigits 10 n, c ≠ '?' ∧ c ≠ '$' := by
  intro c hc
  have digit : c.isDigit = true := Text.isDigit_toDigits n c hc
  exact ⟨Text.ne_of_isDigit digit rfl, Text.ne_of_isDigit digit rfl⟩

theorem unmarked_toString (n : Nat) : Unmarked (toString n) := by
  unfold Unmarked
  rw [Text.toList_toString]
  exact unmarked_digits n

theorem unmarked_of_isValid {name : String} (h : Identifier.isValid name false = true) :
    Unmarked name := by
  intro c hc
  rcases ((Identifier.isValid_iff name).1 h).chars c hc with rfl | tail
  · decide
  · constructor
    · rintro rfl
      exact absurd tail (by decide)
    · rintro rfl
      exact absurd tail (by decide)

theorem unmarked_intercalate {between : String} (hbetween : Unmarked between) {parts : List String}
    (h : ∀ s ∈ parts, Unmarked s) : Unmarked (between.intercalate parts) := by
  induction parts with
  | nil =>
    intro c hc
    simp at hc
  | cons part rest ih =>
    cases rest with
    | nil => simpa using h part (by simp)
    | cons next rest =>
      rw [String.intercalate_cons_cons, unmarked_append, unmarked_append]
      exact ⟨⟨h part (by simp), hbetween⟩, ih fun s hs => h s (List.mem_cons_of_mem _ hs)⟩

/-! ## Spacing -/

/-- The text `s` begins with another character than a digit. -/
def BeginsApart (s : String) : Prop := s.toList.head?.map Char.isDigit = some false

instance (s : String) : Decidable (BeginsApart s) :=
  inferInstanceAs (Decidable (s.toList.head?.map Char.isDigit = some false))

theorem BeginsApart.append {s : String} (h : BeginsApart s) (t : String) : BeginsApart (s ++ t) := by
  obtain ⟨first, hfirst, notDigit⟩ := Option.map_eq_some_iff.1 h
  unfold BeginsApart
  rw [String.toList_append, List.head?_append, hfirst, Option.some_or, Option.map_some, notDigit]

/-- The text of `sql` does not begin with a digit. -/
def StartsApart (sql : Sql) : Prop :=
  ∀ d number, ∀ c ∈ (textFrom d number sql).toList.head?, c.isDigit = false

/-- No text of a part has a mark, and no text goes on with the number of a placeholder. -/
def Spaced : Sql → Prop
  | [] => True
  | .text s :: rest => Unmarked s ∧ Spaced rest
  | .bound _ :: rest => StartsApart rest ∧ Spaced rest

theorem startsApart_nil : StartsApart [] := by
  intro d number c hc
  cases hc

theorem startsApart_text {s : String} (h : BeginsApart s) (rest : Sql) :
    StartsApart (.text s :: rest) := by
  intro d number c hc
  obtain ⟨first, hfirst, notDigit⟩ := Option.map_eq_some_iff.1 h
  rw [textFrom, String.toList_append, List.head?_append, hfirst] at hc
  obtain rfl : first = c := by simpa using hc
  exact notDigit

theorem StartsApart.append {a b : Sql} (ha : StartsApart a) (hb : StartsApart b) :
    StartsApart (a ++ b) := by
  intro d number c hc
  rw [textFrom_append, String.toList_append] at hc
  cases first : (textFrom d number a).toList with
  | nil =>
    rw [first, List.nil_append] at hc
    exact hb d _ c hc
  | cons head tail =>
    rw [first] at hc
    exact ha d number c (by simpa [first] using hc)

theorem Spaced.append {a b : Sql} (ha : Spaced a) (hb : Spaced b) (starts : StartsApart b) :
    Spaced (a ++ b) := by
  induction a with
  | nil => exact hb
  | cons piece rest ih =>
    cases piece with
    | text s => exact ⟨ha.1, ih ha.2⟩
    | bound v => exact ⟨ha.1.append starts, ih ha.2⟩

/-- Parts stay spaced with a text `s` between them that has no mark and does not begin with a
digit. -/
theorem Spaced.joined {s : String} (unmarked : Unmarked s) (begins : BeginsApart s)
    {parts : List Sql} (h : ∀ part ∈ parts, Spaced part) : Spaced (Sql.joined s parts) := by
  induction parts with
  | nil => trivial
  | cons part rest ih =>
    cases rest with
    | nil => simpa [Sql.joined] using h part (by simp)
    | cons next rest =>
      have others := ih fun p hp => h p (List.mem_cons_of_mem _ hp)
      have tail : Spaced (.text s :: Sql.joined s (next :: rest)) := ⟨unmarked, others⟩
      have whole := (h part (by simp)).append tail (startsApart_text begins _)
      simpa [Sql.joined, List.intercalate_cons_cons] using whole

/-- A placeholder is read as one, if no digit comes after it. -/
theorem placeholders_placeholder (d : Dialect) (number : Nat) {rest : List Char}
    (h : ∀ c ∈ rest.head?, c.isDigit = false) :
    placeholders ((d.placeholder number).toList ++ rest) =
      d.placeholder number :: placeholders rest := by
  have question : placeholders ("?".toList ++ rest) = "?" :: placeholders rest := by
    have chars : "?".toList = ['?'] := rfl
    rw [chars]
    rfl
  cases d with
  | postgres =>
    have digits : ∀ c ∈ Nat.toDigits 10 number, c.isDigit = true := Text.isDigit_toDigits number
    have stops : rest.takeWhile Char.isDigit = [] := by
      cases rest with
      | nil => rfl
      | cons c cs => simp [h c (by simp)]
    rw [toList_numbered, List.cons_append, placeholders,
      placeholders_append (unmarked_digits number), List.takeWhile_append_of_pos digits, stops,
      List.append_nil, ← toList_numbered, String.ofList_toList]
  | _ => exact question

/-- The placeholders of a spaced part are those of its values, in order. -/
theorem placeholders_textFrom {sql : Sql} (h : Spaced sql) (d : Dialect) (number : Nat) :
    placeholders (textFrom d number sql).toList =
      (List.range' number (params sql).length).map d.placeholder := by
  induction sql generalizing number with
  | nil => rfl
  | cons piece rest ih =>
    cases piece with
    | text s =>
      rw [textFrom, String.toList_append, placeholders_append h.1]
      exact ih h.2 number
    | bound v =>
      rw [textFrom, String.toList_append, placeholders_placeholder d number (h.1 d (number + 1)),
        ih h.2 (number + 1), params, List.length_cons, List.range'_succ, List.map_cons]

theorem spaced_texts {texts : List String} (h : ∀ s ∈ texts, Unmarked s) :
    Spaced (texts.map .text) := by
  induction texts with
  | nil => trivial
  | cons s rest ih => exact ⟨h s (by simp), ih fun t ht => h t (List.mem_cons_of_mem _ ht)⟩

end Sql

open Sql

/-! ## Conditions -/

theorem Comparison.unmarked_sign (d : Dialect) (c : Comparison) : Unmarked (c.sign d) := by
  rw [Comparison.sign_eq_symbol]
  cases c.inDialect d <;> decide

namespace Condition

theorem spaced_places (values : List Value) :
    Spaced (Sql.joined ", " (values.map fun v => [.bound v])) := by
  refine Spaced.joined (by decide) (by decide) ?_
  intro part hpart
  obtain ⟨v, _, rfl⟩ := List.mem_map.1 hpart
  exact ⟨startsApart_nil, trivial⟩

theorem spaced_group {d : Dialect} {conditions : List Condition}
    (each : ∀ c ∈ conditions, Spaced (c.sql d)) {word : String} (unmarked : Unmarked word)
    (begins : BeginsApart word) :
    Spaced ([.text "("] ++ Sql.joined word (sqlOfEach d conditions) ++ [.text ")"]) := by
  have inner : Spaced (Sql.joined word (sqlOfEach d conditions)) := by
    refine Spaced.joined unmarked begins ?_
    rw [sqlOfEach_eq_map]
    intro part hpart
    obtain ⟨o, ho, rfl⟩ := List.mem_map.1 hpart
    exact each o ho
  have closing : Spaced [.text ")"] := ⟨by decide, trivial⟩
  have opened : Spaced ([.text "("] ++ Sql.joined word (sqlOfEach d conditions)) :=
    ⟨by decide, inner⟩
  exact opened.append closing (startsApart_text (by decide) [])

/-- The text of `c` is spaced if its columns have no mark. -/
theorem spaced_sql (d : Dialect) (c : Condition) (names : ∀ name ∈ c.columns, Unmarked name) :
    Spaced (c.sql d) := by
  induction c with
  | compare comparison column operand =>
    have text : Unmarked (column ++ " " ++ comparison.sign d ++ " ") := by
      have blank : Unmarked " " := by decide
      simp only [unmarked_append]
      exact ⟨⟨⟨of_columns_leaf names rfl, blank⟩, comparison.unmarked_sign d⟩, blank⟩
    exact ⟨text, startsApart_nil, trivial⟩
  | oneOf column operands =>
    cases operands with
    | nil => exact ⟨by decide, trivial⟩
    | cons v vs =>
      have text : Unmarked (column ++ " IN (") := unmarked_append.2 ⟨of_columns_leaf names rfl, by decide⟩
      have places : Spaced ([.text (column ++ " IN (")] ++
          Sql.joined ", " ((v :: vs).map fun v => [.bound v])) := ⟨text, spaced_places (v :: vs)⟩
      have closing : Spaced [.text ")"] := ⟨by decide, trivial⟩
      exact places.append closing (startsApart_text (by decide) [])
  | between column least greatest =>
    have text : Unmarked (column ++ " BETWEEN ") := unmarked_append.2 ⟨of_columns_leaf names rfl, by decide⟩
    refine ⟨text, startsApart_text (by decide) _, by decide, startsApart_nil, trivial⟩
  | isNull column =>
    exact ⟨unmarked_append.2 ⟨of_columns_leaf names rfl, by decide⟩, trivial⟩
  | isNotNull column =>
    exact ⟨unmarked_append.2 ⟨of_columns_leaf names rfl, by decide⟩, trivial⟩
  | all conditions ih =>
    cases conditions with
    | nil => exact ⟨by decide, trivial⟩
    | cons c rest =>
      refine spaced_group (fun o ho => ih o ho fun name hname => names name ?_) (by decide) (by decide)
      rw [columns_all]
      exact List.mem_flatMap_of_mem ho hname
  | any conditions ih =>
    cases conditions with
    | nil => exact ⟨by decide, trivial⟩
    | cons c rest =>
      refine spaced_group (fun o ho => ih o ho fun name hname => names name ?_) (by decide) (by decide)
      rw [columns_any]
      exact List.mem_flatMap_of_mem ho hname
  | not c ih =>
    have inner := ih (by simpa using names)
    rw [sql]
    split
    · exact ⟨by decide, inner⟩
    · have closing : Spaced [.text ")"] := ⟨by decide, trivial⟩
      have opened : Spaced ([.text "NOT ("] ++ c.sql d) := ⟨by decide, inner⟩
      exact opened.append closing (startsApart_text (by decide) [])

end Condition

/-! ## Queries -/

namespace Query

/-- No text that `q` takes as it is has a mark. -/
structure Unmarked (q : Query) : Prop where
  table : Sql.Unmarked q.table.name
  rename : ∀ name ∈ q.rename, Sql.Unmarked name
  selected : ∀ expression ∈ q.selected, Sql.Unmarked expression
  conditions : ∀ j ∈ q.joins, Sql.Unmarked j.condition

variable {q : Query} (h : q.Unmarked)

include h

theorem Unmarked.columnText {name : String} (valid : Identifier.isValid name false = true) :
    Sql.Unmarked (q.columnText name) := by
  unfold Query.columnText
  split
  · rename_i table used
    split
    · simp only [unmarked_append]
      exact ⟨⟨h.rename table used, by decide⟩, unmarked_of_isValid valid⟩
    · exact unmarked_of_isValid valid
  · exact unmarked_of_isValid valid

theorem Unmarked.tableText : Sql.Unmarked q.tableText := by
  unfold Query.tableText
  split
  · rename_i name used
    simp only [unmarked_append]
    exact ⟨⟨h.table, by decide⟩, h.rename name used⟩
  · exact h.table

theorem Unmarked.head : Sql.Unmarked q.head := by
  unfold Query.head
  simp only [unmarked_append]
  refine ⟨⟨⟨by decide, ?_⟩, by decide⟩, h.tableText⟩
  split
  · decide
  · exact unmarked_intercalate (by decide) h.selected

theorem Unmarked.spaced_inTerms (d : Dialect) (c : Condition)
    (valid : ∀ name ∈ c.columns, Identifier.isValid name false = true) :
    Spaced ((c.inTerms q).sql d) := by
  refine Condition.spaced_sql d _ ?_
  intro text htext
  rw [Condition.inTerms, Condition.columns_replaced] at htext
  obtain ⟨name, hname, rfl⟩ := List.mem_map.1 htext
  exact h.columnText (valid name hname)

theorem Unmarked.spaced_sqlInTerms (d : Dialect) (f : Filter)
    (valid : ∀ name ∈ f.columns, Identifier.isValid name false = true) :
    Spaced (f.sqlInTerms d q) := by
  cases f with
  | condition c => exact h.spaced_inTerms d c valid
  | matching r =>
    rw [Filter.sqlInTerms]
    split
    · exact ⟨by decide, trivial⟩
    · refine Spaced.joined (by decide) (by decide) ?_
      rw [Condition.sqlOfEach_eq_map, List.map_map]
      intro part hpart
      obtain ⟨c, hc, rfl⟩ := List.mem_map.1 hpart
      exact h.spaced_inTerms d c fun name hname => valid name (List.mem_flatMap_of_mem hc hname)

/-- A clause with a `filter` is spaced and can stand after any part. -/
theorem Unmarked.spaced_clause (d : Dialect) (word : String) (unmarked : Sql.Unmarked word)
    (begins : BeginsApart word) (filter : Option Filter)
    (valid : ∀ f ∈ filter, ∀ name ∈ f.columns, Identifier.isValid name false = true) :
    Spaced (q.clauseInTerms d word filter) ∧ StartsApart (q.clauseInTerms d word filter) := by
  cases filter with
  | none => exact ⟨trivial, startsApart_nil⟩
  | some f =>
    exact ⟨⟨unmarked, h.spaced_sqlInTerms d f (valid f rfl)⟩, startsApart_text begins _⟩

omit h in
theorem spaced_listClause (word : String) (unmarked : Sql.Unmarked word)
    (begins : BeginsApart word) {items : List String}
    (each : ∀ s ∈ items, Sql.Unmarked s) :
    Spaced (listClause word items) ∧ StartsApart (listClause word items) := by
  unfold listClause
  split
  · exact ⟨trivial, startsApart_nil⟩
  · have text : Sql.Unmarked (word ++ ", ".intercalate items) :=
      unmarked_append.2 ⟨unmarked, unmarked_intercalate (by decide) each⟩
    exact ⟨⟨text, trivial⟩, startsApart_text (begins.append _) _⟩

omit h in
theorem spaced_numberClause (word : String) (unmarked : Sql.Unmarked word)
    (begins : BeginsApart word) (n : Option Nat) :
    Spaced (numberClause word n) ∧ StartsApart (numberClause word n) := by
  cases n with
  | none => exact ⟨trivial, startsApart_nil⟩
  | some n =>
    have text : Sql.Unmarked (word ++ toString n) := unmarked_append.2 ⟨unmarked, unmarked_toString n⟩
    exact ⟨⟨text, trivial⟩, startsApart_text (begins.append _) _⟩

theorem Unmarked.spaced_joinClauses (valid : ∀ j ∈ q.joins,
    Identifier.isValid j.table false = true ∧ Identifier.isValid j.name false = true) :
    Spaced q.joinClauses := by
  have clauses : q.joinClauses = (q.joins.map joinText).map .text := by simp [joinClauses]
  rw [clauses]
  refine spaced_texts ?_
  intro s hs
  obtain ⟨j, hj, rfl⟩ := List.mem_map.1 hs
  have kind : Sql.Unmarked j.kind.word := by cases j.kind <;> decide
  have blank : Sql.Unmarked " " := by decide
  simp only [joinText, unmarked_append]
  exact ⟨⟨⟨⟨⟨⟨⟨blank, kind⟩, by decide⟩, unmarked_of_isValid (valid j hj).1⟩, blank⟩,
    unmarked_of_isValid (valid j hj).2⟩, by decide⟩, h.conditions j hj⟩

theorem Unmarked.spaced_orderText
    (valid : ∀ column ∈ q.order, Identifier.isValid column.1 false = true) :
    Spaced q.orderText ∧ StartsApart q.orderText := by
  have items : ∀ s ∈ q.order.map fun column => q.columnText column.1 ++ " " ++ column.2.word,
      Sql.Unmarked s := by
    intro s hs
    obtain ⟨column, hcolumn, rfl⟩ := List.mem_map.1 hs
    have direction : Sql.Unmarked column.2.word := by cases column.2 <;> decide
    simp only [unmarked_append]
    exact ⟨⟨h.columnText (valid column hcolumn), by decide⟩, direction⟩
  obtain ⟨list, listStarts⟩ := spaced_listClause " ORDER BY " (by decide) (by decide) items
  obtain ⟨limit, limitStarts⟩ := spaced_numberClause " LIMIT " (by decide) (by decide) q.limit
  obtain ⟨offset, offsetStarts⟩ :=
    spaced_numberClause " OFFSET " (by decide) (by decide) q.offset
  have numbers := limit.append offset offsetStarts
  have numbersStart := limitStarts.append offsetStarts
  exact ⟨list.append numbers numbersStart, listStarts.append numbersStart⟩

theorem Unmarked.spaced_select {d : Dialect} {sql : Sql} (built : q.selectSql d = .ok sql) :
    Spaced sql := by
  obtain ⟨valid, rfl⟩ := selectSql_eq_ok built
  obtain ⟨rows, rowsStart⟩ := h.spaced_clause d " WHERE " (by decide) (by decide) q.filter
    fun f hf => valid.filters f (Or.inl hf)
  have columns : ∀ s ∈ q.groups.map q.columnText, Sql.Unmarked s := by
    intro s hs
    obtain ⟨name, hname, rfl⟩ := List.mem_map.1 hs
    exact h.columnText (valid.groups name hname)
  obtain ⟨groups, groupsStart⟩ := spaced_listClause " GROUP BY " (by decide) (by decide) columns
  obtain ⟨having, havingStart⟩ := h.spaced_clause d " HAVING " (by decide) (by decide) q.having
    fun f hf => valid.filters f (Or.inr hf)
  obtain ⟨order, orderStart⟩ := h.spaced_orderText valid.order
  have afterGroups := having.append order orderStart
  have afterGroupsStart := havingStart.append orderStart
  have afterRows := groups.append afterGroups afterGroupsStart
  have afterRowsStart := groupsStart.append afterGroupsStart
  have afterJoins := rows.append afterRows afterRowsStart
  have afterJoinsStart := rowsStart.append afterRowsStart
  exact ⟨h.head, (h.spaced_joinClauses valid.joins).append afterJoins afterJoinsStart⟩

end Query

end EntityStore
