import EntityStore.Proofs.Statement.Acceptance
import EntityStore.Proofs.Statement.Conditions

/-!
# Qualifiers in the clause of the wanted rows

The words of a statement that have a point are references to columns, and what stands before the
last point is the table, by the name under which the statement uses it. The text of a filter has the
qualifiers that its names have, and besides them only the name of the table of the query.
-/

namespace EntityStore

open Sql

namespace Sql

/-! ## Qualifiers in a text -/

/-- A word that refers to a column: what stands before its last point is the table. -/
def reference? (word : List Char) : Option (String × String) :=
  match word.reverse.dropWhile (· != '.') with
  | _ :: rest =>
    some (String.ofList rest.reverse, String.ofList (word.reverse.takeWhile (· != '.')).reverse)
  | [] => none

/-- The table to whose column `word` refers. -/
def qualifier? (word : List Char) : Option String := (reference? word).map Prod.fst

/-- The qualifiers in `text`, in reading order. -/
def qualifiers (text : String) : List String := (lexemes text.toList).filterMap qualifier?

theorem reference?_plain {word : List Char} (plain : '.' ∉ word) : reference? word = none := by
  have none : word.reverse.dropWhile (· != '.') = [] := by
    rw [List.dropWhile_eq_nil_iff]
    intro c hc
    rw [bne_iff_ne]
    rintro rfl
    exact plain (List.mem_reverse.1 hc)
  rw [reference?, none]

theorem reference?_qualified (table : String) {column : String} (plain : '.' ∉ column.toList) :
    reference? (table ++ "." ++ column).toList = some (table, column) := by
  have before : ∀ c ∈ column.toList.reverse, (c != '.') = true := by
    intro c hc
    rw [bne_iff_ne]
    rintro rfl
    exact plain (List.mem_reverse.1 hc)
  have whole : (table ++ "." ++ column).toList.reverse =
      column.toList.reverse ++ '.' :: table.toList.reverse := by
    simp
  have rest : (table ++ "." ++ column).toList.reverse.dropWhile (· != '.') =
      '.' :: table.toList.reverse := by
    rw [whole, List.dropWhile_append_of_pos before, List.dropWhile_cons_of_neg (by decide)]
  have own : (table ++ "." ++ column).toList.reverse.takeWhile (· != '.') =
      column.toList.reverse := by
    rw [whole, List.takeWhile_append_of_pos before, List.takeWhile_cons_of_neg (by decide),
      List.append_nil]
  rw [reference?, rest, own]
  simp

theorem qualifier?_plain {word : List Char} (plain : '.' ∉ word) : qualifier? word = none := by
  rw [qualifier?, reference?_plain plain, Option.map_none]

theorem qualifiers_append {a b : String} (apart : Apart a.toList b.toList) :
    qualifiers (a ++ b) = qualifiers a ++ qualifiers b := by
  rw [qualifiers, String.toList_append, lexemes_append apart, List.filterMap_append]
  rfl

/-- A text without points has no qualifiers. -/
theorem qualifiers_plain {text : String} (plain : '.' ∉ text.toList) : qualifiers text = [] := by
  rw [qualifiers, List.filterMap_eq_nil_iff]
  intro word hword
  refine qualifier?_plain fun point => plain ?_
  rw [lexemes, List.mem_filter] at hword
  rw [← List.flatten_splitBy continues text.toList]
  exact List.mem_flatten_of_mem hword.1 point

/-- Whether `text` is one word. -/
def IsWord (text : String) : Prop := text.toList ≠ [] ∧ ∀ c ∈ text.toList, inWords c = true

theorem qualifiers_word {text : String} (word : IsWord text) :
    qualifiers text = (qualifier? text.toList).toList := by
  rw [qualifiers, lexemes_word word.1 word.2]
  cases h : qualifier? text.toList <;> simp [h]

theorem isWord_of_isValid {text : String} (h : Identifier.isValid text false = true) :
    IsWord text := by
  constructor
  · intro empty
    rw [Identifier.isValid, empty] at h
    exact absurd h (by decide)
  · intro c hc
    rcases ((Identifier.isValid_iff text).1 h).chars c hc with rfl | htail
    · decide
    · simp only [Identifier.isTail, Bool.or_eq_true] at htail
      simp only [inWords, Bool.or_eq_true]
      tauto

theorem IsWord.qualified {table column : String} (htable : IsWord table) (hcolumn : IsWord column) :
    IsWord (table ++ "." ++ column) := by
  constructor
  · simp
  · intro c hc
    simp only [String.toList_append, List.mem_append] at hc
    rcases hc with (hc | hc) | hc
    · exact htable.2 c hc
    · obtain rfl := List.mem_singleton.1 hc
      decide
    · exact hcolumn.2 c hc

/-! ## Qualifiers in a part of a statement -/

/-- The text of `sql` has the qualifiers `xs`, wherever it stands in a statement. -/
def Mentions (d : Dialect) (sql : Sql) (xs : List String) : Prop :=
  ∀ number, qualifiers (textFrom d number sql) = xs

namespace Mentions

variable {d : Dialect} {a b : Sql} {xs ys : List String} {s : String}

theorem append (ha : Mentions d a xs) (hb : Mentions d b ys)
    (apart : ∀ m n, Apart (textFrom d m a).toList (textFrom d n b).toList) :
    Mentions d (a ++ b) (xs ++ ys) := by
  intro number
  rw [textFrom_append, qualifiers_append (apart _ _), ha, hb]

theorem plain (h : '.' ∉ s.toList) : Mentions d [.text s] [] := by
  intro number
  rw [textFrom, textFrom, String.append_empty, qualifiers_plain h]

theorem column {column : String} (word : IsWord column) (h : '.' ∉ s.toList)
    (starts : isApartAtStart s.toList = true) :
    Mentions d [.text (column ++ s)] (qualifier? column.toList).toList := by
  intro number
  rw [textFrom, textFrom, String.append_empty, qualifiers_append (.inr starts),
    qualifiers_word word, qualifiers_plain h, List.append_nil]

theorem bound (v : Value) : Mentions d [.bound v] [] := by
  intro number
  rw [textFrom, textFrom, String.append_empty]
  refine qualifiers_plain ?_
  cases d with
  | postgres =>
    rw [toList_numbered, List.mem_cons, not_or]
    exact ⟨by decide, fun point => absurd (Text.isDigit_toDigits number _ point) (by decide)⟩
  | _ => exact (by decide : '.' ∉ "?".toList)

theorem after_text (h : '.' ∉ s.toList) (ends : isApartAtEnd s.toList = true)
    (hb : Mentions d b ys) : Mentions d (.text s :: b) ys := by
  rw [← List.singleton_append, ← List.nil_append ys]
  exact (plain h).append hb fun m n => .inl (by simpa [textFrom] using ends)

theorem before_text (ha : Mentions d a xs) (h : '.' ∉ s.toList)
    (starts : isApartAtStart s.toList = true) : Mentions d (a ++ [.text s]) xs := by
  rw [← List.append_nil xs]
  exact ha.append (plain h) fun m n => .inr (by simpa [textFrom] using starts)

/-- Parts with a text `s` between them that is apart from both sides. -/
theorem joined {α : Type} {sql : α → Sql} {names : α → List String} (nonempty : s.toList ≠ [])
    (h : '.' ∉ s.toList) (starts : isApartAtStart s.toList = true)
    (ends : isApartAtEnd s.toList = true) {parts : List α}
    (each : ∀ part ∈ parts, Mentions d (sql part) (names part)) :
    Mentions d (Sql.joined s (parts.map sql)) (parts.flatMap names) := by
  induction parts with
  | nil => exact fun _ => (by decide : qualifiers "" = [])
  | cons part rest ih =>
    have first := each part List.mem_cons_self
    have others := ih fun p hp => each p (List.mem_cons_of_mem _ hp)
    cases rest with
    | nil => simpa [Sql.joined] using first
    | cons next rest =>
      have both := (first.before_text h starts).append others (by
        intro m n
        rw [textFrom_append, textFrom, textFrom, String.append_empty]
        exact .inl (endsApart_append _ nonempty ends))
      simpa [Sql.joined, List.intercalate_cons_cons] using both

end Mentions

end Sql

/-! ## Qualifiers in a condition -/

namespace Condition

/-- The column that the text of a leaf names: where a list of operands is empty, it names none. -/
def writtenColumn? : Condition → Option String
  | .oneOf _ [] => none
  | leaf => leaf.column?

/-- The columns that the text of `c` names, in reading order. -/
def written (c : Condition) : List String := c.leaves.filterMap writtenColumn?

@[simp] theorem written_all (conditions : List Condition) :
    (Condition.all conditions).written = conditions.flatMap written := by
  simp only [written, leaves, leavesOfEach_eq_flatMap, List.filterMap_flatMap]
  rfl

@[simp] theorem written_any (conditions : List Condition) :
    (Condition.any conditions).written = conditions.flatMap written := by
  simp only [written, leaves, leavesOfEach_eq_flatMap, List.filterMap_flatMap]
  rfl

@[simp] theorem written_not (c : Condition) : (Condition.not c).written = c.written := by
  simp [written, leaves]

theorem written_replaced (text : String → String) (stored : String → Value → Value)
    (c : Condition) : (c.replaced text stored).written = c.written.map text := by
  induction c with
  | all conditions ih | any conditions ih =>
    simp only [replaced, replacedEach_eq_map, written_all, written_any, List.flatMap_map,
      List.map_flatMap]
    exact List.flatMap_congr ih
  | not c ih => simpa [replaced] using ih
  | oneOf column operands => cases operands <;> rfl
  | _ => rfl

/-- The qualifiers of the columns that the text of `c` names. -/
def qualifiers (c : Condition) : List String :=
  c.written.flatMap fun name => (Sql.qualifier? name.toList).toList

@[simp] theorem qualifiers_all (conditions : List Condition) :
    (Condition.all conditions).qualifiers = conditions.flatMap qualifiers := by
  simp only [qualifiers, written_all, List.flatMap_assoc]
  rfl

@[simp] theorem qualifiers_any (conditions : List Condition) :
    (Condition.any conditions).qualifiers = conditions.flatMap qualifiers := by
  simp only [qualifiers, written_any, List.flatMap_assoc]
  rfl

@[simp] theorem qualifiers_not (c : Condition) : (Condition.not c).qualifiers = c.qualifiers := by
  simp [qualifiers]

section

variable {d : Dialect} {column : String} (word : IsWord column)

include word

theorem mentions_compare (comparison : Comparison) (operand : Value) :
    Mentions d ((compare comparison column operand).sql d)
      (compare comparison column operand).qualifiers := by
  have sign : '.' ∉ (" " ++ comparison.sign d ++ " ").toList := by
    rw [Comparison.sign_eq_symbol]
    cases comparison.inDialect d <;> decide
  have starts : isApartAtStart (" " ++ comparison.sign d ++ " ").toList = true := by
    rw [String.append_assoc]
    exact startsApart_append _ (by decide) (by decide)
  have text := (Mentions.column (d := d) word sign starts).append (.bound operand)
    fun m n => .inl (by
      rw [textFrom, textFrom, String.append_empty, ← String.append_assoc]
      exact endsApart_append _ (by decide) (by decide))
  simpa [sql, qualifiers, written, leaves, writtenColumn?, column?, String.append_assoc] using text

theorem mentions_between (least greatest : Value) :
    Mentions d ((between column least greatest).sql d)
      (between column least greatest).qualifiers := by
  have upper :=
    Mentions.after_text (d := d) (s := " AND ") (by decide) (by decide) (.bound greatest)
  have bounds := (Mentions.bound (d := d) least).append upper fun m n =>
    .inr (startsApart_append _ (by decide) (by decide))
  have text := (Mentions.column (d := d) (s := " BETWEEN ") word (by decide) (by decide)).append
    bounds fun m n => .inl (by
      rw [textFrom, textFrom, String.append_empty]
      exact endsApart_append _ (by decide) (by decide))
  simpa [sql, qualifiers, written, leaves, writtenColumn?, column?] using text

theorem mentions_oneOf (operands : List Value) :
    Mentions d ((oneOf column operands).sql d) (oneOf column operands).qualifiers := by
  cases operands with
  | nil => exact .plain (s := "1 = 0") (by decide)
  | cons v vs =>
    have list : Mentions d (Sql.joined ", " ((v :: vs).map fun v => [.bound v])) [] := by
      have none : ((v :: vs).flatMap fun _ => ([] : List String)) = [] :=
        List.flatMap_eq_nil_iff.2 fun _ _ => rfl
      rw [← none]
      exact .joined (by decide) (by decide) (by decide) (by decide) fun v _ => .bound v
    have text := (Mentions.column (d := d) (s := " IN (") word (by decide) (by decide)).append
      (list.before_text (s := ")") (by decide) (by decide)) fun m n => .inl (by
        rw [textFrom, textFrom, String.append_empty]
        exact endsApart_append _ (by decide) (by decide))
    simpa [sql, qualifiers, written, leaves, writtenColumn?, column?] using text

theorem mentions_isNull : Mentions d ((isNull column).sql d) (isNull column).qualifiers := by
  simpa [sql, qualifiers, written, leaves, writtenColumn?, column?] using
    Mentions.column (d := d) (s := " IS NULL") word (by decide) (by decide)

theorem mentions_isNotNull :
    Mentions d ((isNotNull column).sql d) (isNotNull column).qualifiers := by
  simpa [sql, qualifiers, written, leaves, writtenColumn?, column?] using
    Mentions.column (d := d) (s := " IS NOT NULL") word (by decide) (by decide)

end

/-- What stands in parentheses keeps its qualifiers. -/
theorem mentions_parenthesized {d : Dialect} {sql : Sql} {xs : List String} {s : String}
    (h : Mentions d sql xs) (plain : '.' ∉ s.toList) (ends : isApartAtEnd s.toList = true) :
    Mentions d ([.text s] ++ sql ++ [.text ")"]) xs := by
  rw [List.append_assoc]
  exact .after_text plain ends (h.before_text (by decide) (by decide))

/-- Several conditions with a word between them, in parentheses. -/
theorem mentions_group {d : Dialect} {conditions : List Condition} {s : String}
    (each : ∀ c ∈ conditions, Mentions d (c.sql d) c.qualifiers) (nonempty : s.toList ≠ [])
    (plain : '.' ∉ s.toList) (starts : isApartAtStart s.toList = true)
    (ends : isApartAtEnd s.toList = true) :
    Mentions d ([.text "("] ++ Sql.joined s (sqlOfEach d conditions) ++ [.text ")"])
      (conditions.flatMap qualifiers) := by
  rw [sqlOfEach_eq_map]
  exact mentions_parenthesized (.joined nonempty plain starts ends each) (by decide) (by decide)

/-- The text of `c` has the qualifiers of the columns that it names, and no others. -/
theorem mentions (d : Dialect) (c : Condition) (words : ∀ name ∈ c.columns, IsWord name) :
    Mentions d (c.sql d) c.qualifiers := by
  induction c with
  | compare comparison column operand =>
    exact mentions_compare (of_columns_leaf words rfl) comparison operand
  | oneOf column operands => exact mentions_oneOf (of_columns_leaf words rfl) operands
  | between column least greatest =>
    exact mentions_between (of_columns_leaf words rfl) least greatest
  | isNull column => exact mentions_isNull (of_columns_leaf words rfl)
  | isNotNull column => exact mentions_isNotNull (of_columns_leaf words rfl)
  | all conditions ih =>
    have each : ∀ c ∈ conditions, Mentions d (c.sql d) c.qualifiers := fun c hc =>
      ih c hc fun name hname => words name (by
        rw [columns_all]
        exact List.mem_flatMap_of_mem hc hname)
    cases conditions with
    | nil => exact .plain (s := "1 = 1") (by decide)
    | cons c rest =>
      rw [qualifiers_all]
      exact mentions_group (s := " AND ") each (by decide) (by decide) (by decide) (by decide)
  | any conditions ih =>
    have each : ∀ c ∈ conditions, Mentions d (c.sql d) c.qualifiers := fun c hc =>
      ih c hc fun name hname => words name (by
        rw [columns_any]
        exact List.mem_flatMap_of_mem hc hname)
    cases conditions with
    | nil => exact .plain (s := "1 = 0") (by decide)
    | cons c rest =>
      rw [qualifiers_any]
      exact mentions_group (s := " OR ") each (by decide) (by decide) (by decide) (by decide)
  | not c ih =>
    have inner := ih (by simpa using words)
    rw [qualifiers_not, sql]
    split
    · exact .after_text (by decide) (by decide) inner
    · exact mentions_parenthesized inner (by decide) (by decide)

end Condition

/-! ## Qualifiers in the terms of a query -/

/-- The columns that the text of a filter names, in reading order. -/
def Filter.written : Filter → List String
  | .matching r => r.equations.flatMap Condition.written
  | .condition c => c.written

namespace Query

variable {q : Query}

/-- A column is written with its own qualifier; where it has none, with that of the table of `q` at
most. -/
theorem qualifier?_columnText (q : Query) (name : String) :
    qualifier? (q.columnText name).toList = qualifier? name.toList ∨
      qualifier? name.toList = none ∧ qualifier? (q.columnText name).toList = some q.root := by
  unfold columnText
  cases rename : q.rename with
  | none => exact .inl rfl
  | some table =>
    dsimp only
    split
    · rename_i own
      have unqualified : Identifier.qualifier? name = none := by simp_all
      have plain := Identifier.qualifier?_eq_none unqualified
      refine .inr ⟨qualifier?_plain plain, ?_⟩
      rw [qualifier?, reference?_qualified table plain, root, rename]
      rfl
    · exact .inl rfl

/-- Where the table of the query is introduced, the qualifiers that are written are introduced if
and only if those of the `names` are. -/
theorem forall_qualifier_columnText {P : String → Prop} (own : P q.root) (names : List String) :
    (∀ x ∈ names.flatMap fun name => (qualifier? (q.columnText name).toList).toList, P x) ↔
      ∀ x ∈ names.flatMap fun name => (qualifier? name.toList).toList, P x := by
  simp only [List.mem_flatMap, Option.mem_toList, forall_exists_index, and_imp]
  constructor
  · intro each x name hname hx
    rcases q.qualifier?_columnText name with same | ⟨none, -⟩
    · exact each x name hname (same ▸ hx)
    · cases none.symm.trans hx
  · intro each x name hname hx
    rcases q.qualifier?_columnText name with same | ⟨-, root⟩
    · exact each x name hname (same ▸ hx)
    · cases root.symm.trans hx
      exact own

section

variable (rename : ∀ name ∈ q.rename, Identifier.isValid name false = true)

include rename

theorem isWord_columnText {name : String} (h : Identifier.isValid name false = true) :
    IsWord (q.columnText name) := by
  have word := isWord_of_isValid h
  unfold columnText
  split
  · rename_i table used
    split
    · exact (isWord_of_isValid (rename table used)).qualified word
    · exact word
  · exact word

theorem mentions_inTerms (d : Dialect) {c : Condition}
    (valid : ∀ name ∈ c.columns, Identifier.isValid name false = true) :
    Mentions d ((c.inTerms q).sql d)
      (c.written.flatMap fun name => (qualifier? (q.columnText name).toList).toList) := by
  have words : ∀ name ∈ (c.inTerms q).columns, IsWord name := by
    intro text htext
    rw [Condition.inTerms, Condition.columns_replaced] at htext
    obtain ⟨name, hname, rfl⟩ := List.mem_map.1 htext
    exact isWord_columnText rename (valid name hname)
  have all := (c.inTerms q).mentions d words
  rwa [Condition.qualifiers, Condition.inTerms, Condition.written_replaced, List.flatMap_map] at all

/-- The text of `f` has the qualifiers with which its columns are written, and no others. -/
theorem mentions_sqlInTerms (d : Dialect) {f : Filter}
    (valid : ∀ name ∈ f.columns, Identifier.isValid name false = true) :
    Mentions d (f.sqlInTerms d q)
      (f.written.flatMap fun name => (qualifier? (q.columnText name).toList).toList) := by
  cases f with
  | condition c => exact mentions_inTerms rename d valid
  | matching r =>
    have each : ∀ c ∈ r.equations, Mentions d ((c.inTerms q).sql d)
        (c.written.flatMap fun name => (qualifier? (q.columnText name).toList).toList) :=
      fun c hc => mentions_inTerms rename d fun name hname =>
        valid name (List.mem_flatMap_of_mem hc hname)
    rw [Filter.sqlInTerms, Filter.written, List.flatMap_assoc]
    split
    · rename_i empty
      rw [List.isEmpty_iff.1 empty]
      exact .plain (s := "1 = 1") (by decide)
    · rw [Condition.sqlOfEach_eq_map, List.map_map]
      exact .joined (by decide) (by decide) (by decide) (by decide) each

end

end Query

end EntityStore
