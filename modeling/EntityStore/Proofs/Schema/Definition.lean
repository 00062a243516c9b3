import EntityStore.Proofs.Keyed
import EntityStore.Proofs.Schema.Default
import EntityStore.Proofs.Statement.Scanning

/-!
# Reading table definitions

The statement that creates a table is read as a list of column definitions, and each of those as a
name, a type and clauses in the order in which they stand. What is read is what the table declares:
no default, whatever its text holds, ends a definition or adds a clause.
-/

namespace EntityStore

namespace Sql

/-! ## Column definitions -/

inductive ClauseWord where
  | primary | key | unique | not | null | default | autoIncrement
  deriving DecidableEq

def clauseWords : List (String × ClauseWord) :=
  [("PRIMARY", .primary), ("KEY", .key), ("UNIQUE", .unique), ("NOT", .not), ("NULL", .null),
    ("DEFAULT", .default), ("AUTO_INCREMENT", .autoIncrement)]

/-- The word of a clause that a part of a statement is, in any case. -/
def Lexeme.clauseWord? : Lexeme → Option ClauseWord
  | word cs => clauseWords.lookup (String.ofList (cs.map Char.toUpper))
  | _ => none

inductive ClauseKind where
  | primaryKey | unique | notNull | default | autoIncrement
  deriving DecidableEq

/-- The clauses in the order in which a definition states them. -/
def ClauseKind.inOrder : List ClauseKind := [primaryKey, unique, notNull, default, autoIncrement]

inductive Clause where
  | primaryKey
  | unique
  | notNull
  | default (literal : Lexeme)
  | autoIncrement

namespace Clause

def kind : Clause → ClauseKind
  | primaryKey => .primaryKey
  | unique => .unique
  | notNull => .notNull
  | default _ => .default
  | autoIncrement => .autoIncrement

def lexemes : Clause → List Lexeme
  | primaryKey => [.word "PRIMARY".toList, .word "KEY".toList]
  | unique => [.word "UNIQUE".toList]
  | notNull => [.word "NOT".toList, .word "NULL".toList]
  | default literal => [.word "DEFAULT".toList, literal]
  | autoIncrement => [.word "AUTO_INCREMENT".toList]

end Clause

/-- The clauses that parts of a statement form, in whatever order and number. -/
def clauses? : List Lexeme → Option (List Clause)
  | [] => some []
  | l :: ls =>
    match l.clauseWord?, ls with
    | some .unique, ls => (clauses? ls).map (.unique :: ·)
    | some .autoIncrement, ls => (clauses? ls).map (.autoIncrement :: ·)
    | some .default, literal :: ls => (clauses? ls).map (.default literal :: ·)
    | some .primary, next :: ls =>
      if next.clauseWord? = some .key then (clauses? ls).map (.primaryKey :: ·) else none
    | some .not, next :: ls =>
      if next.clauseWord? = some .null then (clauses? ls).map (.notNull :: ·) else none
    | _, _ => none

structure Definition where
  name : List Char
  type : List Lexeme
  clauses : List Clause

/-- Read a column definition: a name, a type up to the first word of a clause, and clauses. -/
def readDefinition? : List Lexeme → Option Definition
  | .word name :: ls =>
    (clauses? (ls.dropWhile fun l => l.clauseWord?.isNone)).map fun clauses =>
      ⟨name, ls.takeWhile fun l => l.clauseWord?.isNone, clauses⟩
  | _ => none

/-- The `clauses` are read one after another, as they were written. -/
theorem clauses?_lexemes (clauses : List Clause) :
    clauses? (clauses.flatMap Clause.lexemes) = some clauses := by
  induction clauses with
  | nil => rfl
  | cons clause rest ih =>
    have step : clauses? (clause.lexemes ++ rest.flatMap Clause.lexemes) =
        (clauses? (rest.flatMap Clause.lexemes)).map (clause :: ·) := by
      cases clause <;> rfl
    rw [List.flatMap_cons, step, ih]
    rfl

/-- A clause begins with a word that ends the type before it. -/
theorem type_ended (clauses : List Clause) :
    ((clauses.flatMap Clause.lexemes).takeWhile fun l => l.clauseWord?.isNone) = [] ∧
      ((clauses.flatMap Clause.lexemes).dropWhile fun l => l.clauseWord?.isNone) =
        clauses.flatMap Clause.lexemes := by
  cases clauses with
  | nil => exact ⟨rfl, rfl⟩
  | cons clause rest => cases clause <;> exact ⟨rfl, rfl⟩

theorem readDefinition?_parts {name : List Char} {type : List Lexeme}
    (noClause : ∀ l ∈ type, l.clauseWord? = none) (clauses : List Clause) :
    readDefinition? (.word name :: (type ++ clauses.flatMap Clause.lexemes)) =
      some ⟨name, type, clauses⟩ := by
  have inside : ∀ l ∈ type, l.clauseWord?.isNone = true := fun l hl => by simp [noClause l hl]
  rw [readDefinition?, List.dropWhile_append_of_pos inside, List.takeWhile_append_of_pos inside,
    (type_ended clauses).1, (type_ended clauses).2, clauses?_lexemes, List.append_nil]
  rfl

theorem whole_lexemes {clauses : List Clause}
    (literals : ∀ literal, .default literal ∈ clauses → Whole [literal]) :
    Whole (clauses.flatMap Clause.lexemes) := by
  induction clauses with
  | nil => exact passes_nil 0
  | cons clause rest ih =>
    have first : Whole clause.lexemes := by
      cases clause with
      | default literal =>
        exact (passes_word 0 _).append (literals literal List.mem_cons_self)
      | primaryKey | notNull => exact (passes_word 0 _).append (passes_word 0 _)
      | unique | autoIncrement => exact passes_word 0 _
    rw [List.flatMap_cons]
    exact first.append (ih fun literal later => literals literal (List.mem_cons_of_mem _ later))

/-! ## Types -/

/-- A text that scans as a type: it stays together, and none of its words begins a clause. -/
def ScansAsType (text : String) : Prop :=
  ∃ ls, scan? text.toList = some ls ∧ Whole ls ∧ ∀ l ∈ ls, l.clauseWord? = none

theorem ScansAsType.word {text : String} (unbroken : Unbroken text.toList)
    (noClause : (Lexeme.word text.toList).clauseWord? = none) : ScansAsType text := by
  refine ⟨[.word text.toList], scan?_word unbroken, passes_word 0 _, ?_⟩
  intro l hl
  rw [List.mem_singleton.1 hl]
  exact noClause

theorem clauseWord?_digits (n : Nat) : (Lexeme.word (Nat.toDigits 10 n)).clauseWord? = none :=
  Text.lookup_toDigits (by decide) n

theorem clauseWord?_names {names : List String}
    (noClause : ∀ name ∈ names, (Lexeme.word name.toList).clauseWord? = none) :
    ∀ l ∈ [Lexeme.comma].intercalate (nameParts names), l.clauseWord? = none := by
  induction names with
  | nil => exact fun l hl => nomatch hl
  | cons name rest ih =>
    obtain ⟨first, others⟩ := List.forall_mem_cons.1 noClause
    have word : ∀ l ∈ [Lexeme.word name.toList], l.clauseWord? = none :=
      List.forall_mem_singleton.2 first
    cases rest with
    | nil => exact word
    | cons next rest =>
      have comma : ∀ l ∈ [Lexeme.comma], l.clauseWord? = none := List.forall_mem_singleton.2 rfl
      rw [nameParts, List.map_cons, List.map_cons, List.intercalate_cons_cons]
      exact List.forall_mem_append.2 ⟨List.forall_mem_append.2 ⟨word, comma⟩, ih others⟩

theorem ScansAsType.sized (base : String) (unbroken : Unbroken base.toList)
    (noClause : (Lexeme.word base.toList).clauseWord? = none) (sizes : List Nat) :
    ScansAsType (base ++ "(" ++ ",".intercalate (sizes.map toString) ++ ")") := by
  have numbers : ∀ size ∈ sizes.map toString, Unbroken size.toList :=
    List.forall_mem_map.2 fun size _ => by
      rw [Text.toList_toString]
      exact unbroken_digits size
  have noClauses : ∀ size ∈ sizes.map toString, (Lexeme.word size.toList).clauseWord? = none :=
    List.forall_mem_map.2 fun size _ => by
      rw [Text.toList_toString]
      exact clauseWord?_digits size
  have comma : Separator "," [.comma] := ⟨by decide, scan?_single rfl, rfl, rfl⟩
  have opening : Separator "(" [.opening] := ⟨by decide, scan?_single rfl, rfl, rfl⟩
  have list := scan?_intercalate comma (scan?_nameParts numbers)
  refine ⟨[.word base.toList] ++ [.opening] ++
    [Lexeme.comma].intercalate (nameParts (sizes.map toString)) ++ [.closing], ?_, ?_, ?_⟩
  · rw [String.toList_append, String.toList_append, String.toList_append]
    exact scan?_append (scan?_between opening (scan?_word unbroken) list)
      (scan?_single (c := ')') rfl) (.inr rfl)
  · exact (((passes_word 0 _).append (passes_opening 0)).append (passes_names _)).append
      (passes_closing 0)
  · have first : ∀ l ∈ [Lexeme.word base.toList], l.clauseWord? = none :=
      List.forall_mem_singleton.2 noClause
    have sign : ∀ l ∈ [Lexeme.opening], l.clauseWord? = none := List.forall_mem_singleton.2 rfl
    have last : ∀ l ∈ [Lexeme.closing], l.clauseWord? = none := List.forall_mem_singleton.2 rfl
    simp only [List.forall_mem_append]
    exact ⟨⟨⟨first, sign⟩, clauseWord?_names noClauses⟩, last⟩

/-- Every type that a dialect has by itself scans as one. -/
theorem storedIn_scansAsType (family : Family) (type : ColumnType) :
    ScansAsType (type.storedIn family) := by
  have words : type.storedIn family = "DOUBLE PRECISION" ∨
      Unbroken (type.storedIn family).toList ∧
        (Lexeme.word (type.storedIn family).toList).clauseWord? = none := by
    cases family <;> cases type <;> decide
  rcases words with two | ⟨unbroken, noClause⟩
  · rw [two]
    have scanned : scan? "DOUBLE PRECISION".toList =
        some [.word "DOUBLE".toList, .word "PRECISION".toList] := by cbv
    exact ⟨_, scanned, (passes_word 0 _).append (passes_word 0 _), by decide⟩
  · exact .word unbroken noClause

end Sql

open Sql

/-! ## Literals -/

/-- The literal of a value as it is scanned. -/
def Value.lexeme : Value → Lexeme
  | .text s => .text s.toList
  | .json j => .text j.chars
  | .bytes bs => .text (Value.bytes bs).asJson.chars
  | .date d => .text (Value.date d).asJson.chars
  | .instant t => .text (Value.instant t).asJson.chars
  | v => .word v.literal

theorem Value.scan?_literal {v : Value} (whole : ∀ x, v ≠ .float x) :
    scan? v.literal = some [v.lexeme] := by
  cases v with
  | float x => exact absurd rfl (whole x)
  | null => exact scan?_word (by decide)
  | bool b => cases b <;> exact scan?_word (by decide)
  | int i =>
    refine scan?_word ⟨?_, ?_⟩
    · show Json.intChars i ≠ []
      unfold Json.intChars
      split
      · exact List.cons_ne_nil _ _
      · exact Nat.toDigits_ne_nil
    · intro c hc
      rcases Json.intChars_digits i c hc with rfl | digit
      · decide
      · exact endsWord_of_isDigit digit
  | text | json | bytes | date | instant => exact scan?_quoted _

theorem Value.whole_lexeme (v : Value) : Whole [v.lexeme] := by
  cases v with
  | null | bool | int | float => exact passes_word 0 _
  | text | json | bytes | date | instant => exact passes_text 0 _

/-! ## Columns -/

theorem filter_cons_eq {α : Type} (p : α → Bool) (a : α) (as : List α) :
    (a :: as).filter p = (if p a then [a] else []) ++ as.filter p := by
  rw [List.filter_cons]
  split <;> rfl

namespace Column

/-- A column whose definition can be read: its name is one word, the type stated for `d`, if any, is
one word that begins no clause, and its default is no binary fraction. -/
structure Readable (c : Column) (d : Dialect) : Prop where
  name : Unbroken c.name.toList
  type : ∀ type, c.override d.family = some type →
    Unbroken type.toList ∧ (Lexeme.word type.toList).clauseWord? = none
  default : ∀ x, c.default? ≠ some (.float x)

/-- Whether `c` calls for a clause in `d`. -/
def callsFor (c : Column) (d : Dialect) : ClauseKind → Bool
  | .primaryKey => c.primary
  | .unique => c.unique
  | .notNull => c.nullable == some false
  | .default => c.default?.isSome
  | .autoIncrement => c.isIncrement && d.family == .mysql

/-- The clauses that `c` calls for, in order. -/
def calledClauses (c : Column) (d : Dialect) : List Clause :=
  (if c.primary then [.primaryKey] else []) ++ (if c.unique then [.unique] else []) ++
  (if c.nullable = some false then [.notNull] else []) ++
  (c.default?.map fun v => Clause.default v.lexeme).toList ++
  (if c.callsFor d .autoIncrement then [.autoIncrement] else [])

variable {c : Column} {d : Dialect}

theorem map_kind_ite (p : Prop) [Decidable p] (clause : Clause) :
    (if p then [clause] else []).map Clause.kind = if p then [clause.kind] else [] := by
  split <;> rfl

theorem kinds_calledClauses (c : Column) (d : Dialect) :
    (c.calledClauses d).map Clause.kind = ClauseKind.inOrder.filter (c.callsFor d) := by
  have notNull : (c.nullable == some false) = true ↔ c.nullable = some false := beq_iff_eq
  have default : ((c.default?.map fun v => Clause.default v.lexeme).toList).map Clause.kind =
      if c.default?.isSome then [.default] else [] := by
    cases c.default? <;> rfl
  simp only [calledClauses, List.map_append, map_kind_ite, default]
  simp only [ClauseKind.inOrder, filter_cons_eq, List.filter_nil, List.append_nil,
    List.append_assoc, callsFor, Clause.kind, notNull]
  rfl

/-- A clause that is there under the condition `p` scans as what it is. -/
theorem scan?_ite {p : Prop} [Decidable p] {text : String} {clause : Clause}
    (scanned : scan? text.toList = some clause.lexemes) :
    List.Forall₂ (fun text clause => scan? text.toList = some (Clause.lexemes clause))
      (if p then [text] else []) (if p then [clause] else []) := by
  split
  · exact .cons scanned .nil
  · exact .nil

theorem scan?_default {v : Value} (whole : ∀ x, v ≠ .float x) :
    scan? ("DEFAULT " ++ String.ofList v.literal).toList =
      some (Clause.default v.lexeme).lexemes := by
  have word : scan? "DEFAULT ".toList = some [.word "DEFAULT".toList] := by cbv
  rw [String.toList_append, String.toList_ofList (l := v.literal)]
  exact scan?_append word (Value.scan?_literal whole) (.inl rfl)

theorem clauses_eq (c : Column) : c.clauses =
    (if c.primary then ["PRIMARY KEY"] else []) ++ (if c.unique then ["UNIQUE"] else []) ++
    (if c.nullable = some false then ["NOT NULL"] else []) ++
    (c.default?.map fun v => "DEFAULT " ++ String.ofList v.literal).toList := by
  unfold clauses
  cases c.default? <;> rfl

theorem mark_eq_ite (c : Column) (d : Dialect) :
    (c.typeAndMark d).2 = if c.callsFor d .autoIncrement then ["AUTO_INCREMENT"] else [] := by
  unfold typeAndMark callsFor
  cases d.family <;> simp

theorem scan?_clauses (readable : c.Readable d) :
    List.Forall₂ (fun text clause => scan? text.toList = some (Clause.lexemes clause))
      (c.clauses ++ (c.typeAndMark d).2) (c.calledClauses d) := by
  have primaryKey : scan? "PRIMARY KEY".toList = some Clause.primaryKey.lexemes := by cbv
  have unique : scan? "UNIQUE".toList = some Clause.unique.lexemes := by cbv
  have notNull : scan? "NOT NULL".toList = some Clause.notNull.lexemes := by cbv
  have counted : scan? "AUTO_INCREMENT".toList = some Clause.autoIncrement.lexemes := by cbv
  have default : List.Forall₂ (fun text clause => scan? text.toList = some (Clause.lexemes clause))
      (c.default?.map fun v => "DEFAULT " ++ String.ofList v.literal).toList
      (c.default?.map fun v => Clause.default v.lexeme).toList := by
    cases given : c.default? with
    | none => exact .nil
    | some v =>
      refine .cons (scan?_default fun x float => ?_) .nil
      exact readable.default x (given.trans (congrArg some float))
  rw [clauses_eq, mark_eq_ite]
  exact List.rel_append (List.rel_append (List.rel_append (List.rel_append (scan?_ite primaryKey)
    (scan?_ite unique)) (scan?_ite notNull)) default) (scan?_ite counted)

theorem storedType_scansAsType (readable : c.Readable d) : ScansAsType (c.storedType d) := by
  unfold storedType
  cases given : c.override d.family with
  | none => exact storedIn_scansAsType _ _
  | some type =>
    obtain ⟨unbroken, noClause⟩ := readable.type type given
    exact .word unbroken noClause

theorem sizedType_scansAsType (readable : c.Readable .mysql) : ScansAsType c.sizedType := by
  unfold sizedType
  extract_lets base usual
  split_ifs with lengthy decimal
  · rcases lengthy with same | same
    · rw [same]
      exact .sized "VARCHAR" (by decide) (by decide) [_]
    · rw [same]
      exact .sized "CHAR" (by decide) (by decide) [_]
  · have sizes := ScansAsType.sized "DECIMAL" (by decide) (by decide)
      [c.precision.getD 10, c.scale.getD 2]
    simpa [String.append_assoc] using sizes
  · exact storedType_scansAsType readable

theorem type_scansAsType (readable : c.Readable d) : ScansAsType (c.typeAndMark d).1 := by
  unfold typeAndMark
  cases d with
  | mysql => exact sizedType_scansAsType readable
  | sqlite | d1 | postgres => exact storedType_scansAsType readable

/-- The words behind the name in the short form for a column that the database counts up. -/
def shortWords (c : Column) (d : Dialect) : List String :=
  match d.family with
  | .postgres => [if c.type = .bigInt then "BIGSERIAL" else "SERIAL", "PRIMARY", "KEY"]
  | _ => ["INTEGER", "PRIMARY", "KEY", "AUTOINCREMENT"]

/-- The `part` of a statement defines `c`: it begins with the column's name, and unless it is the
short form for counted columns it is read as a type and those clauses, each once and in their order,
that the column calls for, the default being the column's. -/
structure DefinedBy (d : Dialect) (c : Column) (part : List Lexeme) : Prop where
  scanned : scan? (c.definition d).toList = some part
  named : part.head? = some (.word c.name.toList)
  long : c.hasShortForm d = false → ∃ type clauses,
    readDefinition? part = some ⟨c.name.toList, type, clauses⟩ ∧
      scan? (c.typeAndMark d).1.toList = some type ∧
      clauses.map Clause.kind = ClauseKind.inOrder.filter (c.callsFor d) ∧
      ∀ literal, .default literal ∈ clauses → literal ∈ c.default?.map Value.lexeme
  short : c.hasShortForm d = true → part = wordsOf (c.name :: c.shortWords d)

theorem default_calledClauses {literal : Lexeme} (listed : .default literal ∈ c.calledClauses d) :
    literal ∈ c.default?.map Value.lexeme := by
  simp only [calledClauses, List.mem_append, List.mem_ite_nil_right, List.mem_singleton,
    reduceCtorEq, and_false, or_false, false_or, Option.mem_toList, Option.map_eq_some_iff,
    Clause.default.injEq] at listed
  exact Option.map_eq_some_iff.2 listed

theorem definition_long (readable : c.Readable d) (long : c.hasShortForm d = false) :
    ∃ part, c.DefinedBy d part ∧ Whole part := by
  obtain ⟨type, scanned, whole, noClause⟩ := c.type_scansAsType readable
  have each : List.Forall₂ (fun text part => scan? text.toList = some part)
      (c.name :: (c.typeAndMark d).1 :: (c.clauses ++ (c.typeAndMark d).2))
      ([.word c.name.toList] :: type :: (c.calledClauses d).map Clause.lexemes) :=
    .cons (scan?_word readable.name)
      (.cons scanned (List.forall₂_map_right_iff.2 (scan?_clauses readable)))
  have parts := scan?_intercalate separator_blank each
  rw [intercalate_nil_left, List.flatten_cons, List.flatten_cons, ← List.flatMap_def] at parts
  refine ⟨.word c.name.toList :: (type ++ (c.calledClauses d).flatMap Clause.lexemes),
    ⟨?_, rfl, fun _ => ?_, fun short => ?_⟩, ?_⟩
  · rw [definition_eq long]
    exact parts
  · exact ⟨type, c.calledClauses d, readDefinition?_parts noClause _, scanned,
      kinds_calledClauses c d, fun _ => default_calledClauses⟩
  · rw [long] at short
    cases short
  · refine Whole.append (passes_word 0 _) (whole.append (whole_lexemes fun literal listed => ?_))
    obtain ⟨v, -, rfl⟩ := Option.map_eq_some_iff.1 (default_calledClauses listed)
    exact v.whole_lexeme

theorem definition_eq_words (short : c.hasShortForm d = true) :
    c.definition d = " ".intercalate (c.name :: c.shortWords d) := by
  unfold hasShortForm at short
  unfold definition shortWords
  cases family : d.family with
  | sqlite =>
    simp only [family] at short
    simp [short, String.append_assoc]
  | postgres =>
    simp only [family, ← Bool.and_assoc] at short
    simp only [short, if_true]
    split
    · simp [String.append_assoc]
    · simp [String.append_assoc]
  | mysql => simp [family] at short

theorem unbroken_shortWords (c : Column) (d : Dialect) :
    ∀ word ∈ c.shortWords d, Unbroken word.toList := by
  unfold shortWords
  split
  · split <;> decide
  · decide

theorem definition_short (readable : c.Readable d) (short : c.hasShortForm d = true) :
    ∃ part, c.DefinedBy d part ∧ Whole part := by
  refine ⟨wordsOf (c.name :: c.shortWords d), ⟨?_, rfl, fun long => ?_, fun _ => rfl⟩,
    whole_words _⟩
  · rw [definition_eq_words short]
    exact scan?_words (List.forall_mem_cons.2 ⟨readable.name, unbroken_shortWords c d⟩)
  · rw [long] at short
    cases short

theorem exists_definedBy (readable : c.Readable d) : ∃ part, c.DefinedBy d part ∧ Whole part := by
  cases short : c.hasShortForm d with
  | false => exact definition_long readable short
  | true => exact definition_short readable short

end Column

/-! ## Tables -/

namespace Sql

def tableHead : List String := ["CREATE", "TABLE", "IF", "NOT", "EXISTS"]

/-- Read a statement that creates a table: the table's name, and the definitions in parentheses. -/
def readTable? (cs : List Char) : Option (List Char × List (List Lexeme)) :=
  match (scan? cs).bind (after? tableHead) with
  | some (.word name :: .opening :: body) =>
    match cut? 0 body with
    | some (parts, []) => some (name, parts)
    | _ => none
  | _ => none

end Sql

/-- The statement that creates `t` is read as the definitions of its columns, in their order,
whatever texts the defaults are. -/
theorem Table.createStatement_read {t : Table} {d : Dialect} (columns : t.columns ≠ [])
    (name : Unbroken t.name.toList) (readable : ∀ c ∈ t.columns, c.Readable d) :
    ∃ parts, readTable? (t.createStatement d).toList = some (t.name.toList, parts) ∧
      List.Forall₂ (Column.DefinedBy d) t.columns parts := by
  have each : ∀ c ∈ t.columns, ∃ part, c.DefinedBy d part ∧ Whole part := fun c hc =>
    Column.exists_definedBy (readable c hc)
  choose! part defined whole using each
  have definitions : List.Forall₂ (Column.DefinedBy d) t.columns (t.columns.map part) :=
    List.forall₂_map_right_iff.2 (List.forall₂_same.2 defined)
  refine ⟨t.columns.map part, ?_, definitions⟩
  have head : scan? "CREATE TABLE IF NOT EXISTS ".toList = some (wordsOf tableHead) := by cbv
  have opening : Separator " (" [.opening] := ⟨by decide, by cbv, rfl, rfl⟩
  have closing : scan? ")".toList = some [.closing] := scan?_single rfl
  obtain ⟨list, cut⟩ := scan?_list (mt List.map_eq_nil_iff.1 columns)
    (List.forall₂_map_left_iff.2 (definitions.imp fun _ _ definition => definition.scanned))
    (List.forall_mem_map.2 whole)
  have named := scan?_append head (scan?_word name) (.inl rfl)
  have scanned := scan?_append (scan?_between opening named list) closing (.inr rfl)
  have statement : scan? (t.createStatement d).toList = some (wordsOf tableHead ++
      .word t.name.toList :: .opening ::
        ([Lexeme.comma].intercalate (t.columns.map part) ++ [.closing])) := by
    unfold createStatement
    rw [String.toList_append, String.toList_append, String.toList_append, String.toList_append,
      scanned, List.append_assoc, List.append_assoc, List.append_assoc]
    rfl
  rw [readTable?, statement, Option.bind_some, after?_append]
  simp only [cut]

namespace Menu

/-- The remark on a dish, with what ends definitions and begins clauses in its default. -/
def remark : Column where
  name := "remark"
  type := .string
  unique := true
  nullable := some false
  default? := some (.text "chef's, (NOT NULL) DEFAULT '")

/-- The price of a dish, whose type has a comma. -/
def price : Column where
  name := "price"
  type := .decimal
  default? := some (.int (-1))

def dish : Table where
  name := "dish"
  columns := [.primaryGenerated "id" .increment, remark, price]

theorem dish_read :
    dish.createStatement .mysql = "CREATE TABLE IF NOT EXISTS dish (" ++
        "id INT PRIMARY KEY AUTO_INCREMENT, " ++
        "remark VARCHAR(255) UNIQUE NOT NULL DEFAULT 'chef''s, (NOT NULL) DEFAULT ''', " ++
        "price DECIMAL(10,2) DEFAULT -1)" ∧
      (dish.columns ≠ [] ∧ Unbroken dish.name.toList ∧ ∀ c ∈ dish.columns, c.Readable .mysql) ∧
      ∃ parts, readTable? (dish.createStatement .mysql).toList = some ("dish".toList, parts) ∧
        List.Forall₂ (Column.DefinedBy .mysql) dish.columns parts := by
  have readable : ∀ c ∈ dish.columns, c.Readable .mysql := by
    intro c hc
    simp only [dish, List.mem_cons, List.not_mem_nil, or_false] at hc
    rcases hc with rfl | rfl | rfl
    all_goals exact ⟨by decide, fun _ stated => (nomatch stated),
      fun _ float => (nomatch float)⟩
  have columns : dish.columns ≠ [] := List.cons_ne_nil _ _
  have name : Unbroken dish.name.toList := by decide
  exact ⟨by rfl, ⟨columns, name, readable⟩, Table.createStatement_read columns name readable⟩

end Menu

end EntityStore
