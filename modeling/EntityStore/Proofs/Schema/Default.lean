import EntityStore.Proofs.Calendar.RoundTrip
import EntityStore.Proofs.Schema.Literal
import Mathlib.Data.List.Basic

/-!
# Defaults in table definitions

The default of a column stands in the definition of its table as a literal. What it denotes is
compared with the form in which the same value is stored when it is inserted. Dates, instants and
bytes are written as JSON texts, which are not what is stored for them.
-/

namespace EntityStore

open Sql

/-! ## Characters of numbers and dates -/

namespace Json

theorem escapeChar_digit {c : Char} (digit : c.isDigit = true) : escapeChar c = [c] := by
  have printed : ¬ c.toNat < 0x20 := by
    simp only [Char.isDigit, ge_iff_le, Bool.and_eq_true, decide_eq_true_eq] at digit
    have least : '0'.val.toNat ≤ c.val.toNat := digit.1
    have zero : '0'.val.toNat = 48 := rfl
    show ¬ c.val.toNat < 32
    omega
  simp [escapeChar, Text.ne_of_isDigit digit, printed]

/-- The characters of a text that is put in quotes as it is. -/
def Plain (cs : List Char) : Prop := ∀ c ∈ cs, escapeChar c = [c]

theorem Plain.append {a b : List Char} (ha : Plain a) (hb : Plain b) : Plain (a ++ b) :=
  List.forall_mem_append.2 ⟨ha, hb⟩

theorem Plain.cons {c : Char} {cs : List Char} (hc : escapeChar c = [c]) (hcs : Plain cs) :
    Plain (c :: cs) :=
  List.forall_mem_cons.2 ⟨hc, hcs⟩

theorem Plain.padded (width n : Nat) : Plain (Calendar.padded width n) := fun c hc =>
  escapeChar_digit (Calendar.isDigit_padded width n c hc)

theorem Plain.date (d : Calendar.Date) : Plain d.chars := by
  have year : Plain (Calendar.yearChars d.year) := by
    unfold Calendar.yearChars
    split_ifs
    · exact .padded 4 _
    · exact .cons rfl (.padded 4 _)
    · exact .cons rfl (.padded 4 _)
  exact year.append (.cons rfl ((Plain.padded 2 _).append (.cons rfl (.padded 2 _))))

theorem Plain.instant (t : Calendar.Instant) : Plain t.chars :=
  (Plain.date _).append <| .cons rfl <| (Plain.padded 2 _).append <| .cons rfl <|
    (Plain.padded 2 _).append <| .cons rfl <| (Plain.padded 2 _).append <| .cons rfl <|
    (Plain.padded 3 _).append <| .cons rfl fun _ hc => nomatch hc

theorem Plain.quoteChars {cs : List Char} (h : Plain cs) :
    quoteChars cs = '"' :: (cs ++ ['"']) := by
  have itself : cs.flatMap escapeChar = cs := by
    rw [List.flatMap_congr h]
    exact List.flatMap_singleton' cs
  rw [Json.quoteChars, itself]

theorem Plain.chars {cs : List Char} (h : Plain cs) :
    (Json.string (String.ofList cs)).chars = '"' :: (cs ++ ['"']) := by
  rw [Json.chars, String.toList_ofList, h.quoteChars]

/-- A backslash would be escaped itself. -/
theorem Plain.not_mem {cs : List Char} (h : Plain cs) :
    '\\' ∉ (Json.string (String.ofList cs)).chars := by
  have none : '\\' ∉ cs := fun hc => absurd (h _ hc) (by decide)
  simp [h.chars, none]

theorem intChars_digits (i : Int) : ∀ c ∈ intChars i, c = '-' ∨ c.isDigit = true := by
  intro c hc
  unfold intChars at hc
  split_ifs at hc
  · rcases List.mem_cons.1 hc with rfl | hc
    · exact .inl rfl
    · exact .inr (Text.isDigit_toDigits _ c hc)
  · exact .inr (Text.isDigit_toDigits _ c hc)

theorem readInt?_intChars (i : Int) : Text.readInt? (intChars i) = some i := by
  unfold intChars
  split_ifs with negative
  · have value : -(i.natAbs : Int) = i := by omega
    rw [Text.readInt?, Text.readNat?_toDigits]
    exact congrArg some value
  · have value : (i.natAbs : Int) = i := by omega
    rw [Text.readInt?_toDigits, value]

/-- The text of a list of numbers has no backslash. -/
theorem not_mem_array (numbers : List Int) : '\\' ∉ (array (numbers.map .int)).chars := by
  have number : ∀ i, '\\' ∉ intChars i := fun i hc =>
    absurd (intChars_digits i _ hc) (by decide)
  have more : ∀ numbers : List Int, '\\' ∉ itemChars (numbers.map .int) := by
    intro numbers
    induction numbers with
    | nil => decide
    | cons i rest ih => simp [itemChars, chars, number, ih]
  cases numbers with
  | nil => decide
  | cons i rest => simp [chars, number, more]

end Json

/-! ## Defaults -/

namespace Value

/-- A value fits a column of a type. -/
inductive Fits : ColumnType → Value → Prop
  | null (type : ColumnType) : Fits type .null
  | int {type : ColumnType} (whole : type.isWhole = true) (i : Int) : Fits type (.int i)
  | bool (b : Bool) : Fits .boolean (.bool b)
  | text {type : ColumnType} (textual : type ∈ [.string, .text, .richText, .uuid]) (s : String) :
    Fits type (.text s)
  | json (j : Json) : Fits .json (.json j)
  | date (d : Calendar.Date) : Fits .date (.date d)
  | instant (t : Calendar.Instant) : Fits .datetime (.instant t)
  | bytes (bs : List UInt8) : Fits .blob (.bytes bs)

/-- Whether the literal of a value is its JSON text although it is stored in another form. -/
def isMadeJson : Value → Bool
  | .bytes _ | .date _ | .instant _ => true
  | _ => false

/-- The characters that the literal of a value has between its quotes, if it has quotes. -/
def characters : Value → List Char
  | .text s => s.toList
  | .json j => j.chars
  | _ => []

theorem denotes_int (d : Dialect) (i : Int) : Denotes d (Value.int i).literal (.int i) := by
  refine denotes_word ?_ ?_
  · intro c hc
    rcases Json.intChars_digits i c hc with rfl | digit
    · decide
    · have other : ∀ sign : Char, sign.isDigit = false → c ≠ sign :=
        fun _ => Text.ne_of_isDigit digit
      simp [endsLiteral, other]
  · rw [wordConstant?, literal, Json.readInt?_intChars]

theorem denotes_json {d : Dialect} {v : Value} (made : v.isMadeJson = true) :
    Denotes d v.literal (.text v.asJson.compact) := by
  have plain : '\\' ∉ v.asJson.chars := by
    cases v with
    | bytes bs =>
      simpa [asJson, Function.comp_def] using Json.not_mem_array (bs.map fun b => b.toNat)
    | date d => exact (Json.Plain.date d).not_mem
    | instant t => exact (Json.Plain.instant t).not_mem
    | _ => cases made
  have written : v.literal = quoted v.asJson.chars := by
    cases v with
    | bytes | date | instant => rfl
    | _ => cases made
  rw [written, Json.compact]
  exact denotes_quoted_iff.2 fun _ => .of_not_mem plain

theorem not_denotes_text {d : Dialect} {v : Value} (made : v.isMadeJson = true) {cs : List Char}
    (plain : Json.Plain cs) (json : v.asJson = .string (String.ofList cs)) :
    ¬ Denotes d v.literal (.text (String.ofList cs)) := by
  intro denotes
  have same := Value.text.inj (denotes.unique (denotes_json made))
  rw [json, Json.compact, plain.chars, String.ofList_inj] at same
  -- the JSON text is longer than the text by its two quotes
  have length := congrArg List.length same
  simp only [List.length_cons, List.length_append] at length
  omega

end Value

theorem toStorage_eq {c : Column} (plain : c.transformers = []) {v : Value}
    (given : v.isNull = false) : toStorage (some c) v = c.type.toStorage v := by
  simp [toStorage, Column.toStorage, plain, given]

/-- The literal of `v` denotes what is stored for `v` where its backslashes are kept, and only
there. -/
theorem denotes_toStorage_iff {c : Column} (plain : c.transformers = []) {v : Value}
    (fits : v.Fits c.type) (own : v.isMadeJson = false) (d : Dialect) :
    Denotes d v.literal (toStorage (some c) v) ↔ (d.family = .mysql → Unescaped v.characters) := by
  -- the type as a variable of its own, so that the cases can be told apart by it
  obtain ⟨type, same⟩ : ∃ type, c.type = type := ⟨_, rfl⟩
  rw [same] at fits
  cases fits with
  | null => exact iff_of_true (denotes_word (by simp [Value.literal, endsLiteral]) rfl) fun _ => .nil
  | int whole i =>
    have stored : toStorage (some c) (.int i) = .int i := by
      rw [toStorage_eq plain rfl, same]
      cases type <;> first | rfl | cases whole
    rw [stored]
    exact iff_of_true (Value.denotes_int d i) fun _ => .nil
  | bool b =>
    rw [toStorage_eq plain rfl, same]
    cases b
    · exact iff_of_true (denotes_word (by simp [Value.literal, endsLiteral]) rfl) fun _ => .nil
    · exact iff_of_true (denotes_word (by simp [Value.literal, endsLiteral]) rfl) fun _ => .nil
  | text _ s =>
    have stored : toStorage (some c) (.text s) = .text (String.ofList s.toList) := by
      rw [toStorage_eq plain rfl, same, String.ofList_toList]
      cases type <;> rfl
    rw [stored]
    exact denotes_quoted_iff
  | json j =>
    rw [toStorage_eq plain rfl, same]
    exact denotes_quoted_iff
  | date | instant | bytes => cases own

/-- The literal of a date, an instant or bytes never denotes what is stored for them. -/
theorem not_denotes_toStorage {c : Column} (plain : c.transformers = []) {v : Value}
    (fits : v.Fits c.type) (made : v.isMadeJson = true) (d : Dialect) :
    ¬ Denotes d v.literal (toStorage (some c) v) := by
  obtain ⟨type, same⟩ : ∃ type, c.type = type := ⟨_, rfl⟩
  rw [same] at fits
  cases fits with
  | date date =>
    rw [toStorage_eq plain rfl, same]
    exact Value.not_denotes_text rfl (.date date) rfl
  | instant t =>
    rw [toStorage_eq plain rfl, same]
    exact Value.not_denotes_text rfl (.instant t) rfl
  | bytes bs =>
    rw [toStorage_eq plain rfl, same]
    intro denotes
    cases denotes.unique (Value.denotes_json rfl)
  | _ => cases made

/-! ## Values read back from defaults -/

namespace Calendar

theorem digits_of_quote {least : Nat} (some : 0 < least) (most : Nat) (cs : List Char) :
    digits least most ('"' :: cs) = none := by
  have run : (('"' :: cs).take most).takeWhile Char.isDigit = [] := by
    cases most with
    | zero => rfl
    | succ most => simp
  simp only [digits, run]
  rw [if_pos (by simpa using some)]

theorem plainDate_of_quote (cs : List Char) : plainDate ('"' :: cs) = none := by
  have trimmed : Text.trimStart ('"' :: cs) = '"' :: cs :=
    List.dropWhile_cons_of_neg (by decide)
  have year : plainYear ('"' :: cs) = none := by
    rw [plainYear, trimmed]
    show (digits 1 4 ('"' :: cs)).map _ = none
    rw [digits_of_quote (by decide), Option.map_none]
  rw [plainDate, year]
  rfl

theorem Date.read?_of_quote (cs : List Char) : Date.read? ('"' :: cs) = none := by
  rw [Date.read?, plainDate_of_quote]
  rfl

theorem Instant.read?_of_quote (cs : List Char) : Instant.read? ('"' :: cs) = none := by
  rw [Instant.read?, Instant.readInterchange?, digits_of_quote (by decide), Instant.readPlain?,
    plainDate_of_quote]
  rfl

end Calendar

namespace ColumnType

variable {s : String} {cs : List Char} (quote : s.toList = '"' :: cs)

include quote

theorem date_ofStorage_of_quote : date.ofStorage (.text s) = .text s := by
  have none : storedDate? s = none := by
    rw [storedDate?, quote, Calendar.Date.read?_of_quote, Calendar.Instant.read?_of_quote]
    rfl
  show (storedDate? s).getD (.text s) = .text s
  rw [none]
  rfl

theorem datetime_ofStorage_of_quote : datetime.ofStorage (.text s) = .text s := by
  show ((Calendar.Instant.read? s.toList).map Value.instant).getD (.text s) = .text s
  rw [quote, Calendar.Instant.read?_of_quote]
  rfl

end ColumnType

/-- The JSON text that a default leaves in its column is handed out as it is. -/
theorem ofStorage_json {c : Column} (plain : c.transformers = []) {v : Value}
    (fits : v.Fits c.type) (made : v.isMadeJson = true) :
    ofStorage (some c) (.text v.asJson.compact) = .text v.asJson.compact := by
  have compact : ∀ {cs}, Json.Plain cs →
      (Json.string (String.ofList cs)).compact.toList = '"' :: (cs ++ ['"']) := by
    intro cs h
    rw [Json.compact, String.toList_ofList, h.chars]
  have kept : c.type.ofStorage (.text v.asJson.compact) = .text v.asJson.compact := by
    obtain ⟨type, same⟩ : ∃ type, c.type = type := ⟨_, rfl⟩
    rw [same] at fits ⊢
    cases fits with
    | date d => exact ColumnType.date_ofStorage_of_quote (compact (.date d))
    | instant t => exact ColumnType.datetime_ofStorage_of_quote (compact (.instant t))
    | bytes bs => rfl
    | _ => cases made
  simp [ofStorage, Column.ofStorage, plain, kept, Value.isNull]

/-! ## The definition of a column -/

namespace Column

/-- Whether `d` has a short form for the definition of `c`, which states no default. -/
def hasShortForm (c : Column) (d : Dialect) : Bool :=
  c.primary && c.isIncrement && match d.family with
    | .sqlite => c.storedType d == "INTEGER"
    | .postgres => c.postgresType.isNone && c.type.isWhole
    | .mysql => false

/-- The type and the mark of counted columns that `d` writes in the definition of `c`. -/
def typeAndMark (c : Column) (d : Dialect) : String × List String :=
  match d.family with
  | .sqlite | .postgres => (c.storedType d, [])
  | .mysql => (c.sizedType, if c.isIncrement then ["AUTO_INCREMENT"] else [])

theorem definition_eq {c : Column} {d : Dialect} (long : c.hasShortForm d = false) :
    c.definition d = c.define (c.typeAndMark d).1 (c.clauses ++ (c.typeAndMark d).2) := by
  unfold hasShortForm at long
  unfold definition typeAndMark
  cases family : d.family with
  | mysql => rfl
  | sqlite =>
    simp only [family] at long
    simp [long]
  | postgres =>
    simp only [family, ← Bool.and_assoc] at long
    simp [long]

theorem mark_eq (c : Column) (d : Dialect) :
    (c.typeAndMark d).2 = [] ∨ (c.typeAndMark d).2 = ["AUTO_INCREMENT"] := by
  unfold typeAndMark
  split
  · exact .inl rfl
  · exact .inl rfl
  · cases c.isIncrement
    · exact .inl rfl
    · exact .inr rfl

def withoutDefault (c : Column) : Column := { c with default? := none }

theorem define_append (c : Column) (type : String) (clauses : List String) {more : List String}
    (some : more ≠ []) :
    c.define type (clauses ++ more) = c.define type clauses ++ " " ++ " ".intercalate more :=
  String.intercalate_append_of_ne_nil (List.cons_ne_nil _ _) some

/-- The default of a column is the last of its clauses. -/
theorem define_default {c : Column} {v : Value} (given : c.default? = some v) (type : String) :
    c.define type c.clauses =
      c.define type c.withoutDefault.clauses ++ " DEFAULT " ++ String.ofList v.literal := by
  have last : c.clauses = c.withoutDefault.clauses ++ ["DEFAULT " ++ String.ofList v.literal] := by
    simp only [withoutDefault, clauses, given, List.append_nil]
    rfl
  have word : " " ++ ("DEFAULT " ++ String.ofList v.literal) =
      " DEFAULT " ++ String.ofList v.literal := by
    rw [← String.append_assoc]
    rfl
  rw [last, define_append c type _ (List.cons_ne_nil _ _), String.intercalate_singleton,
    String.append_assoc, word, ← String.append_assoc]

/-- The definition of a column states its default behind everything but the mark of counted
columns. -/
theorem definition_default {c : Column} {v : Value} (given : c.default? = some v) {d : Dialect}
    (long : c.hasShortForm d = false) :
    ∃ before after, c.definition d = before ++ " DEFAULT " ++ String.ofList v.literal ++ after ∧
      c.withoutDefault.definition d = before ++ after ∧
      (after = "" ∨ after = " AUTO_INCREMENT") := by
  have others : c.withoutDefault.definition d =
      c.define (c.typeAndMark d).1 (c.withoutDefault.clauses ++ (c.typeAndMark d).2) :=
    definition_eq (c := c.withoutDefault) long
  refine ⟨c.define (c.typeAndMark d).1 c.withoutDefault.clauses, ?_⟩
  rw [definition_eq long, others]
  rcases c.mark_eq d with mark | mark
  · refine ⟨"", ?_, ?_, .inl rfl⟩
    · rw [mark, List.append_nil, define_default given, String.append_empty]
    · rw [mark, List.append_nil, String.append_empty]
  · refine ⟨" AUTO_INCREMENT", ?_, ?_, .inr rfl⟩
    · rw [mark, define_append c _ _ (List.cons_ne_nil _ _), define_default given,
        String.intercalate_singleton, String.append_assoc]
      rfl
    · rw [mark, define_append c _ _ (List.cons_ne_nil _ _), String.intercalate_singleton,
        String.append_assoc]
      rfl

end Column

/-! ## Defaults and inserted values -/

/-- The definition of a column states its default as a literal. It denotes what an insertion of the
same value stores, so that both are read back alike, unless it is the JSON text of a value stored in
another form or, where a dialect takes backslashes for escapes, has one that is not kept. -/
theorem default_denotes_iff {c : Column} (plain : c.transformers = []) {v : Value}
    (given : c.default? = some v) (fits : v.Fits c.type) {d : Dialect}
    (long : c.hasShortForm d = false) :
    (∃ before after, c.definition d = before ++ " DEFAULT " ++ String.ofList v.literal ++ after ∧
      c.withoutDefault.definition d = before ++ after ∧
      (after = "" ∨ after = " AUTO_INCREMENT")) ∧
    (Denotes d v.literal (toStorage (some c) v) ↔
      v.isMadeJson = false ∧ (d.family = .mysql → Unescaped v.characters)) ∧
    (v.isMadeJson = false → (d.family = .mysql → Unescaped v.characters) →
      ∀ w, Denotes d v.literal w →
        ofStorage (some c) w = ofStorage (some c) (toStorage (some c) v)) := by
  have denotes : Denotes d v.literal (toStorage (some c) v) ↔
      v.isMadeJson = false ∧ (d.family = .mysql → Unescaped v.characters) := by
    cases made : v.isMadeJson with
    | true => simp [not_denotes_toStorage plain fits made d]
    | false => simp [denotes_toStorage_iff plain fits made d]
  refine ⟨Column.definition_default given long, denotes, ?_⟩
  intro own kept w other
  rw [other.unique (denotes.2 ⟨own, kept⟩)]

namespace Journal

/-- A text with quotes and a backslash that is kept. -/
def pattern : Column where
  name := "pattern"
  type := .text
  default? := some (.text "'\\%'")

theorem pattern_default_denotes :
    pattern.definition .mysql = "pattern TEXT DEFAULT '''\\%'''" ∧
      (Dialect.mysql.family = .mysql → Unescaped (Value.text "'\\%'").characters) ∧
      Denotes .mysql (Value.text "'\\%'").literal (.text "'\\%'") := by
  have kept : Unescaped ['\'', '\\', '%', '\''] :=
    .plain (by decide) (.wildcard (.inl rfl) (.plain (by decide) .nil))
  obtain ⟨-, denotes, -⟩ := default_denotes_iff (c := pattern) (d := .mysql) rfl rfl
    (.text (by decide) _) rfl
  exact ⟨rfl, fun _ => kept, denotes.2 ⟨rfl, fun _ => kept⟩⟩

def newYear : Calendar.Date := ⟨2024, 1, 2, by decide⟩

def day : Column where
  name := "day"
  type := .date
  default? := some (.date newYear)

def path : Column where
  name := "path"
  type := .text
  default? := some (.text "C:\\new")

def mark : Column where
  name := "mark"
  type := .blob
  default? := some (.bytes [1, 255])

def number : Column where
  name := "number"
  type := .integer
  primary := true
  generation := some .increment
  default? := some (.int 7)

/-- A date is written in double quotes, which are read back with it, and bytes as a list of numbers;
a backslash is lost in MySQL, and the default of a counted column in its short form. -/
theorem defaults_denote_otherwise :
    (day.definition .sqlite = "day TEXT DEFAULT '\"2024-01-02\"'" ∧
      toStorage (some day) (.date newYear) = .text "2024-01-02" ∧
      ¬ Denotes .sqlite (Value.date newYear).literal (.text "2024-01-02") ∧
      Denotes .sqlite (Value.date newYear).literal (.text "\"2024-01-02\"") ∧
      ofStorage (some day) (.text "\"2024-01-02\"") = .text "\"2024-01-02\"") ∧
    (mark.definition .sqlite = "mark BLOB DEFAULT '[1,255]'" ∧
      ¬ Denotes .sqlite (Value.bytes [1, 255]).literal
        (toStorage (some mark) (.bytes [1, 255]))) ∧
    (path.definition .mysql = "path TEXT DEFAULT 'C:\\new'" ∧
      ¬ Denotes .mysql (Value.text "C:\\new").literal
        (toStorage (some path) (.text "C:\\new"))) ∧
    number.definition .sqlite = "number INTEGER PRIMARY KEY AUTOINCREMENT" := by
  have stored : toStorage (some day) (.date newYear) = .text "2024-01-02" := by
    rw [toStorage_eq rfl rfl]
    exact congrArg Value.text (by rfl)
  have json : (Value.date newYear).asJson.compact = "\"2024-01-02\"" := by rfl
  have lost : ¬ Unescaped ['C', ':', '\\', 'n', 'e', 'w'] := by
    rintro (_ | ⟨_, _ | ⟨_, _ | ⟨other, _⟩ | ⟨kept, _⟩⟩⟩)
    · exact other rfl
    · exact absurd kept (by decide)
  refine ⟨⟨by rfl, stored, ?_, ?_, ?_⟩, ⟨by rfl, ?_⟩, ⟨by rfl, ?_⟩, by rfl⟩
  · rw [← stored]
    exact not_denotes_toStorage rfl (.date newYear) rfl .sqlite
  · rw [← json]
    exact Value.denotes_json rfl
  · rw [← json]
    exact ofStorage_json rfl (.date newYear) rfl
  · exact not_denotes_toStorage rfl (.bytes [1, 255]) rfl .sqlite
  · intro denotes
    exact lost ((denotes_toStorage_iff rfl (.text (by decide) _) rfl .mysql).1 denotes rfl)

end Journal

end EntityStore
