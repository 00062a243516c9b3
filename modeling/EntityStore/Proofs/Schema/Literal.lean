import EntityStore.Schema
import Mathlib.Tactic.Common

/-!
# Literals

A literal is read here as a database reads it: a quote inside a text is written twice, and MySQL
takes a backslash for the beginning of an escape. A text in quotes denotes itself if and only if its
backslashes are kept.
-/

namespace EntityStore

namespace Sql

/-! ## Reading a text in quotes -/

/-- What an escape stands for in MySQL, given the character `c` after its backslash. The wildcards
of patterns keep theirs. -/
def escaped (c : Char) : List Char :=
  if c = '0' then ['\x00']
  else if c = 'b' then ['\x08']
  else if c = 'n' then ['\n']
  else if c = 'r' then ['\r']
  else if c = 't' then ['\t']
  else if c = 'Z' then ['\x1a']
  else if c = '%' ∨ c = '_' then ['\\', c]
  else [c]

/-- The text up to the quote that ends it, and what follows that quote. -/
def readText? (escapes : Bool) : List Char → Option (List Char × List Char)
  | [] => none
  | [c] => if c = '\'' then some ([], []) else none
  | c :: e :: cs =>
    if c = '\'' then
      if e = '\'' then (readText? escapes cs).map (Prod.map ('\'' :: ·) id)
      else some ([], e :: cs)
    else if escapes && c == '\\' then (readText? escapes cs).map (Prod.map (escaped e ++ ·) id)
    else (readText? escapes (e :: cs)).map (Prod.map (c :: ·) id)

/-- The text `cs` as it stands between quotes. -/
def doubled (cs : List Char) : List Char :=
  cs.flatMap fun c => if c = '\'' then ['\'', '\''] else [c]

theorem quoted_eq (cs : List Char) : quoted cs = '\'' :: (doubled cs ++ ['\'']) := rfl

@[simp] theorem doubled_quote (cs : List Char) :
    doubled ('\'' :: cs) = '\'' :: '\'' :: doubled cs := rfl

theorem doubled_cons {c : Char} (other : c ≠ '\'') (cs : List Char) :
    doubled (c :: cs) = c :: doubled cs := by
  simp [doubled, other]

section

variable {escapes : Bool} {c : Char} {cs rest : List Char}

theorem readText?_quote :
    readText? escapes ('\'' :: '\'' :: cs) =
      (readText? escapes cs).map (Prod.map ('\'' :: ·) id) := by
  simp [readText?]

theorem readText?_end (ends : rest.head? ≠ some '\'') :
    readText? escapes ('\'' :: rest) = some ([], rest) := by
  cases rest with
  | nil => simp [readText?]
  | cons c rest =>
    have other : c ≠ '\'' := by simpa using ends
    simp [readText?, other]

theorem readText?_plain (other : c ≠ '\'') (plain : escapes = true → c ≠ '\\') :
    readText? escapes (c :: cs) = (readText? escapes cs).map (Prod.map (c :: ·) id) := by
  cases cs with
  | nil => simp [readText?, other]
  | cons e cs =>
    have taken : (escapes && c == '\\') = false := by
      cases escapes <;> simp_all
    rw [readText?, if_neg other, taken]
    rfl

theorem readText?_escape :
    readText? true ('\\' :: c :: cs) =
      (readText? true cs).map (Prod.map (escaped c ++ ·) id) := by
  simp [readText?]

/-- A character of a text is read, whether it is written twice or not. -/
theorem readText?_doubled_cons (plain : escapes = true → c ≠ '\\') :
    readText? escapes (doubled (c :: cs) ++ rest) =
      (readText? escapes (doubled cs ++ rest)).map (Prod.map (c :: ·) id) := by
  by_cases quote : c = '\''
  · subst quote
    rw [doubled_quote, List.cons_append, List.cons_append, readText?_quote]
  · rw [doubled_cons quote, List.cons_append, readText?_plain quote plain]

end

/-- Where backslashes are not taken for escapes, every text is read back. -/
theorem readText?_doubled (cs : List Char) {rest : List Char} (ends : rest.head? ≠ some '\'') :
    readText? false (doubled cs ++ '\'' :: rest) = some (cs, rest) := by
  induction cs with
  | nil => exact readText?_end ends
  | cons c cs ih =>
    rw [readText?_doubled_cons (by simp), ih]
    rfl

/-! ## Texts with backslashes -/

theorem escaped_wildcard {c : Char} (kept : c = '%' ∨ c = '_') : escaped c = ['\\', c] := by
  rcases kept with rfl | rfl <;> rfl

/-- Every other escape stands for one character, which is a backslash only if two are written. -/
theorem escaped_single {c : Char} (other : ¬(c = '%' ∨ c = '_')) :
    ∃ e, escaped c = [e] ∧ (e = '\\' → c = '\\') := by
  unfold escaped
  split_ifs
  case neg => exact ⟨c, rfl, id⟩
  all_goals exact ⟨_, rfl, fun h => absurd h (by decide)⟩

/-- Every backslash in a text comes before a wildcard of patterns, so that it is kept. -/
inductive Unescaped : List Char → Prop
  | nil : Unescaped []
  | plain {c : Char} {cs : List Char} (other : c ≠ '\\') (rest : Unescaped cs) : Unescaped (c :: cs)
  | wildcard {c : Char} {cs : List Char} (kept : c = '%' ∨ c = '_') (rest : Unescaped cs) :
    Unescaped ('\\' :: c :: cs)

theorem Unescaped.of_not_mem {cs : List Char} (h : '\\' ∉ cs) : Unescaped cs := by
  induction cs with
  | nil => exact .nil
  | cons c cs ih =>
    rw [List.mem_cons, not_or] at h
    exact .plain (Ne.symm h.1) (ih h.2)

/-- A text whose backslashes are kept is read back. -/
theorem Unescaped.readText?_doubled {cs : List Char} (h : Unescaped cs) {rest : List Char}
    (ends : rest.head? ≠ some '\'') :
    readText? true (doubled cs ++ '\'' :: rest) = some (cs, rest) := by
  induction h with
  | nil => exact readText?_end ends
  | plain other _ ih =>
    rw [readText?_doubled_cons fun _ => other, ih]
    rfl
  | @wildcard c cs kept _ ih =>
    have quote : c ≠ '\'' := by rcases kept with rfl | rfl <;> decide
    rw [doubled_cons (by decide), doubled_cons quote, List.cons_append, List.cons_append,
      readText?_escape, ih, escaped_wildcard kept]
    rfl

theorem doubled_append (a b : List Char) : doubled (a ++ b) = doubled a ++ doubled b :=
  List.flatMap_append

theorem length_doubled_escaped (c : Char) : (doubled (escaped c)).length ≤ 2 := by
  by_cases wildcard : c = '%' ∨ c = '_'
  · rcases wildcard with rfl | rfl <;> decide
  · obtain ⟨e, single, -⟩ := escaped_single wildcard
    rw [single]
    by_cases quote : e = '\'' <;> simp [doubled, quote]

theorem extended_eq_some {f : List Char → List Char} {x : Option (List Char × List Char)}
    {text rest : List Char} (h : x.map (Prod.map f id) = some (text, rest)) :
    ∃ more, x = some (more, rest) ∧ text = f more := by
  obtain ⟨⟨more, rest⟩, rfl, same⟩ := Option.map_eq_some_iff.1 h
  cases same
  exact ⟨more, rfl, rfl⟩

/-- What is read takes up no less room than it needs between quotes. -/
theorem length_readText? {escapes : Bool} {cs text rest : List Char}
    (h : readText? escapes cs = some (text, rest)) :
    (doubled text).length + 1 + rest.length ≤ cs.length := by
  fun_induction readText? escapes cs generalizing text with
  | case1 => cases h
  | case2 =>
    cases h
    decide
  | case3 => cases h
  | case4 cs ih =>
    obtain ⟨more, read, rfl⟩ := extended_eq_some h
    have room := ih read
    simp only [doubled_quote, List.length_cons]
    omega
  | case5 e cs other =>
    cases h
    simp only [doubled, List.flatMap_nil, List.length_nil, List.length_cons]
    omega
  | case6 c e cs other escape ih =>
    -- an escape of two characters stands for one that is doubled, or for itself
    obtain ⟨more, read, rfl⟩ := extended_eq_some h
    have room := ih read
    have short := length_doubled_escaped e
    simp only [doubled_append, List.length_append, List.length_cons]
    omega
  | case7 c e cs other plain ih =>
    obtain ⟨more, read, rfl⟩ := extended_eq_some h
    have room := ih read
    rw [doubled_cons other]
    simp only [List.length_cons] at room ⊢
    omega

/-- A text that begins with a backslash is read back only if a wildcard follows. -/
theorem readText?_backslash {cs rest : List Char}
    (h : readText? true (doubled ('\\' :: cs) ++ '\'' :: rest) = some ('\\' :: cs, rest)) :
    ∃ c more, cs = c :: more ∧ (c = '%' ∨ c = '_') ∧
      readText? true (doubled more ++ '\'' :: rest) = some (more, rest) := by
  rw [doubled_cons (by decide), List.cons_append] at h
  cases cs with
  | nil =>
    -- The backslash takes the quote that was to end the text.
    rw [doubled, List.flatMap_nil, List.nil_append, readText?_escape] at h
    obtain ⟨more, -, same⟩ := extended_eq_some h
    cases same
  | cons c cs =>
    by_cases quote : c = '\''
    · subst quote
      rw [doubled_quote, List.cons_append, readText?_escape] at h
      obtain ⟨more, -, same⟩ := extended_eq_some h
      cases same
    · rw [doubled_cons quote, List.cons_append, readText?_escape] at h
      obtain ⟨more, read, same⟩ := extended_eq_some h
      by_cases wildcard : c = '%' ∨ c = '_'
      · rw [escaped_wildcard wildcard] at same
        cases same
        exact ⟨c, more, rfl, wildcard, read⟩
      · -- Two backslashes are read as one, and then there is no room for the other.
        obtain ⟨e, single, doubleBackslash⟩ := escaped_single wildcard
        rw [single] at same
        obtain ⟨rfl, rfl⟩ := List.cons.inj same
        obtain rfl := doubleBackslash rfl
        have room := length_readText? read
        rw [doubled_cons (by decide)] at room
        simp only [List.length_append, List.length_cons] at room
        omega

/-- A text is read back only if its backslashes are kept. -/
theorem Unescaped.of_readText? {cs rest : List Char}
    (h : readText? true (doubled cs ++ '\'' :: rest) = some (cs, rest)) : Unescaped cs := by
  match cs with
  | [] => exact .nil
  | c :: cs =>
    by_cases backslash : c = '\\'
    · subst backslash
      obtain ⟨e, more, rfl, wildcard, read⟩ := readText?_backslash h
      exact .wildcard wildcard (of_readText? read)
    · rw [readText?_doubled_cons fun _ => backslash] at h
      obtain ⟨more, read, same⟩ := extended_eq_some h
      cases same
      exact .plain backslash (of_readText? read)

/-! ## Reading a literal -/

/-- Whether `c` ends a literal without quotes. -/
def endsLiteral (c : Char) : Bool := c == ' ' || c == ',' || c == ')'

/-- The constant that `word` denotes. -/
def wordConstant? (word : List Char) : Option Value :=
  match Text.readInt? word with
  | some i => some (.int i)
  | none => if String.ofList (word.map Char.toUpper) = "NULL" then some .null else none

/-- The constant that a text begins with, and what follows it. -/
def constant? (d : Dialect) : List Char → Option (Value × List Char)
  | '\'' :: cs =>
    (readText? (d.family == .mysql) cs).map (Prod.map (fun text => .text (String.ofList text)) id)
  | cs =>
    (wordConstant? (cs.takeWhile fun c => !endsLiteral c)).map fun v =>
      (v, cs.dropWhile fun c => !endsLiteral c)

/-- The `literal` denotes `v`, whatever stands behind it. -/
def Denotes (d : Dialect) (literal : List Char) (v : Value) : Prop :=
  ∀ rest, rest.head?.all endsLiteral = true → constant? d (literal ++ rest) = some (v, rest)

section

variable {d : Dialect} {cs : List Char} {v w : Value}

theorem Denotes.unique (hv : Denotes d cs v) (hw : Denotes d cs w) : v = w := by
  have same := (hv [] rfl).symm.trans (hw [] rfl)
  cases same
  rfl

theorem denotes_word {word : List Char} (plain : ∀ c ∈ word, c ≠ '\'' ∧ endsLiteral c = false)
    (h : wordConstant? word = some v) : Denotes d word v := by
  intro rest ends
  have inside : ∀ c ∈ word, (!endsLiteral c) = true := fun c hc => by simp [(plain c hc).2]
  have noMore : rest.takeWhile (fun c => !endsLiteral c) = [] ∧
      rest.dropWhile (fun c => !endsLiteral c) = rest := by
    cases rest with
    | nil => exact ⟨rfl, rfl⟩
    | cons c rest => simp_all
  have unquoted : ∀ cs, word ++ rest ≠ '\'' :: cs := by
    cases word with
    | nil => cases h
    | cons c word =>
      intro cs same
      exact (plain c List.mem_cons_self).1 (List.cons.inj same).1
  rw [constant?.eq_2 d _ unquoted, List.takeWhile_append_of_pos inside,
    List.dropWhile_append_of_pos inside, noMore.1, noMore.2, List.append_nil, h]
  rfl

/-- A quoted text denotes the text where its backslashes are kept, and only there. -/
theorem denotes_quoted_iff : Denotes d (quoted cs) (.text (String.ofList cs)) ↔
    (d.family = .mysql → Unescaped cs) := by
  have start : ∀ rest, quoted cs ++ rest = '\'' :: (doubled cs ++ '\'' :: rest) := by
    intro rest
    rw [quoted_eq, List.cons_append, List.append_assoc]
    rfl
  constructor
  · intro h mysql
    have read := h [] rfl
    rw [start, constant?, mysql] at read
    obtain ⟨⟨text, rest⟩, whole, same⟩ := Option.map_eq_some_iff.1 read
    simp only [Prod.map, Prod.mk.injEq, Value.text.injEq, String.ofList_inj, id] at same
    obtain ⟨rfl, rfl⟩ := same
    exact .of_readText? whole
  · intro kept rest ends
    have noQuote : rest.head? ≠ some '\'' := by
      intro quote
      rw [quote] at ends
      exact absurd ends (by decide)
    rw [start, constant?]
    by_cases mysql : d.family = .mysql
    · rw [mysql, BEq.rfl, (kept mysql).readText?_doubled noQuote]
      rfl
    · rw [beq_eq_false_iff_ne.2 mysql, readText?_doubled cs noQuote]
      rfl

end

end Sql

end EntityStore
