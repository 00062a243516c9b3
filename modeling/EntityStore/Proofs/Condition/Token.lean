import EntityStore.Proofs.Condition.Truth
import EntityStore.Proofs.Identifier.Grammar
import Mathlib.Data.List.SplitBy

/-!
# The words of a statement

A text of SQL is cut into words, numbers, signs and placeholders. Characters that can stand in one
word, or in one sign, are taken together as long as they follow one another; every other character
stands for itself, and blanks are left out. Then the placeholders are filled in from a list of
parameters, in their order or by their numbers.

What is said about a text here is said about each of its pieces: two texts are cut apart where one of
them has a character at the cut that joins with no other.
-/

namespace EntityStore.Sql

/-- A word or a sign of a statement. -/
inductive Token where
  /-- The name of a column, with its qualifier. -/
  | name (text : String)
  | number (n : Nat)
  | comparison (c : Comparison)
  | and
  | or
  | not
  | isIn
  | between
  | is
  | null
  | opening
  | closing
  | comma
  /-- A placeholder, with its `number` if it has one. -/
  | placeholder (number : Option Nat)
  /-- A parameter in the place of a placeholder. -/
  | value (v : Value)

/-! ## Cutting a text -/

/-- Whether `c` stands in words: in names, numbers and numbered placeholders. -/
def inWords (c : Char) : Bool := c.isAlphanum || c == '_' || c == '.' || c == '$'

/-- Whether `c` stands in signs of more than one character. -/
def inSigns (c : Char) : Bool := c == '=' || c == '!' || c == '<' || c == '>'

/-- Whether `b` belongs to the word or sign that `a` is in. -/
def continues (a b : Char) : Bool := (inWords a && inWords b) || (inSigns a && inSigns b)

def lexemes (cs : List Char) : List (List Char) := (cs.splitBy continues).filter (· ≠ [' '])

/-- Whether `c` joins with no other character. -/
def isApart (c : Char) : Bool := !inWords c && !inSigns c

theorem continues_apart_left {a : Char} (b : Char) (h : isApart a = true) :
    continues a b = false := by
  simp only [isApart, Bool.and_eq_true, Bool.not_eq_true'] at h
  simp [continues, h]

theorem continues_apart_right (a : Char) {b : Char} (h : isApart b = true) :
    continues a b = false := by
  simp only [isApart, Bool.and_eq_true, Bool.not_eq_true'] at h
  simp [continues, h]

/-- Whether the first character of `cs`, if it has one, joins with none before it. -/
def isApartAtStart (cs : List Char) : Bool := cs.head?.all isApart

/-- Whether the last character of `cs`, if it has one, joins with none after it. -/
def isApartAtEnd (cs : List Char) : Bool := cs.getLast?.all isApart

/-- Whether `as` and `bs` are cut apart where they stand next to each other. -/
def Apart (as bs : List Char) : Prop := isApartAtEnd as = true ∨ isApartAtStart bs = true

theorem lexemes_append {as bs : List Char} (h : Apart as bs) :
    lexemes (as ++ bs) = lexemes as ++ lexemes bs := by
  have cut : ∀ a ∈ as.getLast?, ∀ b ∈ bs.head?, continues a b = false := by
    intro a ha b hb
    rcases h with h | h
    · exact continues_apart_left b ((Option.all_eq_true _ _).1 h a ha)
    · exact continues_apart_right a ((Option.all_eq_true _ _).1 h b hb)
  rw [lexemes, List.splitBy_append cut, List.filter_append]
  rfl

theorem lexemes_word {cs : List Char} (hne : cs ≠ []) (h : ∀ c ∈ cs, inWords c = true) :
    lexemes cs = [cs] := by
  have chain : cs.IsChain fun a b => continues a b = true := by
    refine List.Pairwise.isChain (List.pairwise_iff_forall_sublist.2 ?_)
    intro a b hab
    have ha := h a (hab.subset (by simp))
    have hb := h b (hab.subset (by simp))
    simp [continues, ha, hb]
  have notBlank : cs ≠ [' '] := by
    rintro rfl
    exact absurd (h ' ' (by simp)) (by decide)
  rw [lexemes, List.splitBy_of_isChain hne chain]
  simp [notBlank]

/-! ## Names -/

/-- The words that are no names. -/
def keywords : List String := ["AND", "OR", "NOT", "IN", "BETWEEN", "IS", "NULL", "LIKE", "ILIKE"]

/-- Whether `word` is one of the `keywords`, in any case. -/
def isKeyword (word : List Char) : Bool := keywords.contains (String.ofList (word.map Char.toUpper))

/-- Whether `cs` is a name: segments joined by points, none of them a keyword. -/
def isName (cs : List Char) : Bool :=
  Identifier.areParts false (cs.splitOn '.') && (cs.splitOn '.').all fun part => !isKeyword part

/-- Whether no segment of `text` is a keyword. -/
def FreeOfKeywords (text : String) : Prop :=
  ∀ part ∈ text.toList.splitOn '.', isKeyword part = false

instance (text : String) : Decidable (FreeOfKeywords text) :=
  inferInstanceAs (Decidable (∀ part ∈ text.toList.splitOn '.', isKeyword part = false))

theorem isName_iff (text : String) :
    isName text.toList = true ↔ Identifier.isValid text false = true ∧ FreeOfKeywords text := by
  simp [isName, Identifier.isValid, FreeOfKeywords]

/-- A name qualified by a name is a name. -/
theorem isName_append {as bs : List Char} (ha : isName as = true) (hb : isName bs = true) :
    isName (as ++ '.' :: bs) = true := by
  simp only [isName, Bool.and_eq_true, Identifier.areParts_iff, List.all_eq_true] at *
  rw [List.splitOn_append_cons_self]
  constructor
  · intro part hpart
    rcases List.mem_append.1 hpart with h | h
    · exact ha.1 part h
    · exact hb.1 part h
  · intro part hpart
    rcases List.mem_append.1 hpart with h | h
    · exact ha.2 part h
    · exact hb.2 part h

/-! ## Reading a text -/

/-- The words and signs that are written in one way, but for case. -/
def fixedTokens : List (String × Token) :=
  [("AND", .and), ("OR", .or), ("NOT", .not), ("IN", .isIn), ("BETWEEN", .between), ("IS", .is),
   ("NULL", .null), ("LIKE", .comparison .like), ("ILIKE", .comparison .ilike),
   ("=", .comparison .eq), ("!=", .comparison .ne), (">", .comparison .gt), (">=", .comparison .ge),
   ("<", .comparison .lt), ("<=", .comparison .le), ("(", .opening), (")", .closing), (",", .comma),
   ("?", .placeholder none)]

/-- The token that the characters of a lexeme are. -/
def Token.ofLexeme? : List Char → Option Token
  | '$' :: digits => (Text.readNat? digits).map fun n => .placeholder (some n)
  | cs =>
    if isName cs then some (.name (String.ofList cs))
    else match fixedTokens.lookup (String.ofList (cs.map Char.toUpper)) with
      | some t => some t
      | none => (Text.readNat? cs).map .number

def tokens? (cs : List Char) : Option (List Token) := (lexemes cs).mapM Token.ofLexeme?

theorem tokens?_append {as bs : List Char} {ta tb : List Token} (h : Apart as bs)
    (ha : tokens? as = some ta) (hb : tokens? bs = some tb) :
    tokens? (as ++ bs) = some (ta ++ tb) := by
  unfold tokens? at *
  simp [lexemes_append h, List.mapM_append, ha, hb]

theorem inWords_of_isName {cs : List Char} (h : isName cs = true) {c : Char} (hc : c ∈ cs) :
    inWords c = true ∧ c ≠ '$' := by
  simp only [isName, Bool.and_eq_true] at h
  rcases ((Identifier.areParts_splitOn_iff cs).1 h.1).chars c hc with rfl | htail
  · decide
  · constructor
    · simp only [Identifier.isTail, Bool.or_eq_true] at htail
      simp only [inWords, Bool.or_eq_true]
      tauto
    · rintro rfl
      exact absurd htail (by decide)

theorem tokens?_name {cs : List Char} (h : isName cs = true) :
    tokens? cs = some [.name (String.ofList cs)] := by
  have hne : cs ≠ [] := by
    rintro rfl
    exact absurd h (by decide)
  have single : Token.ofLexeme? cs = some (.name (String.ofList cs)) := by
    unfold Token.ofLexeme?
    split
    · exact absurd rfl (inWords_of_isName h (List.mem_cons_self ..)).2
    · simp [h]
  rw [tokens?, lexemes_word hne fun c hc => (inWords_of_isName h hc).1]
  simp [single]

theorem tokens?_comma : tokens? ", ".toList = some [.comma] := rfl

theorem tokens?_and : tokens? " AND ".toList = some [.and] := rfl

theorem tokens?_or : tokens? " OR ".toList = some [.or] := rfl

theorem tokens?_not : tokens? "NOT ".toList = some [.not] := rfl

theorem tokens?_opening : tokens? "(".toList = some [.opening] := rfl

theorem tokens?_closing : tokens? ")".toList = some [.closing] := rfl

theorem tokens?_notOpening : tokens? "NOT (".toList = some [.not, .opening] := rfl

def placeholderToken (d : Dialect) (number : Nat) : Token :=
  .placeholder (if d.family = .postgres then some number else none)

theorem inWords_of_isDigit {c : Char} (h : c.isDigit = true) : inWords c = true := by
  simp [inWords, Char.isAlphanum, h]

theorem isName_toDigits (n : Nat) : isName (Nat.toDigits 10 n) = false := by
  rw [Bool.eq_false_iff]
  intro name
  simp only [isName, Bool.and_eq_true] at name
  have dotted := (Identifier.areParts_splitOn_iff _).1 name.1
  obtain ⟨c, hc, head⟩ := dotted.exists_head
  have digit := Text.isDigit_toDigits n c hc
  rw [Identifier.isHead_of_isDigit digit] at head
  cases head

theorem tokens?_number (n : Nat) : tokens? (toString n).toList = some [.number n] := by
  have digits := Text.isDigit_toDigits n
  have unfixed : fixedTokens.lookup (String.ofList ((Nat.toDigits 10 n).map Char.toUpper)) = none :=
    Text.lookup_toDigits (by decide) n
  have single : Token.ofLexeme? (Nat.toDigits 10 n) = some (.number n) := by
    unfold Token.ofLexeme?
    split
    · rename_i chars
      exact absurd chars (Text.toDigits_ne_cons rfl n _)
    · rw [isName_toDigits, unfixed, Text.readNat?_toDigits]
      rfl
  rw [Text.toList_toString, tokens?, lexemes_word Nat.toDigits_ne_nil fun c hc =>
    inWords_of_isDigit (digits c hc)]
  simp [single]

theorem toList_numbered (number : Nat) :
    (Dialect.postgres.placeholder number).toList = '$' :: Nat.toDigits 10 number := by
  show ("$" ++ toString number).toList = _
  rw [String.toList_append, Text.toList_toString]
  rfl

theorem tokens?_numbered (number : Nat) :
    tokens? (Dialect.postgres.placeholder number).toList = some [.placeholder (some number)] := by
  have word : ∀ c ∈ '$' :: Nat.toDigits 10 number, inWords c = true := by
    intro c hc
    rcases List.mem_cons.1 hc with rfl | hc
    · decide
    · exact inWords_of_isDigit (Text.isDigit_toDigits number c hc)
  rw [toList_numbered, tokens?, lexemes_word (List.cons_ne_nil _ _) word]
  simp [Token.ofLexeme?, Text.readNat?_toDigits]

theorem tokens?_placeholder (d : Dialect) (number : Nat) :
    tokens? (d.placeholder number).toList = some [placeholderToken d number] := by
  cases d with
  | postgres => exact tokens?_numbered number
  | _ => exact (by rfl : tokens? "?".toList = some [.placeholder none])

/-! ## Filling placeholders in -/

/-- The parameter with a number, counted from 1. -/
def parameter? (params : List Value) : Nat → Option Value
  | 0 => none
  | k + 1 => params[k]?

/-- Put `params` in the places of placeholders. One without number takes the parameter after those
that placeholders before it took, which are counted. -/
def fill? (params : List Value) : Nat → List Token → Option (List Token)
  | _, [] => some []
  | count, .placeholder number :: rest => do
    let v ← parameter? params (number.getD (count + 1))
    return .value v :: (← fill? params (count + 1) rest)
  | count, t :: rest => do return t :: (← fill? params count rest)

def Token.isFilled : Token → Bool
  | .placeholder _ => false
  | _ => true

theorem fill?_append {ts : List Token} (h : ∀ t ∈ ts, t.isFilled = true) (params : List Value)
    (count : Nat) (more : List Token) :
    fill? params count (ts ++ more) = (fill? params count more).map (ts ++ ·) := by
  induction ts with
  | nil => simp
  | cons t rest ih =>
    have hrest := ih fun t ht => h t (List.mem_cons_of_mem _ ht)
    have ht := h t (List.mem_cons_self ..)
    cases t with
    | placeholder number => cases ht
    | _ =>
      simp only [List.cons_append, fill?, hrest]
      cases fill? params count more <;> rfl

/-- The pieces `sql` read as `ts`, with their own parameters in the places of their placeholders,
wherever they stand in a statement. -/
def Reads (d : Dialect) (sql : Sql) (ts : List Token) : Prop :=
  ∀ before after : List Value, ∃ raw,
    tokens? (textFrom d (before.length + 1) sql).toList = some raw ∧
      ∀ more, fill? (before ++ params sql ++ after) before.length (raw ++ more) =
        (fill? (before ++ params sql ++ after) (before.length + (params sql).length) more).map
          (ts ++ ·)

theorem textFrom_append (d : Dialect) (number : Nat) (a b : Sql) :
    textFrom d number (a ++ b) = textFrom d number a ++ textFrom d (number + (params a).length) b := by
  induction a generalizing number with
  | nil => simp [textFrom, params]
  | cons piece rest ih =>
    cases piece with
    | text s => simp [textFrom, params, ih, String.append_assoc]
    | bound v =>
      have hnumber : number + 1 + (params rest).length = number + ((params rest).length + 1) := by
        omega
      simp [textFrom, params, ih, String.append_assoc, hnumber]

namespace Reads

variable {d : Dialect} {a b : Sql} {ta tb : List Token}

theorem append (ha : Reads d a ta) (hb : Reads d b tb)
    (apart : ∀ m n, Apart (textFrom d m a).toList (textFrom d n b).toList) :
    Reads d (a ++ b) (ta ++ tb) := by
  intro before after
  obtain ⟨rawA, readA, fillA⟩ := ha before (params b ++ after)
  obtain ⟨rawB, readB, fillB⟩ := hb (before ++ params a) after
  have start : before.length + 1 + (params a).length = (before ++ params a).length + 1 := by
    simp
    omega
  refine ⟨rawA ++ rawB, ?_, fun more => ?_⟩
  · rw [textFrom_append, String.toList_append, start]
    exact tokens?_append (apart _ _) readA readB
  · have all : before ++ params (a ++ b) ++ after = before ++ params a ++ (params b ++ after) := by
      simp
    have all' : before ++ params a ++ (params b ++ after) = before ++ params a ++ params b ++ after := by
      simp
    rw [all, List.append_assoc rawA rawB more, fillA, all', ← List.length_append, fillB]
    simp [Nat.add_assoc, Function.comp_def]

theorem text {s : String} {ts : List Token} (h : tokens? s.toList = some ts)
    (filled : ∀ t ∈ ts, t.isFilled = true) : Reads d [.text s] ts := by
  intro before after
  refine ⟨ts, ?_, fun more => ?_⟩
  · simpa [textFrom] using h
  · simpa [params] using fill?_append filled _ _ more

theorem bound (v : Value) : Reads d [.bound v] [.value v] := by
  intro before after
  refine ⟨[placeholderToken d (before.length + 1)], ?_, fun more => ?_⟩
  · simpa [textFrom] using tokens?_placeholder d (before.length + 1)
  · have own : parameter? (before ++ [v] ++ after) (before.length + 1) = some v := by
      simp [parameter?]
    have number : (if d.family = .postgres then some (before.length + 1) else none).getD
        (before.length + 1) = before.length + 1 := by
      split <;> rfl
    simp only [params, List.cons_append, List.nil_append, placeholderToken, fill?, number, own]
    cases fill? (before ++ [v] ++ after) (before.length + 1) more <;> simp_all
end Reads

end EntityStore.Sql
