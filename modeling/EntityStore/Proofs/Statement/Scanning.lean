import EntityStore.Proofs.Schema.Literal
import Mathlib.Data.List.Forall2
import Mathlib.Data.List.TakeWhile

/-!
# Scanning statements that have literals

A statement is scanned from left to right into words, texts in quotes, parentheses and commas.
Inside a text nothing but a doubled quote is an escape; a word goes on up to a blank, a quote, a
comma or a parenthesis. A list in parentheses is cut at the commas that stand in no other
parentheses. Two texts next to each other are scanned one after the other if one of them has a
blank, a comma or a parenthesis where they meet.
-/

namespace EntityStore.Sql

/-- A part of a statement. -/
inductive Lexeme where
  | word (cs : List Char)
  /-- A text in quotes, as it reads without them. -/
  | text (cs : List Char)
  | opening
  | closing
  | comma
  deriving DecidableEq

/-! ## Scanning -/

/-- Whether `c` keeps apart what stands before and behind it. -/
def separates (c : Char) : Bool := c == ' ' || c == ',' || c == '(' || c == ')'

/-- Whether a word ends before `c`. -/
def endsWord (c : Char) : Bool := separates c || c == '\''

/-- The part of a statement that a character is for itself. -/
def sign? : Char → Option Lexeme
  | ',' => some .comma
  | '(' => some .opening
  | ')' => some .closing
  | _ => none

def scan? : List Char → Option (List Lexeme)
  | [] => some []
  | c :: cs =>
    if c = ' ' then scan? cs
    else match sign? c with
      | some sign => (scan? cs).map (sign :: ·)
      | none =>
        if c = '\'' then
          match _read : readText? false cs with
          | none => none
          | some (text, rest) => (scan? rest).map (.text text :: ·)
        else
          (scan? (cs.dropWhile fun c => !endsWord c)).map
            (.word (c :: cs.takeWhile fun c => !endsWord c) :: ·)
termination_by cs => cs.length
decreasing_by
  · exact Nat.lt_succ_self _
  · exact Nat.lt_succ_self _
  · have room := length_readText? _read
    simp only [List.length_cons]
    omega
  · have shorter := (List.dropWhile_suffix (fun c => !endsWord c) (l := cs)).length_le
    simp only [List.length_cons]
    omega

example : scan? "DEFAULT 'a''b, (c' UNIQUE".toList = some
    [.word "DEFAULT".toList, .text "a'b, (c".toList, .word "UNIQUE".toList] := by cbv

/-- A text is read up to the quote that is not doubled. -/
theorem readText?_eq_some_iff {cs text rest : List Char} :
    readText? false cs = some (text, rest) ↔
      cs = doubled text ++ '\'' :: rest ∧ rest.head? ≠ some '\'' := by
  constructor
  · intro read
    fun_induction readText? false cs generalizing text with
    | case1 => cases read
    | case2 =>
      cases read
      exact ⟨rfl, by decide⟩
    | case3 => cases read
    | case4 cs ih =>
      obtain ⟨more, inner, rfl⟩ := extended_eq_some read
      obtain ⟨rfl, ends⟩ := ih inner
      exact ⟨rfl, ends⟩
    | case5 e cs other =>
      cases read
      exact ⟨rfl, by simpa using other⟩
    | case6 c e cs other escape ih => cases escape
    | case7 c e cs other plain ih =>
      obtain ⟨more, inner, rfl⟩ := extended_eq_some read
      obtain ⟨same, ends⟩ := ih inner
      rw [doubled_cons other, List.cons_append, ← same]
      exact ⟨rfl, ends⟩
  · rintro ⟨rfl, ends⟩
    exact readText?_doubled text ends

/-- The text `as` is cut apart from `bs` behind it. -/
def Parted (as bs : List Char) : Prop :=
  as.getLast?.all separates = true ∨ bs.head?.all separates = true

theorem Parted.tail {c : Char} {as bs : List Char} (h : Parted (c :: as) bs) : Parted as bs := by
  cases as with
  | nil => exact .inl rfl
  | cons a as => rwa [Parted, List.getLast?_cons_cons] at h

theorem Parted.suffix {as as' bs : List Char} (h : Parted as bs) (suffix : as' <:+ as) :
    Parted as' bs := by
  obtain ⟨front, rfl⟩ := suffix
  induction front with
  | nil => exact h
  | cons c front ih => exact ih h.tail

theorem scan?_blank (cs : List Char) : scan? (' ' :: cs) = scan? cs := by
  rw [scan?, if_pos rfl]

theorem scan?_sign {c : Char} {sign : Lexeme} (is : sign? c = some sign) (cs : List Char) :
    scan? (c :: cs) = (scan? cs).map (sign :: ·) := by
  have other : c ≠ ' ' := by
    rintro rfl
    cases is
  rw [scan?, if_neg other, is]

theorem scan?_single {c : Char} {sign : Lexeme} (is : sign? c = some sign) :
    scan? [c] = some [sign] := by
  rw [scan?_sign is, scan?]
  rfl

theorem scan?_quote {cs text rest : List Char} (read : readText? false cs = some (text, rest)) :
    scan? ('\'' :: cs) = (scan? rest).map (.text text :: ·) := by
  rw [scan?, if_neg (by decide), sign?.eq_4 _ (by decide) (by decide) (by decide)]
  simp only [if_true]
  split
  · rename_i none
    rw [none] at read
    cases read
  · rename_i text' rest' read'
    rw [read'] at read
    cases read
    rfl

theorem scan?_word_cons {c : Char} (goesOn : endsWord c = false) (cs : List Char) :
    scan? (c :: cs) = (scan? (cs.dropWhile fun c => !endsWord c)).map
      (.word (c :: cs.takeWhile fun c => !endsWord c) :: ·) := by
  simp only [endsWord, separates, Bool.or_eq_false_iff, beq_eq_false_iff_ne] at goesOn
  obtain ⟨⟨⟨⟨blank, comma⟩, opening⟩, closing⟩, quote⟩ := goesOn
  rw [scan?, if_neg blank, sign?.eq_4 c comma opening closing]
  simp only [if_neg quote]

theorem endsWord_eq_false {c : Char} (blank : c ≠ ' ') (sign : sign? c = none) (quote : c ≠ '\'') :
    endsWord c = false := by
  have comma : c ≠ ',' := by
    rintro rfl
    cases sign
  have opening : c ≠ '(' := by
    rintro rfl
    cases sign
  have closing : c ≠ ')' := by
    rintro rfl
    cases sign
  simp [endsWord, separates, blank, comma, opening, closing, quote]

theorem word_ended {cs : List Char} (separated : cs.head?.all separates = true) :
    (cs.takeWhile fun c => !endsWord c) = [] ∧ (cs.dropWhile fun c => !endsWord c) = cs := by
  cases cs with
  | nil => exact ⟨rfl, rfl⟩
  | cons c cs =>
    have ends : separates c = true := separated
    simp [endsWord, ends]

theorem scan?_append {as bs : List Char} {la lb : List Lexeme} (ha : scan? as = some la)
    (hb : scan? bs = some lb) (parted : Parted as bs) : scan? (as ++ bs) = some (la ++ lb) := by
  fun_induction scan? as generalizing la with
  | case1 =>
    cases ha
    exact hb
  | case2 cs ih =>
    rw [List.cons_append, scan?_blank]
    exact ih ha parted.tail
  | case3 c cs other sign is ih =>
    obtain ⟨more, inner, rfl⟩ := Option.map_eq_some_iff.1 ha
    rw [List.cons_append, scan?_sign is, ih inner parted.tail]
    rfl
  | case4 => cases ha
  | case5 cs text rest read blank sign ih =>
    obtain ⟨more, inner, rfl⟩ := Option.map_eq_some_iff.1 ha
    obtain ⟨rfl, ends⟩ := readText?_eq_some_iff.1 read
    have behind : Parted rest bs := by
      refine parted.suffix ⟨'\'' :: (doubled text ++ ['\'']), ?_⟩
      simp
    -- where the quote is the last character, the other text cannot begin with one
    have next : (rest ++ bs).head? ≠ some '\'' := by
      cases rest with
      | nil =>
        have separated : bs.head?.all separates = true := by
          refine parted.resolve_left ?_
          rw [← List.cons_append, List.getLast?_concat]
          decide
        intro quote
        rw [List.nil_append] at quote
        rw [quote] at separated
        exact absurd separated (by decide)
      | cons c rest => exact ends
    have again : readText? false (doubled text ++ '\'' :: rest ++ bs) = some (text, rest ++ bs) :=
      readText?_eq_some_iff.2 ⟨by simp, next⟩
    rw [List.cons_append, scan?_quote again, ih inner behind]
    rfl
  | case6 c cs blank sign quote ih =>
    obtain ⟨more, inner, rfl⟩ := Option.map_eq_some_iff.1 ha
    have goesOn := endsWord_eq_false blank sign quote
    have behind := parted.tail.suffix (List.dropWhile_suffix fun c => !endsWord c)
    rw [List.cons_append, scan?_word_cons goesOn]
    by_cases ended : (cs.dropWhile fun c => !endsWord c) = []
    · have inside : ∀ x ∈ cs, (!endsWord x) = true := List.dropWhile_eq_nil_iff.1 ended
      have separated : bs.head?.all separates = true := by
        refine parted.resolve_left ?_
        obtain ⟨last, found⟩ : ∃ last, (c :: cs).getLast? = some last :=
          ⟨_, List.getLast?_eq_some_getLast (List.cons_ne_nil c cs)⟩
        have unended : endsWord last = false := by
          rcases List.mem_cons.1 (List.mem_of_getLast? found) with rfl | later
          · exact goesOn
          · simpa using inside last later
        rw [endsWord, Bool.or_eq_false_iff] at unended
        simp [found, unended.1]
      rw [ended] at inner
      obtain rfl : [] = more := by simpa [scan?] using inner
      rw [List.takeWhile_append_of_pos inside, List.dropWhile_append_of_pos inside,
        (word_ended separated).1, (word_ended separated).2, List.append_nil, hb,
        List.takeWhile_eq_self_iff.2 inside]
      rfl
    · have short : ¬ (cs.takeWhile fun c => !endsWord c).length = cs.length := by
        intro same
        have parts := congrArg List.length (List.takeWhile_append_dropWhile
          (p := fun c => !endsWord c) (l := cs))
        rw [List.length_append, same] at parts
        exact ended (List.eq_nil_of_length_eq_zero (by omega))
      rw [List.takeWhile_append, if_neg short, List.dropWhile_append, if_neg (by simpa using ended),
        ih inner behind]
      rfl

/-! ## Words, texts and lists -/

/-- Characters that all stand in one word. -/
def Unbroken (cs : List Char) : Prop := cs ≠ [] ∧ ∀ c ∈ cs, endsWord c = false

instance (cs : List Char) : Decidable (Unbroken cs) :=
  decidable_of_iff (cs ≠ [] ∧ (cs.all fun c => !endsWord c) = true) (by simp [Unbroken])

theorem scan?_word {cs : List Char} (unbroken : Unbroken cs) : scan? cs = some [.word cs] := by
  obtain ⟨nonempty, inside⟩ := unbroken
  cases cs with
  | nil => exact absurd rfl nonempty
  | cons c cs =>
    have rest : ∀ x ∈ cs, (!endsWord x) = true := fun x hx => by
      simp [inside x (List.mem_cons_of_mem c hx)]
    rw [scan?_word_cons (inside c List.mem_cons_self), List.dropWhile_eq_nil_iff.2 rest,
      List.takeWhile_eq_self_iff.2 rest, scan?]
    rfl

theorem endsWord_of_isDigit {c : Char} (digit : c.isDigit = true) : endsWord c = false := by
  have other : ∀ sign : Char, sign.isDigit = false → c ≠ sign := fun _ => Text.ne_of_isDigit digit
  simp [endsWord, separates, other]

theorem unbroken_digits (n : Nat) : Unbroken (Nat.toDigits 10 n) :=
  ⟨Nat.toDigits_ne_nil, fun c hc => endsWord_of_isDigit (Text.isDigit_toDigits n c hc)⟩

/-- A text is read back from its literal, whatever characters it has. -/
theorem scan?_quoted (cs : List Char) : scan? (quoted cs) = some [.text cs] := by
  have read : readText? false (doubled cs ++ ['\'']) = some (cs, []) :=
    readText?_doubled cs (by decide)
  rw [quoted_eq, scan?_quote read, scan?]
  rfl

theorem intercalate_nil_left {α : Type} (parts : List (List α)) :
    ([] : List α).intercalate parts = parts.flatten := by
  induction parts with
  | nil => rfl
  | cons part parts ih =>
    cases parts with
    | nil => simp
    | cons second parts =>
      rw [List.intercalate_cons_cons, ih, List.append_nil, ← List.flatten_cons]

/-- The text `between` keeps apart what stands before and behind it. -/
structure Separator (between : String) (parts : List Lexeme) : Prop where
  nonempty : between.toList ≠ []
  scanned : scan? between.toList = some parts
  starts : between.toList.head?.all separates = true
  ends : between.toList.getLast?.all separates = true

theorem separator_blank : Separator " " [] := ⟨by decide, by cbv, rfl, rfl⟩

theorem separator_comma : Separator ", " [.comma] := ⟨by decide, by cbv, rfl, rfl⟩

theorem scan?_between {between : String} {as bs : List Char} {la lb lc : List Lexeme}
    (separator : Separator between lb) (ha : scan? as = some la) (hb : scan? bs = some lc) :
    scan? (as ++ between.toList ++ bs) = some (la ++ lb ++ lc) := by
  refine scan?_append (scan?_append ha separator.scanned (.inr separator.starts)) hb (.inl ?_)
  rw [List.getLast?_append_of_ne_nil _ separator.nonempty]
  exact separator.ends

theorem scan?_intercalate {between : String} {lb : List Lexeme} (separator : Separator between lb)
    {texts : List String} {parts : List (List Lexeme)}
    (each : List.Forall₂ (fun text part => scan? text.toList = some part) texts parts) :
    scan? (between.intercalate texts).toList = some (lb.intercalate parts) := by
  induction each with
  | nil => exact scan?.eq_1
  | @cons text part texts parts first rest ih =>
    cases rest with
    | nil => simpa using first
    | cons second rest =>
      rw [String.toList_intercalate, List.map_cons] at ih
      rw [String.toList_intercalate, List.map_cons, List.map_cons, List.intercalate_cons_cons,
        List.intercalate_cons_cons]
      exact scan?_between separator first ih

/-- The parts that `names` are, each by itself. -/
def nameParts (names : List String) : List (List Lexeme) :=
  names.map fun name => [.word name.toList]

theorem scan?_nameParts {names : List String} (unbroken : ∀ name ∈ names, Unbroken name.toList) :
    List.Forall₂ (fun name part => scan? name.toList = some part) names (nameParts names) :=
  List.forall₂_map_right_iff.2 (List.forall₂_same.2 fun name member =>
    scan?_word (unbroken name member))

/-- The parts that `words` are together. -/
def wordsOf (words : List String) : List Lexeme := words.map fun word => .word word.toList

theorem scan?_words {words : List String} (unbroken : ∀ word ∈ words, Unbroken word.toList) :
    scan? (" ".intercalate words).toList = some (wordsOf words) := by
  rw [scan?_intercalate separator_blank (scan?_nameParts unbroken), intercalate_nil_left, nameParts, ← List.flatMap_def, wordsOf, List.map_eq_flatMap]

/-- What follows the `words`. -/
def after? (words : List String) (ls : List Lexeme) : Option (List Lexeme) :=
  (wordsOf words).isPrefixOf? ls

theorem after?_append (words : List String) (rest : List Lexeme) :
    after? words (wordsOf words ++ rest) = some rest :=
  List.isPrefixOf?_eq_some_iff_append_eq.2 rfl

/-! ## Lists in parentheses -/

/-- In how many parentheses the next part of a statement stands. -/
def Lexeme.depthAfter (depth : Nat) : Lexeme → Nat
  | opening => depth + 1
  | closing => depth - 1
  | _ => depth

/-- The parts `ls` in front of the first item of a list. -/
def inFront (ls : List Lexeme) : List (List Lexeme) → List (List Lexeme)
  | [] => []
  | item :: items => (ls ++ item) :: items

/-- The items of a list up to the parenthesis that closes it, cut at the commas that stand in no
other parentheses, and what follows that parenthesis. -/
def cut? : Nat → List Lexeme → Option (List (List Lexeme) × List Lexeme)
  | _, [] => none
  | 0, .closing :: rest => some ([[]], rest)
  | 0, .comma :: rest => (cut? 0 rest).map (Prod.map ([] :: ·) id)
  | depth, l :: rest => (cut? (l.depthAfter depth) rest).map (Prod.map (inFront [l]) id)

/-- Parts of a statement at which a list is not cut, and which lead from `before` parentheses around
them to `after`. -/
def Passes (before : Nat) (ls : List Lexeme) (after : Nat) : Prop :=
  ∀ rest, cut? before (ls ++ rest) = (cut? after rest).map (Prod.map (inFront ls) id)

/-- Parts of a statement that stay together where a list is cut. -/
def Whole (ls : List Lexeme) : Prop := Passes 0 ls 0

theorem inFront_inFront (as bs : List Lexeme) (items : List (List Lexeme)) :
    inFront as (inFront bs items) = inFront (as ++ bs) items := by
  cases items with
  | nil => rfl
  | cons item items => simp [inFront]

theorem Passes.append {a b c : Nat} {as bs : List Lexeme} (ha : Passes a as b)
    (hb : Passes b bs c) : Passes a (as ++ bs) c := by
  intro rest
  rw [List.append_assoc, ha, hb, Option.map_map]
  congr 1
  funext answer
  exact Prod.ext (inFront_inFront as bs answer.1) rfl

theorem passes_nil (depth : Nat) : Passes depth [] depth := by
  intro rest
  have same : Prod.map (inFront []) (id : List Lexeme → List Lexeme) = id := by
    funext answer
    obtain ⟨items, after⟩ := answer
    cases items <;> rfl
  rw [same, Option.map_id]
  rfl

theorem Whole.append {as bs : List Lexeme} (ha : Whole as) (hb : Whole bs) : Whole (as ++ bs) :=
  Passes.append ha hb

theorem passes_word (depth : Nat) (cs : List Char) : Passes depth [.word cs] depth := by
  cases depth <;> exact fun _ => rfl

theorem passes_text (depth : Nat) (cs : List Char) : Passes depth [.text cs] depth := by
  cases depth <;> exact fun _ => rfl

theorem passes_opening (depth : Nat) : Passes depth [.opening] (depth + 1) := by
  cases depth <;> exact fun _ => rfl

theorem passes_closing (depth : Nat) : Passes (depth + 1) [.closing] depth := fun _ => rfl

theorem passes_comma (depth : Nat) : Passes (depth + 1) [.comma] (depth + 1) := fun _ => rfl

theorem whole_words (words : List String) : Whole (wordsOf words) := by
  induction words with
  | nil => exact passes_nil 0
  | cons word rest ih => exact (passes_word 0 word.toList).append ih

/-- Names stay together between other parentheses. -/
theorem passes_names (names : List String) :
    Passes 1 ([Lexeme.comma].intercalate (nameParts names)) 1 := by
  induction names with
  | nil => exact passes_nil 1
  | cons name rest ih =>
    cases rest with
    | nil => exact passes_word 1 _
    | cons next rest => exact ((passes_word 1 _).append (passes_comma 0)).append ih

/-- A list is cut into its `items`, if each of them stays together. -/
theorem cut?_intercalate {items : List (List Lexeme)} (nonempty : items ≠ [])
    (whole : ∀ item ∈ items, Whole item) (rest : List Lexeme) :
    cut? 0 ([Lexeme.comma].intercalate items ++ .closing :: rest) = some (items, rest) := by
  induction items with
  | nil => exact absurd rfl nonempty
  | cons item items ih =>
    have first := whole item List.mem_cons_self
    cases items with
    | nil =>
      rw [List.intercalate_singleton, first]
      simp [cut?, inFront]
    | cons second items =>
      have others := ih (List.cons_ne_nil _ _) fun item member =>
        whole item (List.mem_cons_of_mem _ member)
      rw [List.intercalate_cons_cons, List.append_assoc, List.append_assoc, first]
      show ((cut? 0 ([Lexeme.comma].intercalate (second :: items) ++ .closing :: rest)).map
        (Prod.map ([] :: ·) id)).map (Prod.map (inFront item) id) = _
      rw [others]
      simp [inFront]

/-- A list of `texts` is scanned, and cut into what each of them is if they stay together. -/
theorem scan?_list {texts : List String} {parts : List (List Lexeme)} (nonempty : parts ≠ [])
    (each : List.Forall₂ (fun text part => scan? text.toList = some part) texts parts)
    (whole : ∀ part ∈ parts, Whole part) :
    scan? (", ".intercalate texts).toList = some ([Lexeme.comma].intercalate parts) ∧
      ∀ rest, cut? 0 ([Lexeme.comma].intercalate parts ++ .closing :: rest) =
        some (parts, rest) :=
  ⟨scan?_intercalate separator_comma each, cut?_intercalate nonempty whole⟩

end EntityStore.Sql
