import EntityStore.Json.Printer
import EntityStore.Json.Token
import Mathlib.Data.List.TakeWhile
import Mathlib.Tactic.Common

/-!
# The tokens of a written value

The text of a value is cut into the tokens that the value was written with. Signs and quoted texts
end by themselves; a number or a literal name ends where a sign follows it, so what is said of a
value holds for every rest that begins with one.
-/

namespace EntityStore.Json

/-! ## Values that are written without loss -/

/-- A value without fractions, whose whole numbers have 64 bits, whose objects list their members in
ascending order of the keys, and in which at most `room` arrays and objects stand inside one
another. -/
inductive Fits : Nat → Json → Prop where
  | null (room : Nat) : Fits room .null
  | bool (room : Nat) (b : Bool) : Fits room (.bool b)
  | int (room : Nat) {i : Int} (low : Text.int64Min ≤ i) (high : i ≤ Text.count64Max) :
    Fits room (.int i)
  | string (room : Nat) (s : String) : Fits room (.string s)
  | array {room : Nat} {items : List Json} (each : ∀ item ∈ items, Fits room item) :
    Fits (room + 1) (.array items)
  | object {room : Nat} {members : List (String × Json)}
    (ascending : members.Pairwise fun a b => a.1 < b.1) (each : ∀ m ∈ members, Fits room m.2) :
    Fits (room + 1) (.object members)

mutual

/-- The tokens that a value is written with. -/
def tokens : Json → List Token
  | .string s => [.text (some s.toList)]
  | .array [] => [.openArray, .closeArray]
  | .array (item :: rest) => .openArray :: (item.tokens ++ itemTokens rest)
  | .object [] => [.openObject, .closeObject]
  | .object ((key, value) :: rest) =>
    .openObject :: .text (some key.toList) :: .colon :: (value.tokens ++ memberTokens rest)
  | other => [.scalar (some other)]

/-- The tokens of the items that follow the first one, and of the bracket that ends the array. -/
def itemTokens : List Json → List Token
  | [] => [.closeArray]
  | item :: rest => .comma :: (item.tokens ++ itemTokens rest)

/-- The tokens of the members that follow the first one, and of the brace that ends the object. -/
def memberTokens : List (String × Json) → List Token
  | [] => [.closeObject]
  | (key, value) :: rest =>
    .comma :: .text (some key.toList) :: .colon :: (value.tokens ++ memberTokens rest)

end

/-! ## Reading character by character -/

theorem Mode.tokens_cons {mode next : Mode} {c : Char} {done : List Token}
    (h : mode.step c = some (done, next)) (rest : List Char) :
    mode.tokens (c :: rest) = (next.tokens rest).map (done ++ ·) := by
  rw [Mode.tokens, h]
  cases hrest : next.tokens rest <;> simp [hrest]

theorem Mode.tokens_silent {mode next : Mode} {c : Char} (h : mode.step c = some ([], next))
    (rest : List Char) : mode.tokens (c :: rest) = next.tokens rest := by
  rw [Mode.tokens_cons h]
  cases next.tokens rest <;> rfl

theorem tokens_sign {c : Char} {t : Token} (h : Mode.start c = ([t], .between)) (rest : List Char) :
    Mode.between.tokens (c :: rest) = (Mode.between.tokens rest).map (t :: ·) := by
  have step : Mode.between.step c = some ([t], .between) := by rw [Mode.step, h]
  exact Mode.tokens_cons step rest

/-! ## Quoted texts -/

theorem hexValue?_hexDigit (n : Nat) : Text.hexValue? (hexDigit n) = some (n % 16) := by
  have each : ∀ m < 16, Text.hexValue? (Nat.digitChar m) = some m := by decide
  exact each (n % 16) (Nat.mod_lt n (by decide))

theorem tokens_letter {letter c : Char} (other : letter ≠ 'u') (h : unescape? letter = some c)
    (seen rest : List Char) :
    (Mode.quoted (some seen)).tokens ('\\' :: letter :: rest) =
      (Mode.quoted (some (c :: seen))).tokens rest := by
  have backslash : (Mode.quoted (some seen)).step '\\' = some ([], .escape (some seen)) := rfl
  have named : (Mode.escape (some seen)).step letter = some ([], .quoted (some (c :: seen))) := by
    rw [Mode.step, Mode.afterBackslash, if_neg other, h]
    rfl
  rw [Mode.tokens_silent backslash, Mode.tokens_silent named]

theorem Mode.step_hex {seen : Option (List Char)} {high : Option Nat} (value : Nat) {count : Nat}
    (more : count < 3) (n : Nat) :
    (Mode.hex seen high value count).step (hexDigit n) =
      some ([], .hex seen high (value * 16 + n % 16) (count + 1)) := by
  simp [Mode.step, hexValue?_hexDigit, more]

theorem Mode.step_hex_last {seen : Option (List Char)} {high : Option Nat} (value n : Nat) :
    (Mode.hex seen high value 3).step (hexDigit n) =
      some ([], Mode.ofUnit seen high (value * 16 + n % 16)) := by
  simp [Mode.step, hexValue?_hexDigit]

/-- A character below the blank is written by its number. -/
theorem tokens_number {c : Char} (small : c.toNat < 0x20) (seen rest : List Char) :
    (Mode.quoted (some seen)).tokens
        ('\\' :: 'u' :: '0' :: '0' :: hexDigit (c.toNat / 16) :: hexDigit c.toNat :: rest) =
      (Mode.quoted (some (c :: seen))).tokens rest := by
  have backslash : (Mode.quoted (some seen)).step '\\' = some ([], .escape (some seen)) := rfl
  have four : (Mode.escape (some seen)).step 'u' = some ([], .hex (some seen) none 0 0) := rfl
  have first : (Mode.hex (some seen) none 0 0).step '0' = some ([], .hex (some seen) none 0 1) := rfl
  have second : (Mode.hex (some seen) none 0 1).step '0' = some ([], .hex (some seen) none 0 2) := rfl
  have value : (0 * 16 + c.toNat / 16 % 16) * 16 + c.toNat % 16 = c.toNat := by omega
  -- so small a number is no half of a pair
  have unit : Mode.ofUnit (some seen) none c.toNat = .quoted (some (c :: seen)) := by
    have noHigh : ¬ 0xD800 ≤ c.toNat := by omega
    have noLow : ¬ 0xDC00 ≤ c.toNat := by omega
    simp [Mode.ofUnit, noHigh, noLow, Char.ofNat_toNat]
  rw [Mode.tokens_silent backslash, Mode.tokens_silent four, Mode.tokens_silent first,
    Mode.tokens_silent second, Mode.tokens_silent (Mode.step_hex 0 (by decide) _),
    Mode.tokens_silent (Mode.step_hex_last _ _), value, unit]

/-- Whatever `c` is written as, it is read as itself. -/
theorem tokens_escapeChar (seen : List Char) (c : Char) (rest : List Char) :
    (Mode.quoted (some seen)).tokens (escapeChar c ++ rest) =
      (Mode.quoted (some (c :: seen))).tokens rest := by
  unfold escapeChar
  split_ifs with quote backslash backspace tab line page back small
  · rw [quote]
    exact tokens_letter (by decide) rfl seen rest
  · rw [backslash]
    exact tokens_letter (by decide) rfl seen rest
  · rw [backspace]
    exact tokens_letter (by decide) rfl seen rest
  · rw [tab]
    exact tokens_letter (by decide) rfl seen rest
  · rw [line]
    exact tokens_letter (by decide) rfl seen rest
  · rw [page]
    exact tokens_letter (by decide) rfl seen rest
  · rw [back]
    exact tokens_letter (by decide) rfl seen rest
  · exact tokens_number small seen rest
  · have plain : (Mode.quoted (some seen)).step c = some ([], .quoted (some (c :: seen))) := by
      rw [Mode.step, Mode.inQuotes, if_neg quote, if_neg backslash, if_neg small]
      rfl
    exact Mode.tokens_silent plain rest

theorem tokens_quoted (seen cs rest : List Char) :
    (Mode.quoted (some seen)).tokens (cs.flatMap escapeChar ++ '"' :: rest) =
      (Mode.between.tokens rest).map (.text (some (seen.reverse ++ cs)) :: ·) := by
  induction cs generalizing seen with
  | nil =>
    have step : (Mode.quoted (some seen)).step '"' = some ([.text (some seen.reverse)], .between) :=
      rfl
    rw [List.append_nil]
    exact Mode.tokens_cons step rest
  | cons c cs ih =>
    rw [List.flatMap_cons, List.append_assoc, tokens_escapeChar, ih]
    simp

theorem tokens_quoteChars (cs rest : List Char) :
    Mode.between.tokens (quoteChars cs ++ rest) =
      (Mode.between.tokens rest).map (.text (some cs) :: ·) := by
  have step : Mode.between.step '"' = some ([], .quoted (some [])) := rfl
  have quoted := tokens_quoted [] cs rest
  rw [quoteChars, List.cons_append, Mode.tokens_silent step]
  simpa using quoted

/-! ## Words -/

/-- What follows a word ends it. -/
def EndsWord (rest : List Char) : Prop := ∀ c ∈ rest.head?, endsWord c = true

theorem Mode.start_word {c : Char} (h : endsWord c = false) : Mode.start c = ([], .word [c]) := by
  simp only [endsWord, Bool.or_eq_false_iff, decide_eq_false_iff_not, Option.isSome_eq_false_iff,
    Option.isNone_iff_eq_none] at h
  obtain ⟨⟨space, quote⟩, sign⟩ := h
  simp [Mode.start, space, quote, sign]

theorem tokens_in_word (seen : List Char) {w : List Char} (plain : ∀ c ∈ w, endsWord c = false)
    (rest : List Char) :
    (Mode.word seen).tokens (w ++ rest) = (Mode.word (w.reverse ++ seen)).tokens rest := by
  induction w generalizing seen with
  | nil => rfl
  | cons c w ih =>
    have step : (Mode.word seen).step c = some ([], .word (c :: seen)) := by
      rw [Mode.step, plain c List.mem_cons_self]
      rfl
    have rest := ih (c :: seen) fun d hd => plain d (List.mem_cons_of_mem c hd)
    rw [List.cons_append, Mode.tokens_silent step, rest]
    simp

theorem tokens_word {w : List Char} {t : Token} (written : w ≠ [])
    (plain : ∀ c ∈ w, endsWord c = false) (read : readWord? w = some t) {rest : List Char}
    (ends : EndsWord rest) :
    Mode.between.tokens (w ++ rest) = (Mode.between.tokens rest).map (t :: ·) := by
  obtain ⟨first, others, rfl⟩ := List.exists_cons_of_ne_nil written
  have start : Mode.between.step first = some ([], .word [first]) := by
    rw [Mode.step, Mode.start_word (plain first List.mem_cons_self)]
  rw [List.cons_append, Mode.tokens_silent start,
    tokens_in_word _ fun c hc => plain c (List.mem_cons_of_mem first hc)]
  have whole : (others.reverse ++ [first]).reverse = first :: others := by simp
  cases rest with
  | nil =>
    show Mode.finish (.word (others.reverse ++ [first])) = some [t]
    rw [Mode.finish, whole, read]
    rfl
  | cons c rest =>
    have sign : endsWord c = true := ends c rfl
    have last : (Mode.word (others.reverse ++ [first])).step c =
        some (t :: (Mode.start c).1, (Mode.start c).2) := by
      rw [Mode.step, if_pos sign, whole, read]
      rfl
    have between : Mode.between.step c = some ((Mode.start c).1, (Mode.start c).2) := rfl
    rw [Mode.tokens_cons last, Mode.tokens_cons between]
    cases (Mode.start c).2.tokens rest <;> rfl

/-! ## Numbers -/

/-- The digits of a positive number do not begin with `0`. -/
theorem head?_toDigits {n : Nat} (positive : 0 < n) : (Nat.toDigits 10 n).head? ≠ some '0' := by
  induction n using Nat.strong_induction_on with
  | _ n ih =>
    by_cases short : n < 10
    · have each : ∀ m < 10, 0 < m → Nat.digitChar m ≠ '0' := by decide
      rw [Nat.toDigits_of_lt_base short, List.head?_cons]
      simpa using each n short positive
    · have front := ih (n / 10) (by omega) (by omega)
      obtain ⟨d, ds, digits⟩ :=
        List.exists_cons_of_ne_nil (Nat.toDigits_ne_nil (b := 10) (n := n / 10))
      rw [Nat.toDigits_of_base_le (by decide) (by omega), digits]
      rwa [digits] at front

theorem noLeadingZero (n : Nat) :
    ((Nat.toDigits 10 n).isEmpty ||
      ((Nat.toDigits 10 n).head? = some '0' && 1 < (Nat.toDigits 10 n).length)) = false := by
  have written : (Nat.toDigits 10 n).isEmpty = false := by simp [Nat.toDigits_ne_nil]
  rcases Nat.eq_zero_or_pos n with rfl | positive
  · rfl
  · simp [head?_toDigits positive]

theorem takeWhile_toDigits (n : Nat) :
    (Nat.toDigits 10 n).takeWhile Char.isDigit = Nat.toDigits 10 n :=
  List.takeWhile_eq_self_iff.2 (Text.isDigit_toDigits n)

theorem dropWhile_toDigits (n : Nat) : (Nat.toDigits 10 n).dropWhile Char.isDigit = [] :=
  List.dropWhile_eq_nil_iff.2 (Text.isDigit_toDigits n)

theorem readNumber?_toDigits {n : Nat} (fits : n ≤ Text.count64Max) :
    readNumber? (Nat.toDigits 10 n) = some (some (.int n)) := by
  -- this is what leads the match on the sign into its second branch
  have unsigned : ∀ cs, Nat.toDigits 10 n ≠ '-' :: cs := Text.toDigits_ne_cons rfl n
  simp [readNumber?, takeWhile_toDigits, dropWhile_toDigits, noLeadingZero, Text.ofDigits_eq,
    Nat.ofDigitChars_toDigits, fits]

theorem readNumber?_negative {n : Nat} (positive : 0 < n) (fits : Text.int64Min ≤ -(n : Int)) :
    readNumber? ('-' :: Nat.toDigits 10 n) = some (some (.int (-(n : Int)))) := by
  have inRange : Text.fitsInt64 (-(n : Int)) = true := by
    have top : -(n : Int) ≤ Text.int64Max := by unfold Text.int64Max; omega
    simp [Text.fitsInt64, fits, top]
  simp [readNumber?, takeWhile_toDigits, dropWhile_toDigits, noLeadingZero, Text.ofDigits_eq,
    Nat.ofDigitChars_toDigits, positive, inRange]

/-- A word that begins like a number is neither `null` nor `true` nor `false`. -/
theorem readWord?_number {w : List Char} {j : Json}
    (numeral : ∀ c ∈ w.head?, c = '-' ∨ c.isDigit = true) (read : readNumber? w = some (some j)) :
    readWord? w = some (.scalar (some j)) := by
  have unnamed : ∀ {name : String} {c : Char}, name.toList.head? = some c →
      ¬ (c = '-' ∨ c.isDigit = true) → String.ofList w ≠ name := by
    intro name c first other same
    rw [← same, String.toList_ofList] at first
    exact other (numeral c first)
  unfold readWord?
  split
  · rename_i name
    exact absurd name (unnamed (c := 'n') rfl (by decide))
  · rename_i name
    exact absurd name (unnamed (c := 't') rfl (by decide))
  · rename_i name
    exact absurd name (unnamed (c := 'f') rfl (by decide))
  · rw [read]
    rfl

theorem tokens_intChars {i : Int} (low : Text.int64Min ≤ i) (high : i ≤ Text.count64Max)
    {rest : List Char} (ends : EndsWord rest) :
    Mode.between.tokens (intChars i ++ rest) =
      (Mode.between.tokens rest).map (.scalar (some (.int i)) :: ·) := by
  have plain : ∀ c : Char, c.isDigit = true → endsWord c = false := by
    intro c digit
    have other : ∀ sign : Char, sign.isDigit = false → c ≠ sign := fun _ => Text.ne_of_isDigit digit
    simp [endsWord, isSpace, Token.ofChar?, other ' ' rfl, other '\t' rfl, other '\n' rfl,
      other '\r' rfl, other '"' rfl, other '[' rfl, other ']' rfl, other '\x7b' rfl,
      other '\x7d' rfl, other ',' rfl, other ':' rfl]
  unfold intChars
  split_ifs with negative
  · have number : readNumber? ('-' :: Nat.toDigits 10 i.natAbs) = some (some (.int i)) := by
      have value : i = -(i.natAbs : Int) := by omega
      have read := readNumber?_negative (n := i.natAbs) (by omega) (by omega)
      rwa [← value] at read
    refine tokens_word (List.cons_ne_nil _ _) ?_ (readWord?_number ?_ number) ends
    · intro c hc
      rcases List.mem_cons.1 hc with rfl | hc
      · decide
      · exact plain c (Text.isDigit_toDigits _ c hc)
    · intro c hc
      exact .inl (Option.some.inj hc).symm
  · have number : readNumber? (Nat.toDigits 10 i.natAbs) = some (some (.int i)) := by
      have value : (i.natAbs : Int) = i := by omega
      have read := readNumber?_toDigits (n := i.natAbs) (by omega)
      rwa [value] at read
    refine tokens_word Nat.toDigits_ne_nil ?_ (readWord?_number ?_ number) ends
    · intro c hc
      exact plain c (Text.isDigit_toDigits _ c hc)
    · intro c hc
      exact .inr (Text.isDigit_toDigits _ c (List.mem_of_mem_head? hc))

/-! ## Values -/

/-- The text of `j` is cut into its tokens, whatever comes after its end. -/
def Cuts (j : Json) : Prop :=
  ∀ rest, EndsWord rest →
    Mode.between.tokens (j.chars ++ rest) = (Mode.between.tokens rest).map (j.tokens ++ ·)

theorem EndsWord.sign {c : Char} (h : endsWord c = true) (rest : List Char) :
    EndsWord (c :: rest) := by
  intro first hfirst
  rwa [← Option.some.inj hfirst]

theorem endsWord_itemChars (items : List Json) (rest : List Char) :
    EndsWord (itemChars items ++ rest) := by
  cases items with
  | nil => exact .sign rfl _
  | cons item items => exact .sign rfl _

theorem endsWord_memberChars (members : List (String × Json)) (rest : List Char) :
    EndsWord (memberChars members ++ rest) := by
  cases members with
  | nil => exact .sign rfl _
  | cons m members => exact .sign rfl _

theorem tokens_itemChars {items : List Json} (each : ∀ item ∈ items, Cuts item)
    (rest : List Char) :
    Mode.between.tokens (itemChars items ++ rest) =
      (Mode.between.tokens rest).map (itemTokens items ++ ·) := by
  induction items with
  | nil => exact tokens_sign rfl rest
  | cons item items ih =>
    have first := each item List.mem_cons_self _ (endsWord_itemChars items rest)
    have others := ih fun other h => each other (List.mem_cons_of_mem item h)
    rw [itemChars, List.cons_append, List.append_assoc, tokens_sign rfl, first, others, itemTokens]
    cases Mode.between.tokens rest <;> simp

theorem tokens_memberChars {members : List (String × Json)} (each : ∀ m ∈ members, Cuts m.2)
    (rest : List Char) :
    Mode.between.tokens (memberChars members ++ rest) =
      (Mode.between.tokens rest).map (memberTokens members ++ ·) := by
  induction members with
  | nil => exact tokens_sign rfl rest
  | cons m members ih =>
    obtain ⟨key, value⟩ := m
    have first := each (key, value) List.mem_cons_self _ (endsWord_memberChars members rest)
    have others := ih fun other h => each other (List.mem_cons_of_mem _ h)
    simp only [memberChars, List.cons_append, List.append_assoc]
    rw [tokens_sign rfl, tokens_quoteChars, tokens_sign rfl, first, others, memberTokens]
    cases Mode.between.tokens rest <;> simp

theorem Fits.cuts {room : Nat} {j : Json} (fits : Fits room j) : Cuts j := by
  induction fits with
  | null =>
    intro rest ends
    have plain : ∀ c ∈ chars .null, endsWord c = false := by
      simp [chars, endsWord, isSpace, Token.ofChar?]
    exact tokens_word (List.cons_ne_nil _ _) plain rfl ends
  | bool room b =>
    intro rest ends
    have plain : ∀ c ∈ chars (.bool b), endsWord c = false := by
      cases b <;> simp [chars, endsWord, isSpace, Token.ofChar?]
    cases b with
    | false => exact tokens_word (List.cons_ne_nil _ _) plain rfl ends
    | true => exact tokens_word (List.cons_ne_nil _ _) plain rfl ends
  | int room low high =>
    intro rest ends
    exact tokens_intChars low high ends
  | string room s =>
    intro rest _
    exact tokens_quoteChars s.toList rest
  | @array room items _ ih =>
    intro rest _
    cases items with
    | nil =>
      show Mode.between.tokens ('[' :: ']' :: rest) = _
      rw [tokens_sign rfl, tokens_sign rfl]
      cases Mode.between.tokens rest <;> rfl
    | cons item items =>
      have first := ih item List.mem_cons_self _ (endsWord_itemChars items rest)
      have others := tokens_itemChars (fun other h => ih other (List.mem_cons_of_mem item h)) rest
      rw [chars, List.cons_append, List.append_assoc, tokens_sign rfl, first, others, tokens]
      cases Mode.between.tokens rest <;> simp
  | @object room members _ _ ih =>
    intro rest _
    cases members with
    | nil =>
      show Mode.between.tokens ('\x7b' :: '\x7d' :: rest) = _
      rw [tokens_sign rfl, tokens_sign rfl]
      cases Mode.between.tokens rest <;> rfl
    | cons m members =>
      obtain ⟨key, value⟩ := m
      have first := ih (key, value) List.mem_cons_self _ (endsWord_memberChars members rest)
      have others :=
        tokens_memberChars (fun other h => ih other (List.mem_cons_of_mem (key, value) h)) rest
      simp only [chars, List.cons_append, List.append_assoc]
      rw [tokens_sign rfl, tokens_quoteChars, tokens_sign rfl, first, others, tokens]
      cases Mode.between.tokens rest <;> simp

end EntityStore.Json
