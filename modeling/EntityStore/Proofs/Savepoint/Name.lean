import EntityStore.Proofs.Identifier.Grammar
import EntityStore.Savepoint
import EntityStore.Text.Numeral
import Mathlib.Data.List.GetD
import Mathlib.Data.List.TakeWhile

/-!
# The names that savepoints get

Six letters or digits are drawn for the end of a name, and the count before them ends at an
underscore. So the count can be read back, whatever was drawn: savepoints of different counts have
different names. A name begins with a letter, and nothing but letters, digits and underscores stands
in it, so that it is an identifier.
-/

namespace EntityStore.Savepoint

/-- A text in the form of a name: a `count`, and letters or digits that were drawn one by one and
made lower-case. -/
def IsName (count : Nat) (text : String) : Prop :=
  ∃ draws : List Char, draws.length = 6 ∧ (∀ c ∈ draws, c.isAlphanum = true) ∧
    text = "sp_" ++ toString count ++ "_" ++ String.ofList (draws.map Char.toLower)

/-! ## The random part -/

theorem isAlphanum_alphabet : ∀ c ∈ alphabet, c.isAlphanum = true ∧ c.toLower = c := by
  have all : (alphabet.all fun c => c.isAlphanum && c.toLower == c) = true := by decide
  intro c hc
  simpa using List.all_eq_true.1 all c hc

/-- Letters and digits, made lower-case, are those of the `alphabet`. -/
theorem toLower_mem_alphabet {c : Char} (drawn : c.isAlphanum = true) : c.toLower ∈ alphabet := by
  have ascii : c.toNat < 128 := by
    have tail : Identifier.isTail c = true := by simp [Identifier.isTail, drawn]
    have below {last : Char} (high : c ≤ last) (ascii : last.toNat < 128) : c.toNat < 128 :=
      Nat.lt_of_le_of_lt (UInt32.le_iff_toNat_le.1 high) ascii
    rcases (Identifier.isTail_iff c).1 tail with (⟨-, high⟩ | ⟨-, high⟩) | ⟨-, high⟩ | rfl
    · exact below high (by decide)
    · exact below high (by decide)
    · exact below high (by decide)
    · decide
  have each : ∀ code < 128, (Char.ofNat code).isAlphanum = true →
      (Char.ofNat code).toLower ∈ alphabet := by decide
  have own := each c.toNat ascii
  rw [Char.ofNat_toNat] at own
  exact own drawn

/-- As many characters of the `alphabet` as are asked for, made from `n`. -/
def partOf (length n : Nat) : List Char :=
  (List.range length).map fun place => alphabet.getD (n / Nat.pow 36 place % 36) '0'

theorem partOf_mem (length n : Nat) : ∀ c ∈ partOf length n, c ∈ alphabet := by
  intro c hc
  obtain ⟨place, -, rfl⟩ := List.mem_map.1 hc
  have within : n / Nat.pow 36 place % 36 < alphabet.length := Nat.mod_lt _ (by decide)
  rw [List.getD_eq_getElem _ _ within]
  exact List.getElem_mem within

/-- The first one is that of the lowest place, and the others are made from what is left. -/
theorem partOf_succ (length n : Nat) :
    partOf (length + 1) n = alphabet.getD (n % 36) '0' :: partOf length (n / 36) := by
  have first : n / Nat.pow 36 0 = n := Nat.div_one n
  have shift : ∀ place, n / Nat.pow 36 (place + 1) = n / 36 / Nat.pow 36 place := by
    intro place
    rw [Nat.div_div_eq_div_mul]
    exact congrArg (n / ·) Nat.pow_succ'
  simp only [partOf, List.range_succ_eq_map, List.map_cons, List.map_map, Function.comp_def,
    Nat.succ_eq_add_one, first, shift]

/-- Whatever is `drawn` is made from some number. -/
theorem exists_partOf {part : List Char} (drawn : ∀ c ∈ part, c ∈ alphabet) :
    ∃ n, partOf part.length n = part := by
  induction part with
  | nil => exact ⟨0, rfl⟩
  | cons c rest ih =>
    obtain ⟨n, others⟩ := ih fun other hother => drawn other (List.mem_cons_of_mem c hother)
    obtain ⟨place, within, first⟩ := List.mem_iff_getElem.1 (drawn c List.mem_cons_self)
    have least : place < 36 := within
    have lowest : (place + 36 * n) % 36 = place := by omega
    have left : (place + 36 * n) / 36 = n := by omega
    refine ⟨place + 36 * n, ?_⟩
    rw [List.length_cons, partOf_succ, lowest, left, others, List.getD_eq_getElem _ _ within, first]

/-- The names that `count` can get are the texts of that form. -/
theorem exists_name_iff (count : Nat) (text : String) :
    (∃ random, name count random = text) ↔ IsName (count % counts) text := by
  constructor
  · rintro ⟨random, rfl⟩
    have lower : (partOf 6 random).map Char.toLower = partOf 6 random := by
      conv_rhs => rw [← List.map_id (partOf 6 random)]
      exact List.map_congr_left fun c hc => (isAlphanum_alphabet c (partOf_mem 6 random c hc)).2
    refine ⟨partOf 6 random, rfl, ?_, ?_⟩
    · intro c hc
      exact (isAlphanum_alphabet c (partOf_mem 6 random c hc)).1
    · rw [lower]
      rfl
  · rintro ⟨draws, length, drawn, rfl⟩
    have lower : ∀ c ∈ draws.map Char.toLower, c ∈ alphabet := by
      intro c hc
      obtain ⟨draw, hdraw, rfl⟩ := List.mem_map.1 hc
      exact toLower_mem_alphabet (drawn draw hdraw)
    obtain ⟨random, part⟩ := exists_partOf lower
    rw [List.length_map, length] at part
    refine ⟨random, ?_⟩
    rw [← part]
    rfl

theorem isName_name (count random : Nat) : IsName (count % counts) (name count random) :=
  (exists_name_iff count _).1 ⟨random, rfl⟩

/-! ## The count in a name -/

/-- The number in the digits behind the beginning of a name. -/
def countOf (text : String) : Nat := Text.ofDigits ((text.toList.drop 3).takeWhile Char.isDigit)

namespace IsName

variable {count other : Nat} {text : String}

theorem chars (named : IsName count text) : ∃ part : List Char, (∀ c ∈ part, c ∈ alphabet) ∧
    text.toList = 's' :: 'p' :: '_' :: (Nat.toDigits 10 count ++ '_' :: part) := by
  obtain ⟨draws, -, drawn, rfl⟩ := named
  refine ⟨draws.map Char.toLower, ?_, by simp⟩
  intro c hc
  obtain ⟨draw, hdraw, rfl⟩ := List.mem_map.1 hc
  exact toLower_mem_alphabet (drawn draw hdraw)

/-- The underscore behind the count is no digit, so nothing that was drawn is read with it. -/
theorem countOf_eq (named : IsName count text) : countOf text = count := by
  obtain ⟨part, -, chars⟩ := named.chars
  have digits : (text.toList.drop 3).takeWhile Char.isDigit = Nat.toDigits 10 count := by
    rw [chars]
    show (Nat.toDigits 10 count ++ '_' :: part).takeWhile Char.isDigit = _
    rw [List.takeWhile_append_of_pos (Text.isDigit_toDigits count),
      List.takeWhile_cons_of_neg (by decide), List.append_nil]
  rw [countOf, digits, Text.ofDigits_eq, Nat.ofDigitChars_toDigits (by decide) (by decide)]

theorem unique (named : IsName count text) (renamed : IsName other text) : count = other :=
  named.countOf_eq.symm.trans renamed.countOf_eq

theorem isValid (named : IsName count text) : Identifier.isValid text false = true := by
  obtain ⟨part, drawn, chars⟩ := named.chars
  have tail : ∀ c ∈ 'p' :: '_' :: (Nat.toDigits 10 count ++ '_' :: part),
      Identifier.isTail c = true := by
    intro c hc
    simp only [List.mem_cons, List.mem_append] at hc
    rcases hc with rfl | rfl | digit | rfl | random
    · rfl
    · rfl
    · have isDigit := Text.isDigit_toDigits count c digit
      simp [Identifier.isTail, Char.isAlphanum, isDigit]
    · rfl
    · have isAlphanum := (isAlphanum_alphabet c (drawn c random)).1
      simp [Identifier.isTail, isAlphanum]
  refine Identifier.isValid_of_dotted ?_
  rw [chars]
  refine .segment (.mk ?_ fun c hc => (Identifier.isTail_iff c).1 (tail c hc))
  exact (Identifier.isHead_iff 's').1 rfl

end IsName

/-- Two savepoints have one name only where their counts agree in 64 bits. -/
theorem counts_eq_of_name {count other random random' : Nat}
    (same : name count random = name other random') : count % counts = other % counts := by
  refine (isName_name count random).unique ?_
  rw [same]
  exact isName_name other random'

end EntityStore.Savepoint
