import EntityStore.Proofs.Identifier.Grammar
import EntityStore.Proofs.Text.Octet
import EntityStore.Proofs.Text.Trim

/-!
# Names in a select list

An expression gives its column the name behind the last word ` AS ` in it, in either case. The word is
looked for in a copy in lower case, and the expression itself is cut at the octet where it was found
there. As lower case changes no number of octets, the cut is never within a character.
-/

namespace EntityStore.Text

/-! ## Lower case -/

theorem toNat_toLower (c : Char) :
    c.toLower.toNat = if 65 ≤ c.toNat ∧ c.toNat ≤ 90 then c.toNat + 32 else c.toNat := by
  by_cases upper : c.val ≥ 'A'.val ∧ c.val ≤ 'Z'.val
  · have low : 65 ≤ c.toNat := UInt32.le_iff_toNat_le.1 upper.1
    have high : c.toNat ≤ 90 := UInt32.le_iff_toNat_le.1 upper.2
    have lower : c.toLower.val = c.val + ('a'.val - 'A'.val) := congrArg Char.val (dif_pos upper)
    rw [if_pos ⟨low, high⟩, Char.toNat, lower, UInt32.toNat_add]
    show (c.toNat + 32) % 4294967296 = c.toNat + 32
    omega
  · have same : c.toLower = c := dif_neg upper
    rw [same, if_neg]
    rintro ⟨low, high⟩
    exact upper ⟨UInt32.le_iff_toNat_le.2 low, UInt32.le_iff_toNat_le.2 high⟩

/-- A character is `lower` in lower case if it was so before, or if it was `upper`. -/
theorem eq_or_upper {c lower upper : Char} (h : c.toLower = lower)
    (letter : upper.toNat + 32 = lower.toNat) : c = lower ∨ c = upper := by
  have code := toNat_toLower c
  rw [h] at code
  split at code
  · exact .inr (Char.toNat_inj.1 (by omega))
  · exact .inl (Char.toNat_inj.1 code.symm)

theorem eq_of_toLower {c sign : Char} (h : c.toLower = sign) (before : sign.toNat < 97) :
    c = sign := by
  have code := toNat_toLower c
  rw [h] at code
  split at code
  · omega
  · exact Char.toNat_inj.1 code.symm

/-- Lower case takes as many octets. -/
theorem length_octets_toLower (cs : List Char) :
    (octets (cs.map Char.toLower)).length = (octets cs).length := by
  induction cs with
  | nil => rfl
  | cons c cs ih =>
    have same : (String.utf8EncodeChar c.toLower).length = (String.utf8EncodeChar c).length := by
      have lower := toNat_toLower c
      split at lower
      · rw [utf8EncodeChar_of_ascii (by omega), utf8EncodeChar_of_ascii (by omega)]
        rfl
      · rw [Char.toNat_inj.1 lower]
    rw [List.map_cons, octets_cons, octets_cons, List.length_append, List.length_append, ih, same]

end EntityStore.Text

namespace EntityStore.Identifier

open Text

/-! ## The word before a name -/

/-- `AS` in either case, between spaces. -/
def IsAs (word : List Char) : Prop :=
  ∃ a ∈ ['a', 'A'], ∃ s ∈ ['s', 'S'], word = [' ', a, s, ' ']

theorem isAs_iff (word : List Char) : IsAs word ↔ word.map Char.toLower = " as ".toList := by
  constructor
  · rintro ⟨a, ha, s, hs, rfl⟩
    simp only [List.mem_cons, List.not_mem_nil, or_false] at ha hs
    rcases ha with rfl | rfl <;> rcases hs with rfl | rfl <;> rfl
  · intro (lower : word.map Char.toLower = [' ', 'a', 's', ' '])
    obtain ⟨b, rest, rfl, hb, lower⟩ := List.map_eq_cons_iff.1 lower
    obtain ⟨a, rest, rfl, ha, lower⟩ := List.map_eq_cons_iff.1 lower
    obtain ⟨s, rest, rfl, hs, lower⟩ := List.map_eq_cons_iff.1 lower
    obtain ⟨b', rest, rfl, hb', lower⟩ := List.map_eq_cons_iff.1 lower
    rw [eq_of_toLower hb (by decide), eq_of_toLower hb' (by decide), List.map_eq_nil_iff.1 lower]
    refine ⟨a, ?_, s, ?_, rfl⟩
    · have either : a = 'a' ∨ a = 'A' := eq_or_upper ha rfl
      simpa using either
    · have either : s = 's' ∨ s = 'S' := eq_or_upper hs rfl
      simpa using either

theorem IsAs.length {word : List Char} (h : IsAs word) : word.length = 4 := by
  obtain ⟨a, -, s, -, rfl⟩ := h
  rfl

/-- The last `AS` of `cs` is `word`, between `front` and `rest`. -/
structure LastAs (cs front word rest : List Char) : Prop where
  split : cs = front ++ (word ++ rest)
  introduces : IsAs word
  last : ∀ front' word' rest', cs = front' ++ (word' ++ rest') → IsAs word' →
    front'.length ≤ front.length

section

variable {cs rest : List Char}

theorem LastAs.drop {front word : List Char} (h : LastAs cs front word rest) :
    cs.drop (front.length + 4) = rest := by
  rw [h.split, ← h.introduces.length, List.drop_length_add_append, List.drop_left]

/-- `AS` is where it is found in lower case. -/
theorem lastAt_lower_iff {front back : List Char} :
    LastAt " as ".toList (cs.map Char.toLower) front back ↔
      ∃ p k q, LastAs cs p k q ∧ p.map Char.toLower = front ∧ q.map Char.toLower = back := by
  constructor
  · intro h
    obtain ⟨p, r, rfl, rfl, tail⟩ := List.map_eq_append_iff.1 h.split
    obtain ⟨k, q, rfl, word, rfl⟩ := List.map_eq_append_iff.1 tail
    refine ⟨p, k, q, ⟨rfl, (isAs_iff k).2 word, fun p' k' q' split introduces => ?_⟩, rfl, rfl⟩
    have earlier := h.last (p'.map Char.toLower) (q'.map Char.toLower)
      (by rw [split, List.map_append, List.map_append, (isAs_iff k').1 introduces])
    simpa using earlier
  · rintro ⟨p, k, q, h, rfl, rfl⟩
    refine ⟨?_, fun front' back' split => ?_⟩
    · rw [h.split, List.map_append, List.map_append, (isAs_iff k).1 h.introduces]
    · obtain ⟨p', r, rfl, rfl, tail⟩ := List.map_eq_append_iff.1 split
      obtain ⟨k', q', rfl, word, rfl⟩ := List.map_eq_append_iff.1 tail
      simpa using h.last p' k' q' rfl ((isAs_iff k').2 word)

theorem startsWithAs_eq (cs : List Char) :
    startsWithAs cs = " as ".toList.isPrefixOf (cs.map Char.toLower) := by
  rw [Bool.eq_iff_iff, List.isPrefixOf_iff_prefix, List.prefix_iff_eq_take, ← List.map_take,
    startsWithAs, beq_iff_eq, eq_comm]
  rfl

/-- The search from the end of the characters is one in lower case. -/
theorem afterLastAs?_eq (cs : List Char) :
    afterLastAs? cs =
      (lastPlace? " as ".toList (cs.map Char.toLower)).map fun place => cs.drop (place + 4) := by
  induction cs with
  | nil => rfl
  | cons c cs ih =>
    rw [afterLastAs?, ih, startsWithAs_eq, List.map_cons, lastPlace?]
    cases lastPlace? " as ".toList (cs.map Char.toLower) with
    | some place => rfl
    | none =>
      dsimp only [Option.map_none]
      split <;> rfl

theorem afterLastAs?_eq_some_iff :
    afterLastAs? cs = some rest ↔ ∃ front word, LastAs cs front word rest := by
  rw [afterLastAs?_eq, Option.map_eq_some_iff]
  constructor
  · rintro ⟨place, found, rfl⟩
    obtain ⟨front, back, lastAt, rfl⟩ := lastPlace?_eq_some_iff.1 found
    obtain ⟨p, k, q, h, rfl, rfl⟩ := lastAt_lower_iff.1 lastAt
    rw [List.length_map, h.drop]
    exact ⟨p, k, h⟩
  · rintro ⟨p, k, h⟩
    refine ⟨p.length, lastPlace?_eq_some_iff.2 ?_, h.drop⟩
    exact ⟨_, _, lastAt_lower_iff.2 ⟨p, k, rest, h, rfl, rfl⟩, List.length_map _⟩

end

/-! ## In octets -/

/-- The name as it is read in octets: `AS` is looked for in a copy in lower case, and `expression`
is cut behind the place where it was found. There is no outcome at all if this cuts into a
character. -/
def octetName? (expression : String) : Option (Option String) :=
  match lastOctet? " as " (expression.map Char.toLower) with
  | none => some none
  | some place => do
    let rest ← behind? expression (place + 4)
    let name := String.ofList (trim rest.toList)
    return if isValid name false then some name else none

variable {expression : String}

theorem lastOctet?_as_iff {place : Nat} :
    lastOctet? " as " (expression.map Char.toLower) = some place ↔
      ∃ front word rest, LastAs expression.toList front word rest ∧ (octets front).length = place := by
  rw [lastOctet?_eq_some_iff (by decide) (by simp), String.toList_map]
  constructor
  · rintro ⟨front, back, lastAt, rfl⟩
    obtain ⟨p, k, q, h, rfl, rfl⟩ := lastAt_lower_iff.1 lastAt
    exact ⟨p, k, q, h, (length_octets_toLower p).symm⟩
  · rintro ⟨p, k, q, h, rfl⟩
    exact ⟨_, _, lastAt_lower_iff.2 ⟨p, k, q, h, rfl, rfl⟩, length_octets_toLower p⟩

theorem IsAs.length_octets {word : List Char} (h : IsAs word) : (octets word).length = 4 := by
  rw [← length_octets_toLower, (isAs_iff word).1 h]
  rfl

section

variable {front word rest : List Char}

theorem LastAs.length_octets (h : LastAs expression.toList front word rest) :
    (octets (front ++ word)).length = (octets front).length + 4 := by
  rw [octets_append, List.length_append, h.introduces.length_octets]

theorem LastAs.isValid_place (h : LastAs expression.toList front word rest) :
    String.Pos.Raw.IsValid expression ⟨(octets front).length + 4⟩ := by
  rw [← h.length_octets]
  exact Text.isValid_place (by rw [h.split, List.append_assoc])

theorem LastAs.behind?_eq (h : LastAs expression.toList front word rest) :
    behind? expression ((octets front).length + 4) = some (String.ofList rest) := by
  rw [← h.length_octets]
  exact behind?_eq_some (by rw [h.split, List.append_assoc])

end

/-- Read in octets, the name is the same, and there always is an outcome. -/
theorem octetName?_eq (expression : String) : octetName? expression = some (selectName? expression) := by
  rw [octetName?, selectName?]
  cases found : afterLastAs? expression.toList with
  | none =>
    have missing : lastOctet? " as " (expression.map Char.toLower) = none := by
      rw [Option.eq_none_iff_forall_ne_some]
      intro place found'
      obtain ⟨front, word, rest, h, -⟩ := lastOctet?_as_iff.1 found'
      rw [afterLastAs?_eq_some_iff.2 ⟨front, word, h⟩] at found
      cases found
    rw [missing]
    rfl
  | some rest =>
    obtain ⟨front, word, h⟩ := afterLastAs?_eq_some_iff.1 found
    rw [lastOctet?_as_iff.2 ⟨front, word, rest, h, rfl⟩]
    dsimp only
    rw [h.behind?_eq]
    simp

/-! ## The name -/

theorem selectName?_eq_some_iff {name : String} :
    selectName? expression = some name ↔
      ∃ front word rest, LastAs expression.toList front word rest ∧ Trims rest name.toList ∧
        isValid name false = true := by
  rw [selectName?]
  simp only [Option.bind_eq_bind, Option.bind_eq_some_iff, afterLastAs?_eq_some_iff]
  constructor
  · rintro ⟨rest, ⟨front, word, h⟩, given⟩
    split at given
    · rename_i valid
      cases given
      exact ⟨front, word, rest, h, trim_eq_iff.1 String.toList_ofList.symm, valid⟩
    · cases given
  · rintro ⟨front, word, rest, h, trims, valid⟩
    refine ⟨rest, ⟨front, word, h⟩, ?_⟩
    rw [trim_eq_iff.2 trims, String.ofList_toList, if_pos valid]

/-- The name of `expression` is what stands behind the last `AS`, without the blanks around it, if
this is an identifier. Where `AS` is found in lower case, the expression can be cut behind it, so
that `octetName?` always has an outcome, and it is the same. -/
theorem name_behind_last_as (expression : String) :
    (∀ name, selectName? expression = some name ↔
      ∃ front word rest, LastAs expression.toList front word rest ∧ Trims rest name.toList ∧
        isValid name false = true) ∧
    (∀ place, lastOctet? " as " (expression.map Char.toLower) = some place →
      String.Pos.Raw.IsValid expression ⟨place + 4⟩) ∧
    octetName? expression = some (selectName? expression) := by
  refine ⟨fun name => selectName?_eq_some_iff, ?_, octetName?_eq expression⟩
  intro place found
  obtain ⟨front, word, rest, h, rfl⟩ := lastOctet?_as_iff.1 found
  exact h.isValid_place

/-- Two `AS` share a space in front of the name, and characters of two octets stand before them, so
that the cut is at another number of octets than of characters. -/
theorem size_behind_last_as :
    lastOctet? " as " ("MAX(größe) aS As total ".map Char.toLower) = some 15 ∧
    String.Pos.Raw.IsValid "MAX(größe) aS As total " ⟨19⟩ ∧
    (∃ front word rest, LastAs "MAX(größe) aS As total ".toList front word rest ∧
      Trims rest "total".toList ∧ isValid "total" false = true) ∧
    octetName? "MAX(größe) aS As total " = some (some "total") := by
  have named : selectName? "MAX(größe) aS As total " = some "total" := by decide
  have lower : "MAX(größe) aS As total ".map Char.toLower = "max(größe) as as total " := by
    rw [← String.toList_inj, String.toList_map]
    decide
  have found : lastOctet? " as " ("MAX(größe) aS As total ".map Char.toLower) = some 15 := by
    rw [lower]
    decide
  obtain ⟨name, cut, octets⟩ := name_behind_last_as "MAX(größe) aS As total "
  refine ⟨found, cut 15 found, (name "total").1 named, ?_⟩
  rw [octets, named]

end EntityStore.Identifier
