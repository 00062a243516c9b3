import Mathlib.Data.List.Infix
import Mathlib.Tactic.Common

/-!
# Words in texts and in their octets

A text is kept in UTF-8, and a place in it is a number of octets. In UTF-8 an octet below 128 stands
for a character of its own, so that a word of such characters is found in the octets where it stands
in the text, and nowhere else. A text can be cut before and behind it.
-/

namespace EntityStore.Text

/-! ## The last place of a word -/

section

variable {α : Type}

/-- The last place where `word` stands, counted from the start. -/
def lastPlace? [BEq α] (word : List α) : List α → Option Nat
  | [] => if word.isPrefixOf [] then some 0 else none
  | a :: rest =>
    match lastPlace? word rest with
    | some place => some (place + 1)
    | none => if word.isPrefixOf (a :: rest) then some 0 else none

/-- In `whole`, `word` stands between `front` and `back`, and nowhere later. -/
structure LastAt (word whole front back : List α) : Prop where
  split : whole = front ++ (word ++ back)
  last : ∀ front' back', whole = front' ++ (word ++ back') → front'.length ≤ front.length

variable {word whole front back : List α}

theorem LastAt.length_eq {front' back' : List α} (h : LastAt word whole front back)
    (h' : LastAt word whole front' back') : front.length = front'.length :=
  Nat.le_antisymm (h'.last front back h.split) (h.last front' back' h'.split)

theorem LastAt.cons (h : LastAt word whole front back) (a : α) :
    LastAt word (a :: whole) (a :: front) back where
  split := congrArg (a :: ·) h.split
  last front' back' split := by
    rcases front' with _ | ⟨b, front'⟩
    · exact Nat.zero_le _
    · rw [List.cons_append] at split
      exact Nat.succ_le_succ (h.last front' back' (List.cons.inj split).2)

variable [BEq α] [LawfulBEq α]

theorem lastPlace?_eq_none_iff : lastPlace? word whole = none ↔ ¬ word <:+: whole := by
  induction whole with
  | nil => simp [lastPlace?]
  | cons a rest ih =>
    rw [List.infix_cons_iff, lastPlace?]
    cases later : lastPlace? word rest with
    | some place =>
      have stands : word <:+: rest := by
        by_contra missing
        rw [ih.2 missing] at later
        cases later
      simp [stands]
    | none => simp [ih.1 later, List.isPrefixOf_iff_prefix]

theorem lastAt_of_lastPlace? {place : Nat} (h : lastPlace? word whole = some place) :
    ∃ front back, LastAt word whole front back ∧ front.length = place := by
  induction whole generalizing place with
  | nil =>
    simp only [lastPlace?, List.isPrefixOf_iff_prefix, List.prefix_nil] at h
    split at h
    · rename_i empty
      cases h
      refine ⟨[], [], ⟨by simp [empty], fun front' back' split => ?_⟩, rfl⟩
      simp [(List.append_eq_nil_iff.1 split.symm).1]
    · cases h
  | cons a rest ih =>
    rw [lastPlace?] at h
    cases later : lastPlace? word rest with
    | some place' =>
      rw [later] at h
      cases h
      obtain ⟨front, back, lastAt, rfl⟩ := ih later
      exact ⟨a :: front, back, lastAt.cons a, rfl⟩
    | none =>
      simp only [later] at h
      split at h
      · rename_i starts
        cases h
        obtain ⟨back, split⟩ := List.isPrefixOf_iff_prefix.1 starts
        refine ⟨[], back, ⟨split.symm, fun front' back' split' => ?_⟩, rfl⟩
        rcases front' with _ | ⟨b, front'⟩
        · exact Nat.le_refl _
        · rw [List.cons_append] at split'
          refine absurd ⟨front', back', ?_⟩ (lastPlace?_eq_none_iff.1 later)
          rw [(List.cons.inj split').2, List.append_assoc]
      · cases h

/-- The search finds the last place where `word` stands, if there is one. -/
theorem lastPlace?_eq_some_iff {place : Nat} :
    lastPlace? word whole = some place ↔
      ∃ front back, LastAt word whole front back ∧ front.length = place := by
  refine ⟨lastAt_of_lastPlace?, ?_⟩
  rintro ⟨front, back, lastAt, rfl⟩
  cases found : lastPlace? word whole with
  | none =>
    refine absurd ⟨front, back, ?_⟩ (lastPlace?_eq_none_iff.1 found)
    rw [lastAt.split, List.append_assoc]
  | some place =>
    obtain ⟨front', back', lastAt', rfl⟩ := lastAt_of_lastPlace? found
    rw [lastAt.length_eq lastAt']

end

/-! ## Octets -/

/-- The octets of characters in UTF-8. -/
def octets (cs : List Char) : List UInt8 := cs.flatMap String.utf8EncodeChar

theorem octets_toList (text : String) : octets text.toList = text.toUTF8.data.toList := by
  rw [String.toUTF8, ← String.utf8Encode_toList, List.utf8Encode, List.toList_data_toByteArray]
  rfl

theorem octets_cons (c : Char) (cs : List Char) :
    octets (c :: cs) = String.utf8EncodeChar c ++ octets cs :=
  List.flatMap_cons

@[simp] theorem octets_append (cs cs' : List Char) : octets (cs ++ cs') = octets cs ++ octets cs' :=
  List.flatMap_append

theorem octets_eq_nil_iff {cs : List Char} : octets cs = [] ↔ cs = [] := by
  cases cs with
  | nil => simp [octets]
  | cons c cs =>
    have positive := c.utf8Size_pos
    simp [octets_cons, ← List.length_eq_zero_iff, String.length_utf8EncodeChar]
    omega

theorem utf8EncodeChar_of_ascii {c : Char} (ascii : c.toNat < 128) :
    String.utf8EncodeChar c = [UInt8.ofNat c.toNat] := by
  have size : c.utf8Size = 1 :=
    Char.utf8Size_eq_one_iff.2 (UInt32.le_iff_toNat_le.2 (Nat.le_of_lt_succ ascii))
  exact String.utf8EncodeChar_eq_singleton size

/-- An octet below 128 is a character. -/
theorem utf8EncodeChar_of_mem {c : Char} {octet : UInt8} (h : octet ∈ String.utf8EncodeChar c)
    (small : octet.toNat < 128) : c.toNat = octet.toNat := by
  show c.val.toNat = octet.toNat
  simp only [String.utf8EncodeChar] at h
  split at h
  · rw [List.mem_singleton.1 h, UInt8.toNat_ofNat']
    omega
  · -- the octets of all other characters have their highest bit set
    exfalso
    split at h
    · simp only [List.mem_cons, List.not_mem_nil, or_false] at h
      rcases h with rfl | rfl
      all_goals rw [UInt8.toNat_ofNat'] at small; omega
    · split at h
      · simp only [List.mem_cons, List.not_mem_nil, or_false] at h
        rcases h with rfl | rfl | rfl
        all_goals rw [UInt8.toNat_ofNat'] at small; omega
      · simp only [List.mem_cons, List.not_mem_nil, or_false] at h
        rcases h with rfl | rfl | rfl | rfl
        all_goals rw [UInt8.toNat_ofNat'] at small; omega

/-! ## Words in octets -/

section

variable {word cs : List Char}

/-- Where the octet of a character below 128 stands in a text, the character stands. -/
theorem octets_eq_append_cons {a : Char} {front back : List UInt8} (ascii : a.toNat < 128)
    (h : octets cs = front ++ UInt8.ofNat a.toNat :: back) :
    ∃ p q, cs = p ++ a :: q ∧ octets p = front ∧ octets q = back := by
  have octet : (UInt8.ofNat a.toNat).toNat = a.toNat := by
    rw [UInt8.toNat_ofNat']
    omega
  induction cs generalizing front with
  | nil =>
    rw [octets, List.flatMap_nil] at h
    simp at h
  | cons c cs ih =>
    rw [octets_cons] at h
    rcases List.append_eq_append_iff.1 h with ⟨between, rfl, later⟩ | ⟨between, first, later⟩
    · obtain ⟨p, q, rfl, rfl, rfl⟩ := ih later
      exact ⟨c :: p, q, rfl, octets_cons c p, rfl⟩
    · rcases between with _ | ⟨b, between⟩
      · have start : octets cs = [] ++ UInt8.ofNat a.toNat :: back := later.symm
        obtain ⟨p, q, rfl, hp, rfl⟩ := ih start
        rw [octets_eq_nil_iff.1 hp]
        exact ⟨[c], q, rfl, by rw [octets_cons, first]; simp [octets], rfl⟩
      · -- the octet belongs to the first character, which is then no other
        obtain ⟨rfl, rfl⟩ := List.cons.inj later
        have among : UInt8.ofNat a.toNat ∈ String.utf8EncodeChar c := by
          rw [first]
          simp
        have same : c = a := by
          refine Char.toNat_inj.1 ?_
          rw [utf8EncodeChar_of_mem among (by rwa [octet]), octet]
        subst same
        rw [utf8EncodeChar_of_ascii ascii, eq_comm, List.append_eq_singleton_iff] at first
        simp only [List.cons.injEq, true_and, List.cons_ne_nil, and_false, or_false] at first
        obtain ⟨rfl, rfl⟩ := first
        exact ⟨[], cs, rfl, rfl, rfl⟩

theorem octets_eq_octets_append {back : List UInt8} (ascii : ∀ c ∈ word, c.toNat < 128)
    (h : octets cs = octets word ++ back) : ∃ q, cs = word ++ q ∧ octets q = back := by
  induction word generalizing cs with
  | nil => exact ⟨cs, rfl, h⟩
  | cons a word ih =>
    have small := ascii a List.mem_cons_self
    rw [octets_cons, utf8EncodeChar_of_ascii small] at h
    have start : octets cs = [] ++ UInt8.ofNat a.toNat :: (octets word ++ back) := h
    obtain ⟨p, q, rfl, hp, hq⟩ := octets_eq_append_cons small start
    obtain ⟨rest, rfl, hrest⟩ := ih (fun c hc => ascii c (List.mem_cons_of_mem _ hc)) hq
    rw [octets_eq_nil_iff.1 hp]
    exact ⟨rest, rfl, hrest⟩

/-- A word of characters below 128 stands in the octets of a text only where it stands in the
text. -/
theorem octets_eq_append_word {front back : List UInt8} (nonempty : word ≠ [])
    (ascii : ∀ c ∈ word, c.toNat < 128) (h : octets cs = front ++ (octets word ++ back)) :
    ∃ p q, cs = p ++ (word ++ q) ∧ octets p = front ∧ octets q = back := by
  cases word with
  | nil => exact absurd rfl nonempty
  | cons a word =>
    have small := ascii a List.mem_cons_self
    rw [octets_cons, utf8EncodeChar_of_ascii small] at h
    obtain ⟨p, q, rfl, hp, hq⟩ := octets_eq_append_cons small h
    obtain ⟨rest, rfl, hrest⟩ :=
      octets_eq_octets_append (fun c hc => ascii c (List.mem_cons_of_mem _ hc)) hq
    exact ⟨p, rest, rfl, hp, hrest⟩

theorem length_octets_le_iff {p p' : List Char} (hp : p <+: cs) (hp' : p' <+: cs) :
    (octets p').length ≤ (octets p).length ↔ p'.length ≤ p.length := by
  constructor
  · intro shorter
    by_contra longer
    obtain ⟨r, rfl⟩ := List.prefix_of_prefix_length_le hp hp' (Nat.le_of_not_le longer)
    rw [octets_append, List.length_append] at shorter
    have empty : r = [] := octets_eq_nil_iff.1 (List.length_eq_zero_iff.1 (by omega))
    simp [empty] at longer
  · intro shorter
    obtain ⟨r, rfl⟩ := List.prefix_of_prefix_length_le hp' hp shorter
    simp

/-- The last place of `word` in the octets of a text is that of `word` in the text. -/
theorem lastAt_octets_iff {front back : List UInt8} (nonempty : word ≠ [])
    (ascii : ∀ c ∈ word, c.toNat < 128) :
    LastAt (octets word) (octets cs) front back ↔
      ∃ p q, LastAt word cs p q ∧ octets p = front ∧ octets q = back := by
  constructor
  · intro h
    obtain ⟨p, q, rfl, rfl, rfl⟩ := octets_eq_append_word nonempty ascii h.split
    refine ⟨p, q, ⟨rfl, fun p' q' split => ?_⟩, rfl, rfl⟩
    refine (length_octets_le_iff (List.prefix_append _ _) ⟨word ++ q', split.symm⟩).1 ?_
    refine h.last (octets p') (octets q') ?_
    rw [split, octets_append, octets_append]
  · rintro ⟨p, q, h, rfl, rfl⟩
    refine ⟨by rw [h.split, octets_append, octets_append], fun front' back' split => ?_⟩
    obtain ⟨p', q', split', rfl, rfl⟩ := octets_eq_append_word nonempty ascii split
    refine (length_octets_le_iff ⟨word ++ q, h.split.symm⟩ ⟨word ++ q', split'.symm⟩).2 ?_
    exact h.last p' q' split'

end

/-- The last place where the octets of a word stand in those of a text. -/
def lastOctet? (word text : String) : Option Nat :=
  lastPlace? word.toUTF8.data.toList text.toUTF8.data.toList

/-- A word of characters below 128 is found in the octets where it stands in the text. -/
theorem lastOctet?_eq_some_iff {word text : String} (nonempty : word.toList ≠ [])
    (ascii : ∀ c ∈ word.toList, c.toNat < 128) {place : Nat} :
    lastOctet? word text = some place ↔
      ∃ p q, LastAt word.toList text.toList p q ∧ (octets p).length = place := by
  rw [lastOctet?, ← octets_toList, ← octets_toList, lastPlace?_eq_some_iff]
  constructor
  · rintro ⟨front, back, found, rfl⟩
    obtain ⟨p, q, lastAt, rfl, rfl⟩ := (lastAt_octets_iff nonempty ascii).1 found
    exact ⟨p, q, lastAt, rfl⟩
  · rintro ⟨p, q, lastAt, rfl⟩
    exact ⟨octets p, octets q, (lastAt_octets_iff nonempty ascii).2 ⟨p, q, lastAt, rfl, rfl⟩, rfl⟩

/-! ## Cutting a text -/

/-- The text behind `count` octets. There is none if they end within a character, or if the text has
less. -/
def behind? (text : String) (count : Nat) : Option String :=
  if h : String.Pos.Raw.IsValid text ⟨count⟩ then some (text.sliceFrom ⟨⟨count⟩, h⟩).copy else none

section

variable {text : String} {p q : List Char}

theorem length_octets (cs : List Char) : (octets cs).length = (String.ofList cs).utf8ByteSize := by
  rw [← String.toList_ofList (l := cs), octets_toList, String.ofList_toList]
  rfl

/-- A text can be cut behind any of its characters. -/
theorem isValid_place (split : text.toList = p ++ q) :
    String.Pos.Raw.IsValid text ⟨(octets p).length⟩ := by
  rw [String.Pos.Raw.isValid_iff_exists_append]
  refine ⟨String.ofList p, String.ofList q, ?_, ?_⟩
  · rw [← String.ofList_append, ← split, String.ofList_toList]
  · rw [length_octets]
    rfl

theorem behind?_eq_some (split : text.toList = p ++ q) :
    behind? text (octets p).length = some (String.ofList q) := by
  rw [behind?, dif_pos (isValid_place split), Option.some_inj,
    String.copy_sliceFrom_eq_iff_exists_splits]
  refine ⟨String.ofList p, .mk ?_ ?_⟩
  · rw [← String.ofList_append, ← split, String.ofList_toList]
  · show (⟨(octets p).length⟩ : String.Pos.Raw) = _
    rw [length_octets]
    rfl

end

end EntityStore.Text
