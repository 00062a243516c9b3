import EntityStore.Text.Blank
import Mathlib.Data.List.TakeWhile
import Mathlib.Tactic.Common

/-!
# Trimmed text

Trimming takes the blanks away at both ends of a text. What is left begins and ends with something
else, or is empty.
-/

namespace EntityStore.Text

/-- The characters `kept` are left of `cs` when the blanks at both ends are gone. -/
structure Trims (cs kept : List Char) : Prop where
  around : ∃ before after, cs = before ++ (kept ++ after) ∧
    (∀ c ∈ before, isBlank c = true) ∧ ∀ c ∈ after, isBlank c = true
  first : ∀ c ∈ kept.head?, isBlank c = false
  last : ∀ c ∈ kept.getLast?, isBlank c = false

variable {cs kept : List Char}

/-! ## The start -/

theorem exists_trimStart (cs : List Char) :
    ∃ before, cs = before ++ trimStart cs ∧ ∀ c ∈ before, isBlank c = true :=
  ⟨cs.takeWhile isBlank, List.takeWhile_append_dropWhile.symm, fun _ => List.mem_takeWhile_imp⟩

theorem head?_trimStart : ∀ c ∈ (trimStart cs).head?, isBlank c = false := by
  intro c first
  have plain := List.head?_dropWhile_not isBlank cs
  rw [trimStart] at first
  rwa [Option.mem_def.1 first] at plain

theorem trimStart_eq_self (first : ∀ c ∈ cs.head?, isBlank c = false) : trimStart cs = cs := by
  cases cs with
  | nil => rfl
  | cons c cs =>
    have plain := first c rfl
    exact List.dropWhile_cons_of_neg (by simp [plain])

theorem trimStart_append {before : List Char} (blank : ∀ c ∈ before, isBlank c = true)
    (cs : List Char) : trimStart (before ++ cs) = trimStart cs :=
  List.dropWhile_append_of_pos blank

/-! ## Both ends -/

theorem trims_trim (cs : List Char) : Trims cs (trim cs) := by
  obtain ⟨before, split, blank⟩ := exists_trimStart cs
  obtain ⟨after, split', blank'⟩ := exists_trimStart (trimStart cs).reverse
  have behind : trimStart cs = trim cs ++ after.reverse := by
    rw [trim, ← List.reverse_append, ← split', List.reverse_reverse]
  refine ⟨⟨before, after.reverse, ?_, blank, ?_⟩, ?_, ?_⟩
  · rw [← behind, ← split]
  · simpa using blank'
  · intro c first
    have begins : c ∈ (trimStart cs).head? := by
      rw [behind, List.head?_append, Option.mem_def.1 first]
      rfl
    exact head?_trimStart c begins
  · intro c last
    rw [trim, List.getLast?_reverse] at last
    exact head?_trimStart c last

theorem Trims.trim_eq (h : Trims cs kept) : trim cs = kept := by
  obtain ⟨⟨before, after, rfl, blank, blank'⟩, first, last⟩ := h
  have start : trimStart (before ++ (kept ++ after)) = trimStart (kept ++ after) :=
    trimStart_append blank _
  rw [trim, start]
  cases kept with
  | nil =>
    have empty : trimStart after = [] := List.dropWhile_eq_nil_iff.2 blank'
    rw [List.nil_append, empty]
    rfl
  | cons c kept =>
    have finish : trimStart (c :: kept).reverse = (c :: kept).reverse :=
      trimStart_eq_self (by rwa [List.head?_reverse])
    have begins : trimStart (c :: kept ++ after) = c :: kept ++ after := trimStart_eq_self first
    rw [begins, List.reverse_append, trimStart_append (by simpa using blank'),
      finish, List.reverse_reverse]

/-- Trimming leaves exactly what stands between the blanks at both ends. -/
theorem trim_eq_iff : trim cs = kept ↔ Trims cs kept := by
  refine ⟨?_, Trims.trim_eq⟩
  rintro rfl
  exact trims_trim cs

/-- Only blanks are taken away. -/
theorem mem_trim {c : Char} (plain : isBlank c = false) (h : c ∈ cs) : c ∈ trim cs := by
  obtain ⟨before, after, split, blank, blank'⟩ := (trims_trim cs).around
  rw [split, List.mem_append, List.mem_append] at h
  rcases h with skipped | kept | skipped
  · rw [blank c skipped] at plain
    cases plain
  · exact kept
  · rw [blank' c skipped] at plain
    cases plain

end EntityStore.Text
