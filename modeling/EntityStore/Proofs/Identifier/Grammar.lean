import EntityStore.Identifier
import Mathlib.Tactic.Common

/-!
# The grammar of identifiers

An identifier is cut at its points and each part is looked at alone. This accepts the texts of a
grammar and no others: segments of letters, digits and underscores that do not begin with a digit, with
single points between them, and where a star is allowed also a star alone or behind a last point.
-/

namespace EntityStore.Identifier

/-! ## The grammar -/

/-- The letters from `a` to `z`, in either case. -/
def IsLetter (c : Char) : Prop := ('a' ≤ c ∧ c ≤ 'z') ∨ ('A' ≤ c ∧ c ≤ 'Z')

/-- The digits from `0` to `9`. -/
def IsDigit (c : Char) : Prop := '0' ≤ c ∧ c ≤ '9'

/-- A letter or underscore, and then letters, digits and underscores. -/
inductive Segment : List Char → Prop where
  | mk {first : Char} {others : List Char} (begins : IsLetter first ∨ first = '_')
      (goesOn : ∀ c ∈ others, IsLetter c ∨ IsDigit c ∨ c = '_') : Segment (first :: others)

/-- Segments with single points between them. -/
inductive Dotted : List Char → Prop where
  | segment {cs : List Char} (alone : Segment cs) : Dotted cs
  | point {cs rest : List Char} (first : Segment cs) (others : Dotted rest) :
      Dotted (cs ++ '.' :: rest)

/-- The names of columns where `*` stands for all of them. -/
inductive Starred : List Char → Prop where
  | name {cs : List Char} (plain : Dotted cs) : Starred cs
  | all : Starred ['*']
  | allOf {cs : List Char} (table : Dotted cs) : Starred (cs ++ ['.', '*'])

/-! ## Segments -/

theorem isAlpha_iff (c : Char) : c.isAlpha = true ↔ IsLetter c := by
  show (decide (c.val ≥ 'A'.val ∧ c.val ≤ 'Z'.val) ||
    (decide (c.val ≥ 'a'.val) && decide (c.val ≤ 'z'.val))) = true ↔ _
  simp [IsLetter, Char.le_def, or_comm]

theorem isHead_iff (c : Char) : isHead c = true ↔ IsLetter c ∨ c = '_' := by
  simp [isHead, isAlpha_iff]

theorem isHead_of_isDigit {c : Char} (digit : c.isDigit = true) : isHead c = false := by
  rw [Bool.eq_false_iff, Ne, isHead_iff]
  simp only [Char.isDigit, ge_iff_le, Bool.and_eq_true, decide_eq_true_eq] at digit
  rintro ((⟨lower, -⟩ | ⟨upper, -⟩) | rfl)
  · exact absurd (UInt32.le_trans lower digit.2) (by decide)
  · exact absurd (UInt32.le_trans upper digit.2) (by decide)
  · exact absurd digit.2 (by decide)

theorem isTail_iff (c : Char) : isTail c = true ↔ IsLetter c ∨ IsDigit c ∨ c = '_' := by
  simp [isTail, isAlpha_iff, IsDigit, Char.isAlphanum, Char.isDigit, Char.le_def, or_assoc]

theorem isSegment_iff (cs : List Char) : isSegment cs = true ↔ Segment cs := by
  cases cs with
  | nil =>
    constructor
    · intro empty
      cases empty
    · intro segment
      cases segment
  | cons first others =>
    simp only [isSegment, Bool.and_eq_true, List.all_eq_true, isHead_iff, isTail_iff]
    constructor
    · rintro ⟨begins, goesOn⟩
      exact .mk begins goesOn
    · rintro ⟨begins, goesOn⟩
      exact ⟨begins, goesOn⟩

theorem Segment.isTail {cs : List Char} (segment : Segment cs) : ∀ c ∈ cs, isTail c = true := by
  obtain ⟨begins, goesOn⟩ := segment
  intro c hc
  rw [isTail_iff]
  rcases List.mem_cons.1 hc with rfl | later
  · exact begins.elim .inl fun underscore => .inr (.inr underscore)
  · exact goesOn c later

/-- No point stands within a segment. -/
theorem Segment.splitOn {cs : List Char} (segment : Segment cs) : cs.splitOn '.' = [cs] := by
  refine List.splitOn_eq_singleton fun point => ?_
  exact absurd (segment.isTail '.' point) (by decide)

/-! ## Parts between points -/

theorem areParts_iff (parts : List (List Char)) :
    areParts false parts = true ↔ ∀ part ∈ parts, isSegment part = true := by
  induction parts with
  | nil => simp [areParts]
  | cons part rest ih => simp [areParts, ih]

theorem isSegment_star : isSegment ['*'] = false := by decide

theorem areParts_star_cons {part : List Char} (segment : isSegment part = true)
    (rest : List (List Char)) : areParts true (part :: rest) = areParts true rest := by
  have other : (part == ['*']) = false := by
    rw [beq_eq_false_iff_ne]
    rintro rfl
    rw [isSegment_star] at segment
    cases segment
  simp [areParts, other, segment]

/-- Where `*` is allowed it may be the last part, or there is none. -/
theorem areParts_star_append {front last : List (List Char)}
    (segments : areParts false front = true) : areParts true (front ++ last) = areParts true last := by
  rw [areParts_iff] at segments
  induction front with
  | nil => rfl
  | cons part rest ih =>
    rw [List.cons_append, areParts_star_cons (segments part List.mem_cons_self),
      ih fun other hother => segments other (List.mem_cons_of_mem _ hother)]

theorem Starred.point {cs rest : List Char} (first : Segment cs) (others : Starred rest) :
    Starred (cs ++ '.' :: rest) := by
  cases others with
  | name plain => exact .name (.point first plain)
  | all => exact .allOf (.segment first)
  | allOf table =>
    have whole := Starred.allOf (.point first table)
    rwa [List.append_assoc, List.cons_append] at whole

theorem dotted_intercalate {parts : List (List Char)} (nonempty : parts ≠ [])
    (segments : areParts false parts = true) : Dotted (['.'].intercalate parts) := by
  rw [areParts_iff] at segments
  induction parts with
  | nil => exact absurd rfl nonempty
  | cons part rest ih =>
    have segment : Segment part := (isSegment_iff part).1 (segments part List.mem_cons_self)
    cases rest with
    | nil =>
      rw [List.intercalate_singleton]
      exact .segment segment
    | cons next rest =>
      rw [List.intercalate_cons_cons, List.append_assoc]
      exact .point segment
        (ih (List.cons_ne_nil _ _) fun other hother => segments other (List.mem_cons_of_mem _ hother))

theorem starred_intercalate {parts : List (List Char)} (nonempty : parts ≠ [])
    (accepted : areParts true parts = true) : Starred (['.'].intercalate parts) := by
  induction parts with
  | nil => exact absurd rfl nonempty
  | cons part rest ih =>
    rw [areParts, Bool.true_and] at accepted
    split at accepted
    · rename_i star
      rw [beq_iff_eq.1 star, List.isEmpty_iff.1 accepted]
      exact .all
    · rw [Bool.and_eq_true] at accepted
      have segment : Segment part := (isSegment_iff part).1 accepted.1
      cases rest with
      | nil =>
        rw [List.intercalate_singleton]
        exact .name (.segment segment)
      | cons next rest =>
        rw [List.intercalate_cons_cons, List.append_assoc]
        exact .point segment (ih (List.cons_ne_nil _ _) accepted.2)

/-- A text is cut into segments if and only if it is `Dotted`. -/
theorem areParts_splitOn_iff (cs : List Char) :
    areParts false (cs.splitOn '.') = true ↔ Dotted cs := by
  constructor
  · intro segments
    have dotted := dotted_intercalate (List.splitOn_ne_nil _ cs) segments
    rwa [List.intercalate_splitOn] at dotted
  · intro dotted
    rw [areParts_iff]
    induction dotted with
    | segment alone =>
      rw [alone.splitOn]
      simpa [isSegment_iff] using alone
    | point first others ih =>
      rw [List.splitOn_append_cons_self, first.splitOn]
      simpa [isSegment_iff, first] using ih

theorem areParts_star_splitOn_iff (cs : List Char) :
    areParts true (cs.splitOn '.') = true ↔ Starred cs := by
  constructor
  · intro accepted
    have starred := starred_intercalate (List.splitOn_ne_nil _ cs) accepted
    rwa [List.intercalate_splitOn] at starred
  · rintro (plain | _ | table)
    · rw [← List.append_nil (cs.splitOn '.'),
        areParts_star_append ((areParts_splitOn_iff cs).2 plain)]
      rfl
    · rfl
    · rename_i front
      rw [List.splitOn_append_cons_self,
        areParts_star_append ((areParts_splitOn_iff front).2 table)]
      rfl

/-! ## Texts -/

theorem isValid_iff (text : String) : isValid text false = true ↔ Dotted text.toList :=
  areParts_splitOn_iff text.toList

theorem isValid_star_iff (text : String) : isValid text true = true ↔ Starred text.toList :=
  areParts_star_splitOn_iff text.toList

theorem Dotted.chars {cs : List Char} (dotted : Dotted cs) :
    ∀ c ∈ cs, c = '.' ∨ isTail c = true := by
  intro c hc
  induction dotted with
  | segment alone => exact .inr (alone.isTail c hc)
  | point first others ih =>
    rcases List.mem_append.1 hc with front | behind
    · exact .inr (first.isTail c front)
    · rcases List.mem_cons.1 behind with rfl | later
      · exact .inl rfl
      · exact ih later

theorem Dotted.letters {cs : List Char} (dotted : Dotted cs) :
    ∀ c ∈ cs, IsLetter c ∨ IsDigit c ∨ c = '_' ∨ c = '.' := by
  intro c hc
  rcases dotted.chars c hc with point | tail
  · exact .inr (.inr (.inr point))
  · rcases (isTail_iff c).1 tail with letter | digit | underscore
    · exact .inl letter
    · exact .inr (.inl digit)
    · exact .inr (.inr (.inl underscore))

theorem Dotted.exists_head {cs : List Char} (dotted : Dotted cs) : ∃ c ∈ cs, isHead c = true := by
  have begins : ∀ {cs : List Char}, Segment cs → ∃ c ∈ cs, isHead c = true := by
    rintro _ ⟨begins, -⟩
    exact ⟨_, List.mem_cons_self, (isHead_iff _).2 begins⟩
  cases dotted with
  | segment alone => exact begins alone
  | point first _ =>
    obtain ⟨c, hc, head⟩ := begins first
    exact ⟨c, List.mem_append_left _ hc, head⟩

theorem Dotted.append {cs rest : List Char} (first : Dotted cs) (second : Dotted rest) :
    Dotted (cs ++ '.' :: rest) := by
  induction first with
  | segment alone => exact .point alone second
  | point first others ih =>
    rw [List.append_assoc, List.cons_append]
    exact .point first ih

theorem Starred.dotted {cs : List Char} (starred : Starred cs) (free : '*' ∉ cs) : Dotted cs := by
  cases starred with
  | name plain => exact plain
  | all => simp at free
  | allOf table => simp at free

theorem Dotted.free {cs : List Char} (dotted : Dotted cs) : '*' ∉ cs := by
  intro star
  exact absurd (dotted.chars '*' star) (by decide)

instance (cs : List Char) : Decidable (Dotted cs) := decidable_of_iff _ (areParts_splitOn_iff cs)

instance (cs : List Char) : Decidable (Starred cs) :=
  decidable_of_iff _ (areParts_star_splitOn_iff cs)

section

variable {text : String} {star : Bool}

theorem starred_of_isValid (accepted : isValid text star = true) : Starred text.toList := by
  cases star with
  | false => exact .name ((isValid_iff text).1 accepted)
  | true => exact (isValid_star_iff text).1 accepted

theorem isValid_of_dotted (dotted : Dotted text.toList) : isValid text star = true := by
  cases star with
  | false => exact (isValid_iff text).2 dotted
  | true => exact (isValid_star_iff text).2 (.name dotted)

/-- A star is allowed only at the end, and only where `star` says so. -/
theorem exists_front (accepted : isValid text star = true) :
    ∃ front, (∀ c ∈ front, IsLetter c ∨ IsDigit c ∨ c = '_' ∨ c = '.') ∧
      (text.toList = front ∨ star = true ∧ text.toList = front ++ ['*']) := by
  have allowed : '*' ∈ text.toList → star = true := by
    intro given
    cases star with
    | false => exact absurd given ((isValid_iff text).1 accepted).free
    | true => rfl
  have starred := starred_of_isValid accepted
  generalize text.toList = cs at starred allowed ⊢
  cases starred with
  | name plain => exact ⟨cs, plain.letters, .inl rfl⟩
  | all => exact ⟨[], by simp, .inr ⟨allowed (by simp), rfl⟩⟩
  | allOf table =>
    rename_i front
    refine ⟨front ++ ['.'], ?_, .inr ⟨allowed (by simp), by simp⟩⟩
    intro c hc
    rcases List.mem_append.1 hc with named | point
    · exact table.letters c named
    · exact .inr (.inr (.inr (List.mem_singleton.1 point)))

theorem isValid_dotted {first second : String} (hfirst : Dotted first.toList)
    (hsecond : Dotted second.toList) : isValid (first ++ "." ++ second) star = true := by
  have chars : (first ++ "." ++ second).toList = first.toList ++ '.' :: second.toList := by simp
  refine isValid_of_dotted ?_
  rw [chars]
  exact hfirst.append hsecond

theorem isValid_qualified {table column : String} (htable : isValid table false = true)
    (hcolumn : isValid column false = true) : isValid (table ++ "." ++ column) false = true :=
  isValid_dotted ((isValid_iff table).1 htable) ((isValid_iff column).1 hcolumn)

end

/-- `isValid` accepts the texts of the grammar and no others. They are letters, digits, underscores
and points with at most one `*`, at the end, and without stars two of them are one with a point
between them. -/
theorem isValid_grammar (text : String) :
    (isValid text false = true ↔ Dotted text.toList) ∧
    (isValid text true = true ↔ Starred text.toList) ∧
    (∀ star, isValid text star = true →
      ∃ front, (∀ c ∈ front, IsLetter c ∨ IsDigit c ∨ c = '_' ∨ c = '.') ∧
        (text.toList = front ∨ star = true ∧ text.toList = front ++ ['*'])) ∧
    ∀ (other : String) (star star' star'' : Bool),
      isValid text star = true → isValid other star' = true →
      '*' ∉ text.toList → '*' ∉ other.toList → isValid (text ++ "." ++ other) star'' = true := by
  refine ⟨isValid_iff text, isValid_star_iff text, fun star => exists_front, ?_⟩
  intro other star star' star'' accepted accepted' free free'
  exact isValid_dotted ((starred_of_isValid accepted).dotted free)
    ((starred_of_isValid accepted').dotted free')

/-- A star in the middle, two points in a row and a letter of another alphabet are in no text of the
grammar; a schema, its table and a column are put together by points. -/
theorem app_users_grammar :
    isValid "app.users" true = true ∧ isValid "id" false = true ∧
    isValid "app.users.id" false = true ∧ Dotted "app.users".toList ∧ Starred "app.users.*".toList ∧
    isValid "app.*.id" true = false ∧ isValid "app..id" true = false ∧
    isValid "größe" false = false := by
  have table : isValid "app.users" true = true := by decide
  have column : isValid "id" false = true := by decide
  have joined : isValid ("app.users" ++ "." ++ "id") false = true :=
    (isValid_grammar "app.users").2.2.2 "id" true false false table column (by decide) (by decide)
  have dotted : Dotted "app.users".toList := by decide
  exact ⟨table, column, joined, dotted, by decide, by decide, by decide, by decide⟩

end EntityStore.Identifier
