import EntityStore.Proofs.Condition.Predicate
import EntityStore.Proofs.Condition.Stored
import Mathlib.Tactic.Choose

/-!
# Reading conditions back

The text of a condition is read back as a predicate that says the same of every row. By induction on
the condition its text is one operand of the grammar: a leaf, something in parentheses, or the
negation of an operand. That is why a condition can stand anywhere in another one.
-/

namespace EntityStore

open Sql

/-- What a condition in the terms of the database means for a `row`, given by its cells. -/
def Meaning.inDatabase (d : Dialect) (compares : Comparison → Value → Value → Truth)
    (row : String → Value) : Meaning where
  cell := row
  stored _ v := v
  compares comparison := compares (comparison.inDialect d)

theorem endsApart_append (s : String) {t : String} (nonempty : t.toList ≠ [])
    (ends : isApartAtEnd t.toList = true) :
    isApartAtEnd (s ++ t).toList = true := by
  rw [isApartAtEnd, String.toList_append, List.getLast?_append_of_ne_nil _ nonempty]
  exact ends

theorem startsApart_append {s : String} (t : String) (nonempty : s.toList ≠ [])
    (starts : isApartAtStart s.toList = true) :
    isApartAtStart (s ++ t).toList = true := by
  rw [isApartAtStart, String.toList_append, List.head?_append_of_ne_nil _ nonempty]
  exact starts

namespace Sql.Reads

variable {d : Dialect} {a b : Sql} {ta tb ts : List Token} {s : String}

theorem after_text (h : tokens? s.toList = some ts) (filled : ∀ t ∈ ts, t.isFilled = true)
    (ends : isApartAtEnd s.toList = true) (hb : Reads d b tb) :
    Reads d (.text s :: b) (ts ++ tb) := by
  rw [← List.singleton_append]
  refine Reads.append (Reads.text h filled) hb ?_
  intro m n
  exact Or.inl (by simpa [textFrom] using ends)

theorem before_text (ha : Reads d a ta) (h : tokens? s.toList = some ts)
    (filled : ∀ t ∈ ts, t.isFilled = true) (starts : isApartAtStart s.toList = true) :
    Reads d (a ++ [.text s]) (ta ++ ts) := by
  refine Reads.append ha (Reads.text h filled) ?_
  intro m n
  exact Or.inr (by simpa [textFrom] using starts)

/-- Parts with a text `s` between them that is apart from both sides read with its token between
them. -/
theorem joined {joint : Token} (h : tokens? s.toList = some [joint])
    (filled : joint.isFilled = true) (starts : isApartAtStart s.toList = true)
    (ends : isApartAtEnd s.toList = true) (part : Sql × List Token)
    (parts : List (Sql × List Token)) (each : ∀ q ∈ part :: parts, Reads d q.1 q.2) :
    Reads d (Sql.joined s ((part :: parts).map Prod.fst))
      ([joint].intercalate ((part :: parts).map Prod.snd)) := by
  induction parts generalizing part with
  | nil => simpa [Sql.joined] using each part (by simp)
  | cons next parts ih =>
    have others := ih next fun q hq => each q (List.mem_cons_of_mem _ hq)
    have first := each part (by simp)
    have both := (first.before_text h (by simpa using filled) starts).append others (by
      intro m n
      have nonempty : s.toList ≠ [] := by
        intro empty
        rw [empty] at h
        cases h
      rw [textFrom_append, textFrom, textFrom, String.append_empty]
      exact Or.inl (endsApart_append _ nonempty ends))
    simpa [Sql.joined, List.intercalate_cons_cons] using both

end Sql.Reads

namespace Condition

/-- The text of `c` is one operand, which says of every row what `c` says. -/
def ReadsBack (d : Dialect) (c : Condition) : Prop :=
  ∃ ts p, Reads d (c.sql d) ts ∧ Parses ts p ∧
    ∀ compares row, p.truth compares row = c.truth (.inDatabase d compares row)

section

variable {d : Dialect} {column : String} (hcolumn : isName column.toList = true)

include hcolumn

theorem tokens?_column {s : String} {ts : List Token} (h : tokens? s.toList = some ts)
    (starts : isApartAtStart s.toList = true) :
    tokens? (column ++ s).toList = some (.name column :: ts) := by
  have name := tokens?_name hcolumn
  rw [String.toList_append]
  simpa using tokens?_append (Or.inr starts) name h

theorem readsBack_compare (comparison : Comparison) (operand : Value) :
    ReadsBack d (.compare comparison column operand) := by
  have sign : tokens? (" " ++ comparison.sign d ++ " ").toList =
      some [.comparison (comparison.inDialect d)] := by
    rw [Comparison.sign_eq_symbol]
    cases comparison.inDialect d <;> rfl
  have starts : isApartAtStart (" " ++ comparison.sign d ++ " ").toList = true := by
    rw [String.append_assoc]
    exact startsApart_append _ (by decide) (by decide)
  have text := tokens?_column hcolumn sign starts
  refine ⟨[.name column, .comparison (comparison.inDialect d), .value operand],
    .compare (comparison.inDialect d) column operand, ?_, ?_, fun compares row => rfl⟩
  · rw [← String.append_assoc, ← String.append_assoc] at text
    refine Reads.after_text text ?_ ?_ (Reads.bound operand)
    · simp [Token.isFilled]
    · exact endsApart_append _ (by decide) (by decide)
  · exact Parses.leaf (by simp) (by simp) fun rest => rfl

theorem readsBack_between (least greatest : Value) :
    ReadsBack d (.between column least greatest) := by
  have text : tokens? (column ++ " BETWEEN ").toList = some [.name column, .between] :=
    tokens?_column hcolumn rfl (by decide)
  refine ⟨[.name column, .between, .value least, .and, .value greatest],
    .between column least greatest, ?_, ?_, fun compares row => ?_⟩
  · have upper := Reads.after_text (d := d) tokens?_and (by simp [Token.isFilled]) (by decide)
      (Reads.bound greatest)
    have bounds := (Reads.bound (d := d) least).append upper fun m n =>
      Or.inr (startsApart_append _ (by decide) (by decide))
    refine Reads.after_text text ?_ ?_ bounds
    · simp [Token.isFilled]
    · exact endsApart_append _ (by decide) (by decide)
  · exact Parses.leaf (by simp) (by simp) fun rest => rfl
  · cases d <;> rfl

theorem readsBack_isNull : ReadsBack d (.isNull column) := by
  have text : tokens? (column ++ " IS NULL").toList = some [.name column, .is, .null] :=
    tokens?_column hcolumn rfl (by decide)
  refine ⟨_, .isNull column, Reads.text text ?_, ?_, fun compares row => rfl⟩
  · simp [Token.isFilled]
  · exact Parses.leaf (by simp) (by simp) fun rest => rfl

theorem readsBack_isNotNull : ReadsBack d (.isNotNull column) := by
  have text : tokens? (column ++ " IS NOT NULL").toList = some [.name column, .is, .not, .null] :=
    tokens?_column hcolumn rfl (by decide)
  refine ⟨_, .isNotNull column, Reads.text text ?_, ?_, fun compares row => rfl⟩
  · simp [Token.isFilled]
  · exact Parses.leaf (by simp) (by simp) fun rest => rfl

end

/-- Values with commas between them are read up to the closing parenthesis. -/
theorem values?_eq (v : Value) (vs : List Value) (rest : List Token) :
    values? ([Token.comma].intercalate ((v :: vs).map fun v => [.value v]) ++ .closing :: rest) =
      some (v :: vs, rest) := by
  induction vs generalizing v with
  | nil => rfl
  | cons w vs ih =>
    have tokens : [Token.comma].intercalate ((v :: w :: vs).map fun v => [Token.value v]) =
        .value v :: .comma :: [Token.comma].intercalate ((w :: vs).map fun v => [.value v]) := by
      simp [List.intercalate_cons_cons]
    rw [tokens, List.cons_append, List.cons_append, values?, ih w]
    rfl

/-- What always holds, or never does, is written as the equality of two numbers. -/
theorem reads_constant {s : String} {a b : Nat} (d : Dialect)
    (h : tokens? s.toList = some [.number a, .comparison .eq, .number b]) :
    Reads d [.text s] [.number a, .comparison .eq, .number b] ∧
      Parses [.number a, .comparison .eq, .number b] (.same a b) := by
  constructor
  · exact Reads.text h (by simp [Token.isFilled])
  · exact Parses.leaf (by simp) (by simp) fun rest => rfl

theorem readsBack_oneOf {d : Dialect} {column : String} (hcolumn : isName column.toList = true)
    (operands : List Value) : ReadsBack d (.oneOf column operands) := by
  cases operands with
  | nil =>
    obtain ⟨reads, parses⟩ := reads_constant (s := "1 = 0") (a := 1) (b := 0) d rfl
    exact ⟨_, _, reads, parses, fun compares row => rfl⟩
  | cons v vs =>
    have text : tokens? (column ++ " IN (").toList = some [.name column, .isIn, .opening] :=
      tokens?_column hcolumn rfl (by decide)
    have place : ∀ v : Value, Reads d [.bound v] [.value v] := Reads.bound
    have list : Reads d (Sql.joined ", " ((v :: vs).map fun v => [.bound v]))
        ([Token.comma].intercalate ((v :: vs).map fun v => [.value v])) := by
      have := Reads.joined (d := d) tokens?_comma rfl (by decide) (by decide)
        ([.bound v], [.value v]) (vs.map fun v => ([.bound v], [.value v])) (by simp [place])
      simpa [Function.comp_def] using this
    have inner := list.before_text tokens?_closing (by simp [Token.isFilled]) (by decide)
    have whole := Reads.after_text text (by simp [Token.isFilled])
      (endsApart_append _ (by decide) (by decide)) inner
    refine ⟨.name column :: .isIn :: .opening ::
        ([Token.comma].intercalate ((v :: vs).map fun v => [.value v]) ++ [Token.closing]),
      .oneOf column (v :: vs), whole, ?_, fun compares row => ?_⟩
    · refine Parses.leaf (by simp) (by simp) fun rest => ?_
      have values := values?_eq v vs rest
      simp only [List.cons_append, List.append_assoc, List.nil_append, leaf?, values]
      rfl
    · cases d <;> rfl

/-- The texts of several conditions with a joint between them are as many operands. -/
theorem reads_joined {d : Dialect} {c : Condition} {conditions : List Condition}
    (each : ∀ o ∈ c :: conditions, ReadsBack d o) {s : String} {joint : Token}
    (h : tokens? s.toList = some [joint]) (filled : joint.isFilled = true)
    (starts : isApartAtStart s.toList = true)
    (ends : isApartAtEnd s.toList = true) :
    ∃ part parts, Reads d (Sql.joined s (sqlOfEach d (c :: conditions)))
        ([joint].intercalate ((part :: parts).map Prod.fst)) ∧
      (∀ q ∈ part :: parts, Parses q.1 q.2) ∧
      ∀ compares row, (part.2 :: parts.map Prod.snd).map (Predicate.truth compares row) =
        (c :: conditions).map (truth (.inDatabase d compares row)) := by
  choose! ts p reads parses agrees using each
  refine ⟨(ts c, p c), conditions.map fun o => (ts o, p o), ?_, ?_, ?_⟩
  · have whole := Reads.joined h filled starts ends (c.sql d, ts c)
      (conditions.map fun o => (o.sql d, ts o)) (by simpa using reads)
    rw [sqlOfEach_eq_map]
    simpa [Function.comp_def] using whole
  · simpa using parses
  · intro compares row
    have each : ∀ o ∈ c :: conditions, (p o).truth compares row =
        o.truth (.inDatabase d compares row) := fun o ho => agrees o ho compares row
    simpa using each

/-- A text in parentheses is one operand if what stands in them is a `disjunction`. -/
theorem reads_parenthesized {d : Dialect} {sql : Sql} {ts : List Token} (h : Reads d sql ts) :
    Reads d ([.text "("] ++ sql ++ [.text ")"]) (.opening :: (ts ++ [.closing])) := by
  have inner := h.before_text tokens?_closing (by simp [Token.isFilled]) (by decide)
  exact Reads.after_text tokens?_opening (by simp [Token.isFilled]) (by decide) inner

theorem readsBack_all {d : Dialect} {conditions : List Condition}
    (each : ∀ c ∈ conditions, ReadsBack d c) : ReadsBack d (.all conditions) := by
  cases conditions with
  | nil =>
    obtain ⟨reads, parses⟩ := reads_constant (s := "1 = 1") (a := 1) (b := 1) d rfl
    exact ⟨_, _, reads, parses, fun compares row => rfl⟩
  | cons c conditions =>
    obtain ⟨part, parts, reads, parses, agrees⟩ :=
      reads_joined each tokens?_and rfl (by decide) (by decide)
    refine ⟨_, .joinAll .both part.2 (parts.map Prod.snd), reads_parenthesized reads, ?_, ?_⟩
    · refine Parses.parenthesized fun fuel enough rest => ?_
      exact disjunction_conjunction part parts parses (by simp [Token.isAnd, Token.isOr]) enough
    · intro compares row
      rw [Predicate.truth_joinAll_both, agrees, truth, truths_eq_map]

theorem readsBack_any {d : Dialect} {conditions : List Condition}
    (each : ∀ c ∈ conditions, ReadsBack d c) : ReadsBack d (.any conditions) := by
  cases conditions with
  | nil =>
    obtain ⟨reads, parses⟩ := reads_constant (s := "1 = 0") (a := 1) (b := 0) d rfl
    exact ⟨_, _, reads, parses, fun compares row => rfl⟩
  | cons c conditions =>
    obtain ⟨part, parts, reads, parses, agrees⟩ :=
      reads_joined each tokens?_or rfl (by decide) (by decide)
    refine ⟨_, .joinAll .either part.2 (parts.map Prod.snd), reads_parenthesized reads, ?_, ?_⟩
    · refine Parses.parenthesized fun fuel enough rest => ?_
      exact disjunction_disjunction part parts parses (by simp [Token.isAnd, Token.isOr]) enough
    · intro compares row
      rw [Predicate.truth_joinAll_either, agrees, truth, truths_eq_map]

theorem disjunction_operand {ts : List Token} {p : Predicate} (h : Parses ts p)
    {after : List Token} (hafter : ∀ t ∈ after.head?, t.isAnd = false ∧ t.isOr = false) {fuel : Nat}
    (enough : ts.length ≤ fuel) :
    disjunction (operand fuel) fuel (ts ++ after) = some (p, after) := by
  have single : ([Token.and].intercalate ([(ts, p)].map Prod.fst)).length ≤ fuel := by
    simpa using enough
  simpa [Predicate.joinAll] using disjunction_conjunction (ts, p) [] (by simpa using h) hafter single

theorem readsBack_not {d : Dialect} {c : Condition} (h : ReadsBack d c) :
    ReadsBack d (.not c) := by
  obtain ⟨ts, p, reads, parses, agrees⟩ := h
  have truths : ∀ compares row, (Predicate.not p).truth compares row =
      (Condition.not c).truth (.inDatabase d compares row) := by
    intro compares row
    rw [Predicate.truth, agrees, truth]
  cases grouped : c.isGrouped with
  | true =>
    have whole := Reads.after_text tokens?_not (by simp [Token.isFilled]) (by decide) reads
    refine ⟨_, .not p, ?_, parses.not, truths⟩
    simpa [sql, grouped] using whole
  | false =>
    have whole := Reads.after_text tokens?_notOpening
      (by simp [Token.isFilled]) (by decide)
      (reads.before_text tokens?_closing (by simp [Token.isFilled]) (by decide))
    refine ⟨.not :: .opening :: (ts ++ [.closing]), .not p, ?_, ?_, truths⟩
    · simpa [sql, grouped] using whole
    · refine (Parses.parenthesized fun fuel enough rest => ?_).not
      exact disjunction_operand parses (by simp [Token.isAnd, Token.isOr]) enough

/-- The text of `c` is one operand if the columns in it are named by names. -/
theorem readsBack (d : Dialect) (c : Condition)
    (names : ∀ name ∈ c.columns, isName name.toList = true) : ReadsBack d c := by
  induction c with
  | compare comparison column operand =>
    exact readsBack_compare (of_columns_leaf names rfl) comparison operand
  | oneOf column operands => exact readsBack_oneOf (of_columns_leaf names rfl) operands
  | between column least greatest =>
    exact readsBack_between (of_columns_leaf names rfl) least greatest
  | isNull column => exact readsBack_isNull (of_columns_leaf names rfl)
  | isNotNull column => exact readsBack_isNotNull (of_columns_leaf names rfl)
  | all conditions ih =>
    refine readsBack_all fun c hc => ih c hc fun name hname => names name ?_
    rw [columns_all]
    exact List.mem_flatMap_of_mem hc hname
  | any conditions ih =>
    refine readsBack_any fun c hc => ih c hc fun name hname => names name ?_
    rw [columns_any]
    exact List.mem_flatMap_of_mem hc hname
  | not c ih => exact readsBack_not (ih (by simpa using names))

end Condition

end EntityStore
