import EntityStore.Proofs.Condition.Token

/-!
# The grammar of predicates

How a predicate is read from the tokens of a statement. A comparison, `IN`, `BETWEEN .. AND` and
`IS [NOT] NULL` bind tightest, then `NOT`, then `AND`, then `OR`, and parentheses group. The reader
takes as much as belongs to one predicate and hands the other tokens back.
-/

namespace EntityStore.Sql

/-- A predicate over rows. -/
inductive Predicate where
  /-- The numbers `a` and `b` are equal. -/
  | same (a b : Nat)
  | compare (c : Comparison) (column : String) (operand : Value)
  | oneOf (column : String) (operands : List Value)
  | between (column : String) (least greatest : Value)
  | isNull (column : String)
  | isNotNull (column : String)
  | both (a b : Predicate)
  | either (a b : Predicate)
  | not (a : Predicate)
  deriving Inhabited

namespace Predicate

/-- What a predicate says about a `row`, where comparisons come out as `compares` says. -/
def truth (compares : Comparison → Value → Value → Truth) (row : String → Value) : Predicate → Truth
  | same a b => .ofBool (a == b)
  | compare c column operand => compares c (row column) operand
  | oneOf column operands => .any (operands.map fun v => compares .eq (row column) v)
  | between column least greatest =>
    (compares .ge (row column) least).and (compares .le (row column) greatest)
  | isNull column => .ofBool (row column).isNull
  | isNotNull column => .ofBool (!(row column).isNull)
  | both a b => (truth compares row a).and (truth compares row b)
  | either a b => (truth compares row a).or (truth compares row b)
  | not a => (truth compares row a).not

/-- Several predicates joined by `join`, of which there is at least one. -/
def joinAll (join : Predicate → Predicate → Predicate) : Predicate → List Predicate → Predicate
  | p, [] => p
  | p, q :: rest => join p (joinAll join q rest)

section

variable (compares : Comparison → Value → Value → Truth) (row : String → Value)

theorem truth_joinAll_both (p : Predicate) (rest : List Predicate) :
    (joinAll both p rest).truth compares row = .all ((p :: rest).map (truth compares row)) := by
  induction rest generalizing p with
  | nil => simp [joinAll]
  | cons q rest ih =>
    show (p.truth compares row).and ((joinAll both q rest).truth compares row) = _
    rw [ih q]
    rfl

theorem truth_joinAll_either (p : Predicate) (rest : List Predicate) :
    (joinAll either p rest).truth compares row = .any ((p :: rest).map (truth compares row)) := by
  induction rest generalizing p with
  | nil => simp [joinAll]
  | cons q rest ih =>
    show (p.truth compares row).or ((joinAll either q rest).truth compares row) = _
    rw [ih q]
    rfl

end

end Predicate

/-! ## Reading tokens -/

/-- What is read from tokens, and the tokens after it. -/
abbrev Parser (α : Type) := List Token → Option (α × List Token)

/-- Values with commas between them, of which there is at least one, and a closing parenthesis. -/
def values? : Parser (List Value)
  | .value v :: .closing :: rest => some ([v], rest)
  | .value v :: .comma :: rest => (values? rest).map fun r => (v :: r.1, r.2)
  | _ => none

/-- A predicate without a part that is a predicate. -/
def leaf? : Parser Predicate
  | .number a :: .comparison .eq :: .number b :: rest => some (.same a b, rest)
  | .name column :: .comparison c :: .value v :: rest => some (.compare c column v, rest)
  | .name column :: .isIn :: .opening :: rest =>
    (values? rest).map fun r => (.oneOf column r.1, r.2)
  | .name column :: .between :: .value least :: .and :: .value greatest :: rest =>
    some (.between column least greatest, rest)
  | .name column :: .is :: .null :: rest => some (.isNull column, rest)
  | .name column :: .is :: .not :: .null :: rest => some (.isNotNull column, rest)
  | _ => none

def Token.isAnd : Token → Bool
  | .and => true
  | _ => false

def Token.isOr : Token → Bool
  | .or => true
  | _ => false

/-- Predicates with a joint between them, at most `fuel` of them. -/
def chain (item : Parser Predicate) (isJoint : Token → Bool)
    (join : Predicate → Predicate → Predicate) : Nat → Parser Predicate
  | 0, _ => none
  | fuel + 1, ts =>
    match item ts with
    | some (p, t :: rest) =>
      if isJoint t then (chain item isJoint join fuel rest).map fun r => (join p r.1, r.2)
      else some (p, t :: rest)
    | some (p, []) => some (p, [])
    | none => none

def conjunction (operand : Parser Predicate) (fuel : Nat) : Parser Predicate :=
  chain operand Token.isAnd .both fuel

def disjunction (operand : Parser Predicate) (fuel : Nat) : Parser Predicate :=
  chain (conjunction operand fuel) Token.isOr .either fuel

/-- What `conjunction` and `disjunction` join: a negation, a predicate in parentheses or a leaf. -/
def operand : Nat → Parser Predicate
  | fuel + 1, .not :: rest => (operand fuel rest).map fun r => (.not r.1, r.2)
  | fuel + 1, .opening :: rest =>
    match disjunction (operand fuel) fuel rest with
    | some (p, .closing :: rest) => some (p, rest)
    | _ => none
  | _ + 1, ts => leaf? ts
  | 0, _ => none

/-- The predicate that `ts` is, as a whole. No part of it has more tokens than there are, which
bounds the depth and the number of parts. -/
def predicate? (ts : List Token) : Option Predicate :=
  match disjunction (operand ts.length) ts.length ts with
  | some (p, []) => some p
  | _ => none

/-- Read `text` as a predicate. Its placeholders are filled in from `params`, of which the text
before it `taken` has been. -/
def Predicate.read? (text : String) (params : List Value) (taken : Nat) : Option Predicate := do
  predicate? (← fill? params taken (← tokens? text.toList))

/-! ## What is read -/

/-- One predicate is read as itself where no joint comes after it. -/
theorem chain_single {item : Parser Predicate} {isJoint : Token → Bool}
    (join : Predicate → Predicate → Predicate) {ts after : List Token} {p : Predicate}
    (hafter : ∀ t ∈ after.head?, isJoint t = false) (reads : item (ts ++ after) = some (p, after))
    {fuel : Nat} (enough : 0 < fuel) :
    chain item isJoint join fuel (ts ++ after) = some (p, after) := by
  obtain ⟨fuel, rfl⟩ := Nat.exists_eq_succ_of_ne_zero (Nat.ne_zero_of_lt enough)
  rw [chain, reads]
  cases after with
  | nil => rfl
  | cons t rest =>
    have ht : isJoint t = false := hafter t (by simp)
    simp [ht]

/-- Predicates with a `joint` between them are read as they are joined, if each of them is read
where the next joint, or what follows them all, comes after it. -/
theorem chain_eq {item : Parser Predicate} {isJoint : Token → Bool} {joint : Token}
    (join : Predicate → Predicate → Predicate) (hjoint : isJoint joint = true)
    {after : List Token} (hafter : ∀ t ∈ after.head?, isJoint t = false)
    (part : List Token × Predicate) (parts : List (List Token × Predicate))
    (reads : ∀ q ∈ part :: parts, ∀ rest, rest = after ∨ rest.head? = some joint →
      item (q.1 ++ rest) = some (q.2, rest))
    {fuel : Nat} (enough : parts.length < fuel) :
    chain item isJoint join fuel ([joint].intercalate ((part :: parts).map Prod.fst) ++ after) =
      some (Predicate.joinAll join part.2 (parts.map Prod.snd), after) := by
  induction parts generalizing part fuel with
  | nil =>
    have first := reads part (by simp) after (Or.inl rfl)
    simpa [Predicate.joinAll] using chain_single join hafter first enough
  | cons next parts ih =>
    obtain ⟨fuel, rfl⟩ := Nat.exists_eq_succ_of_ne_zero (Nat.ne_zero_of_lt enough)
    have others := ih next (fun q hq => reads q (List.mem_cons_of_mem _ hq))
      (show parts.length < fuel by simpa using enough)
    have first := reads part (by simp)
      (joint :: ([joint].intercalate ((next :: parts).map Prod.fst) ++ after)) (Or.inr rfl)
    have tokens : [joint].intercalate ((part :: next :: parts).map Prod.fst) ++ after =
        part.1 ++ joint :: ([joint].intercalate ((next :: parts).map Prod.fst) ++ after) := by
      simp [List.intercalate_cons_cons]
    rw [tokens, chain, first]
    simp only [hjoint, if_true, others]
    rfl

/-- The tokens `ts` are the operand `p`, whatever comes after them. -/
structure Parses (ts : List Token) (p : Predicate) : Prop where
  nonempty : 0 < ts.length
  /-- They are read with as much fuel as there are tokens. -/
  reads : ∀ fuel, ts.length ≤ fuel → ∀ rest, operand fuel (ts ++ rest) = some (p, rest)

/-- There are at most as many `parts` as tokens in them. -/
theorem length_lt_intercalate (joint : Token) (part : List Token × Predicate)
    (parts : List (List Token × Predicate)) (h : ∀ q ∈ part :: parts, Parses q.1 q.2) :
    parts.length < ([joint].intercalate ((part :: parts).map Prod.fst)).length := by
  induction parts generalizing part with
  | nil =>
    have := (h part (by simp)).nonempty
    simpa using this
  | cons next parts ih =>
    have := ih next fun q hq => h q (List.mem_cons_of_mem _ hq)
    simp only [List.map_cons, List.intercalate_cons_cons, List.length_append, List.length_cons,
      List.length_nil] at this ⊢
    omega

/-- No part has more tokens than all of them together. -/
theorem length_le_intercalate (joint : Token) (parts : List (List Token × Predicate))
    {q : List Token × Predicate} (hq : q ∈ parts) :
    q.1.length ≤ ([joint].intercalate (parts.map Prod.fst)).length := by
  induction parts with
  | nil => cases hq
  | cons part parts ih =>
    cases parts with
    | nil =>
      have : q = part := by simpa using hq
      simp [this]
    | cons next parts =>
      simp only [List.map_cons, List.intercalate_cons_cons, List.length_append] at ih ⊢
      rcases List.mem_cons.1 hq with rfl | hq
      · omega
      · have := ih hq
        omega

/-- Operands joined by `and` are a `disjunction` of one conjunction. -/
theorem disjunction_conjunction (part : List Token × Predicate)
    (parts : List (List Token × Predicate)) (h : ∀ q ∈ part :: parts, Parses q.1 q.2)
    {after : List Token} (hafter : ∀ t ∈ after.head?, t.isAnd = false ∧ t.isOr = false) {fuel : Nat}
    (enough : ([Token.and].intercalate ((part :: parts).map Prod.fst)).length ≤ fuel) :
    disjunction (operand fuel) fuel ([Token.and].intercalate ((part :: parts).map Prod.fst) ++ after)
      = some (Predicate.joinAll .both part.2 (parts.map Prod.snd), after) := by
  have count := length_lt_intercalate .and part parts h
  refine chain_single .either (fun t ht => (hafter t ht).2) ?_ (by omega)
  refine chain_eq .both rfl (fun t ht => (hafter t ht).1) part parts ?_ (by omega)
  intro q hq rest _
  exact (h q hq).reads fuel (le_trans (length_le_intercalate .and _ hq) enough) rest

theorem disjunction_disjunction (part : List Token × Predicate)
    (parts : List (List Token × Predicate)) (h : ∀ q ∈ part :: parts, Parses q.1 q.2)
    {after : List Token} (hafter : ∀ t ∈ after.head?, t.isAnd = false ∧ t.isOr = false) {fuel : Nat}
    (enough : ([Token.or].intercalate ((part :: parts).map Prod.fst)).length ≤ fuel) :
    disjunction (operand fuel) fuel ([Token.or].intercalate ((part :: parts).map Prod.fst) ++ after)
      = some (Predicate.joinAll .either part.2 (parts.map Prod.snd), after) := by
  have count := length_lt_intercalate .or part parts h
  refine chain_eq .either rfl (fun t ht => (hafter t ht).2) part parts ?_ (by omega)
  intro q hq rest hrest
  refine chain_single .both ?_ ?_ (by omega)
  · rcases hrest with rfl | hrest
    · exact fun t ht => (hafter t ht).1
    · intro t ht
      obtain rfl : Token.or = t := by simpa [hrest] using ht
      rfl
  · exact (h q hq).reads fuel (le_trans (length_le_intercalate .or _ hq) enough) rest

namespace Parses

theorem leaf {t : Token} {ts : List Token} {p : Predicate}
    (notNot : t ≠ .not) (notOpening : t ≠ .opening)
    (h : ∀ rest, leaf? (t :: ts ++ rest) = some (p, rest)) : Parses (t :: ts) p where
  nonempty := by simp
  reads := by
    intro fuel enough rest
    obtain ⟨fuel, rfl⟩ := Nat.exists_eq_succ_of_ne_zero (n := fuel)
      (by rintro rfl; simp at enough)
    rw [← h rest]
    cases t <;> first | rfl | contradiction

theorem not {ts : List Token} {p : Predicate} (h : Parses ts p) :
    Parses (.not :: ts) (.not p) where
  nonempty := by simp
  reads := by
    intro fuel enough rest
    cases fuel with
    | zero => simp at enough
    | succ fuel => simp [operand, h.reads fuel (by simpa using enough) rest]

theorem parenthesized {ts : List Token} {p : Predicate}
    (h : ∀ fuel, ts.length ≤ fuel → ∀ rest,
      disjunction (operand fuel) fuel (ts ++ .closing :: rest) = some (p, .closing :: rest)) :
    Parses (.opening :: (ts ++ [.closing])) p where
  nonempty := by simp
  reads := by
    intro fuel enough rest
    cases fuel with
    | zero => simp at enough
    | succ fuel =>
      simp only [List.length_cons, List.length_append, List.length_nil] at enough
      have inner := h fuel (by omega) rest
      simp [operand, inner]

end Parses

end EntityStore.Sql
