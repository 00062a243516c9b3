import EntityStore.Query.Clause
import Mathlib.Tactic.Common

/-!
# The truth of conditions

What a condition says about one row, in the three-valued logic of SQL. The truth is read off the
condition itself and not off its text, so a text can be compared with it.
-/

namespace EntityStore

/-! ## Three truth values -/

/-- A truth value of SQL. -/
inductive Truth where
  | no
  /-- Neither true nor false, as where `NULL` is compared. -/
  | unknown
  | yes
  deriving DecidableEq, Repr

namespace Truth

def ofBool (b : Bool) : Truth := if b then yes else no

def not : Truth → Truth
  | no => yes
  | unknown => unknown
  | yes => no

/-- The least of two values, where `no` is below `unknown` and `unknown` below `yes`. -/
def and : Truth → Truth → Truth
  | no, _ | _, no => no
  | yes, t => t
  | unknown, _ => unknown

/-- The greatest of two values, in the order that `and` has. -/
def or : Truth → Truth → Truth
  | yes, _ | _, yes => yes
  | no, t => t
  | unknown, _ => unknown

/-- The conjunction of several values; `yes` if there are none. -/
def all (ts : List Truth) : Truth := ts.foldr and yes

/-- The disjunction of several values; `no` if there are none. -/
def any (ts : List Truth) : Truth := ts.foldr or no

@[simp] theorem and_yes (t : Truth) : t.and yes = t := by cases t <;> rfl

@[simp] theorem or_no (t : Truth) : t.or no = t := by cases t <;> rfl

theorem and_assoc (a b c : Truth) : (a.and b).and c = a.and (b.and c) := by
  cases a <;> cases b <;> cases c <;> rfl

theorem or_assoc (a b c : Truth) : (a.or b).or c = a.or (b.or c) := by
  cases a <;> cases b <;> cases c <;> rfl

@[simp] theorem all_nil : all [] = yes := rfl

@[simp] theorem any_nil : any [] = no := rfl

@[simp] theorem all_cons (t : Truth) (ts : List Truth) : all (t :: ts) = t.and (all ts) := rfl

@[simp] theorem any_cons (t : Truth) (ts : List Truth) : any (t :: ts) = t.or (any ts) := rfl

theorem all_append (as bs : List Truth) : all (as ++ bs) = (all as).and (all bs) := by
  induction as with
  | nil => cases h : all bs <;> simp [h, and]
  | cons a as ih => simp [ih, and_assoc]

theorem any_append (as bs : List Truth) : any (as ++ bs) = (any as).or (any bs) := by
  induction as with
  | nil => cases h : any bs <;> simp [h, or]
  | cons a as ih => simp [ih, or_assoc]

end Truth

/-! ## Induction on conditions -/

namespace Condition

/-- What conjunction, disjunction and negation keep holds of every condition if it holds of the
leaves. -/
@[elab_as_elim, induction_eliminator]
theorem induction {motive : Condition → Prop}
    (compare : ∀ comparison column operand, motive (.compare comparison column operand))
    (oneOf : ∀ column operands, motive (.oneOf column operands))
    (between : ∀ column least greatest, motive (.between column least greatest))
    (isNull : ∀ column, motive (.isNull column))
    (isNotNull : ∀ column, motive (.isNotNull column))
    (all : ∀ conditions : List Condition, (∀ c ∈ conditions, motive c) → motive (.all conditions))
    (any : ∀ conditions : List Condition, (∀ c ∈ conditions, motive c) → motive (.any conditions))
    (not : ∀ condition, motive condition → motive (.not condition)) : ∀ c, motive c
  | .compare comparison column operand => compare comparison column operand
  | .oneOf column operands => oneOf column operands
  | .between column least greatest => between column least greatest
  | .isNull column => isNull column
  | .isNotNull column => isNotNull column
  | .all conditions =>
    all conditions fun c _ => induction compare oneOf between isNull isNotNull all any not c
  | .any conditions =>
    any conditions fun c _ => induction compare oneOf between isNull isNotNull all any not c
  | .not condition =>
    not condition (induction compare oneOf between isNull isNotNull all any not condition)

end Condition

/-! ## The truth of a condition -/

/-- The comparison that a dialect makes: `like` in place of `ilike`, unless it has a pattern match
of its own that is regardless of case. -/
def Comparison.inDialect (d : Dialect) : Comparison → Comparison
  | .ilike => if d.family = .postgres then .ilike else .like
  | comparison => comparison

theorem Comparison.sign_eq_symbol (d : Dialect) (comparison : Comparison) :
    comparison.sign d = (comparison.inDialect d).symbol := by
  cases comparison with
  | ilike => cases d <;> rfl
  | _ => rfl

/-- What the names, the operands and the comparisons of a condition mean for one row. -/
structure Meaning where
  /-- The value of the row in the column of a name. -/
  cell : String → Value
  /-- The stored form of an operand that is compared with the column of a name. -/
  stored : String → Value → Value
  compares : Comparison → Value → Value → Truth

namespace Condition

mutual

/-- What a condition says about a row. -/
def truth (m : Meaning) : Condition → Truth
  | .compare comparison column operand =>
    m.compares comparison (m.cell column) (m.stored column operand)
  | .oneOf column operands =>
    .any (operands.map fun v => m.compares .eq (m.cell column) (m.stored column v))
  | .between column least greatest =>
    (m.compares .ge (m.cell column) (m.stored column least)).and
      (m.compares .le (m.cell column) (m.stored column greatest))
  | .isNull column => .ofBool (m.cell column).isNull
  | .isNotNull column => .ofBool (!(m.cell column).isNull)
  | .all conditions => .all (truths m conditions)
  | .any conditions => .any (truths m conditions)
  | .not condition => (truth m condition).not

def truths (m : Meaning) : List Condition → List Truth
  | [] => []
  | condition :: rest => truth m condition :: truths m rest

end

@[simp] theorem truths_eq_map (m : Meaning) (conditions : List Condition) :
    truths m conditions = conditions.map (truth m) := by
  induction conditions with
  | nil => rfl
  | cons condition rest ih => rw [truths, ih, List.map_cons]

/-- Whether or not `a` takes `b` in. -/
theorem truth_both (m : Meaning) (a b : Condition) :
    (a.both b).truth m = (a.truth m).and (b.truth m) := by
  cases a with
  | all conditions => simp [both, truth, Truth.all_append]
  | _ => simp [both, truth]

/-- Whether or not `a` takes `b` in. -/
theorem truth_either (m : Meaning) (a b : Condition) :
    (a.either b).truth m = (a.truth m).or (b.truth m) := by
  cases a with
  | any conditions => simp [either, truth, Truth.any_append]
  | _ => simp [either, truth]

end Condition

/-- What a filter says about a row. -/
def Filter.truth (m : Meaning) : Filter → Truth
  | .matching r => .all (r.fields.map fun field => (Condition.equal field.1 field.2).truth m)
  | .condition c => c.truth m

/-! ## Names in a query -/

namespace Query

/-- The text by which a statement of `q` refers to the column `name`: without a qualifier, a column
of the table is qualified by the other name of the table, if it has one. -/
def columnText (q : Query) (name : String) : String :=
  match q.rename with
  | some table =>
    if (Identifier.qualifier? name).isNone && (q.table.column? name).isSome
    then table ++ "." ++ name else name
  | none => name

/-- The column of the table to which `name` refers. What is qualified by another table refers to
none, and neither does a name that the select list gives. -/
def columnOf? (q : Query) (name : String) : Option Column :=
  match Identifier.qualifier? name with
  | some (qualifier, rest) =>
    if qualifier = q.root ∨ qualifier = q.table.name then q.table.column? rest else none
  | none => q.table.column? name

theorem columnOf?_unqualified {q : Query} {name : String}
    (unqualified : Identifier.qualifier? name = none) : q.columnOf? name = q.table.column? name := by
  unfold columnOf?
  rw [unqualified]

/-- A name that is resolved is an identifier, and it is resolved to its text and its column. -/
theorem resolve_eq_ok {q : Query} {selectNames : List String} {name : String} {r : Reference}
    (h : q.resolve selectNames name = .ok r) :
    Identifier.isValid name false = true ∧ r = ⟨q.columnText name, q.columnOf? name⟩ := by
  unfold resolve at h
  split at h
  · cases h
  · rename_i valid
    refine ⟨by simpa using valid, ?_⟩
    split at h
    · rename_i qualifier rest hq
      have text : q.columnText name = name := by
        unfold columnText
        cases q.rename <;> simp [hq]
      split at h
      · rename_i foreign
        obtain ⟨hroot, hname⟩ := foreign
        cases h
        simp [columnOf?, hq, text, hroot, hname]
      · rename_i own
        have own : qualifier = q.root ∨ qualifier = q.table.name := by tauto
        unfold Table.column at h
        cases hc : q.table.column? rest with
        | none => simp [hc, Except.map] at h
        | some column =>
          simp only [hc, Except.map, Except.ok.injEq] at h
          rw [← h]
          simp [columnOf?, hq, text, own, hc]
    · rename_i hq
      cases hc : q.table.column? name with
      | some column =>
        simp only [hc, Except.ok.injEq] at h
        rw [← h]
        simp only [columnOf?, columnText, hq, hc]
        cases q.rename <;> simp
      | none =>
        simp only [hc] at h
        split at h
        · cases h
          simp only [columnOf?, columnText, hq, hc]
          cases q.rename <;> simp
        · cases h

/-- What a condition of `q` means for a `row`, given by the texts that refer to its columns, if
`compares` is what the comparisons of the dialect come to. -/
def meaning (q : Query) (d : Dialect) (compares : Comparison → Value → Value → Truth)
    (row : String → Value) : Meaning where
  cell name := row (q.columnText name)
  stored name := toStorage (q.columnOf? name)
  compares comparison := compares (comparison.inDialect d)

end Query

end EntityStore
