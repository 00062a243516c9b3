import EntityStore.Proofs.Ascending
import EntityStore.Proofs.Condition.Truth
import EntityStore.Query.Select

/-!
# The answer of a query

What a database answers to a query of one table without groups: the rows that its filter lets
through, in an arrangement that its order allows, cut to the wanted window. How values are compared
and sorted is left to the database.
-/

namespace EntityStore

/-- How a database reads and compares the values of rows. -/
structure Reading where
  /-- The value of a row in a column, given by the text that refers to it. -/
  cell : Record → String → Value
  compares : Comparison → Value → Value → Truth
  /-- The first of two values comes no later than the second one in ascending order. -/
  sorts : Value → Value → Prop

namespace Reading

/-- Whole numbers are compared and sorted by their size. -/
structure Numbers (m : Reading) : Prop where
  greater : ∀ a b, m.compares .gt (.int a) (.int b) = .ofBool (decide (b < a))
  sorts : ∀ a b, m.sorts (.int a) (.int b) ↔ a ≤ b

/-- A row may come before another one in the order of several columns, each given by its `text`. -/
def InOrder (m : Reading) (text : String → String) :
    List (String × Direction) → Record → Record → Prop
  | [], _, _ => True
  | (name, .asc) :: rest, a, b => m.sorts (m.cell a (text name)) (m.cell b (text name)) ∧
    (m.sorts (m.cell b (text name)) (m.cell a (text name)) → m.InOrder text rest a b)
  | (name, .desc) :: rest, a, b => m.sorts (m.cell b (text name)) (m.cell a (text name)) ∧
    (m.sorts (m.cell a (text name)) (m.cell b (text name)) → m.InOrder text rest a b)

end Reading

namespace Query

variable (q : Query) (d : Dialect) (m : Reading)

/-- A row is wanted if the filter is true of it. -/
def wants (row : Record) : Bool :=
  match q.filter with
  | some f => decide (f.truth (q.meaning d m.compares (m.cell row)) = .yes)
  | none => true

/-- The wanted part of `rows` in order. -/
def window (rows : List Record) : List Record :=
  match q.limit with
  | some n => (rows.drop (q.offset.getD 0)).take n
  | none => rows.drop (q.offset.getD 0)

/-- The `rows` are an answer to `q` if its table has the given `contents`. -/
def Answers (contents rows : List Record) : Prop :=
  ∃ arranged : List Record, arranged.Perm (contents.filter (q.wants d m)) ∧
    arranged.Pairwise (m.InOrder q.columnText q.order) ∧ rows = q.window arranged

end Query

/-- The answer to a query in the order of distinct numbers is determined by the `contents`. -/
theorem Query.Answers.eq_window {q : Query} {d : Dialect} {m : Reading} {contents rows : List Record}
    {name : String} {key : Record → Int} (answers : q.Answers d m contents rows)
    (numbers : m.Numbers) (order : q.order = [(name, .asc)])
    (cells : ∀ row ∈ contents, m.cell row (q.columnText name) = .int (key row))
    (distinct : (contents.map key).Nodup) {sorted : List Record}
    (perm : sorted.Perm contents) (ascending : Ascending key sorted) :
    rows = q.window (sorted.filter (q.wants d m)) := by
  obtain ⟨arranged, wanted, inOrder, rfl⟩ := answers
  have mem : ∀ row ∈ arranged, row ∈ contents := by
    intro row hrow
    exact List.mem_of_mem_filter (wanted.mem_iff.1 hrow)
  have nondecreasing : arranged.Pairwise fun a b => key a ≤ key b := by
    refine inOrder.imp_of_mem ?_
    intro a b ha hb h
    rw [order] at h
    have least := h.1
    rw [cells a (mem a ha), cells b (mem b hb)] at least
    exact (numbers.sorts _ _).1 least
  have apart : (arranged.map key).Nodup := by
    refine (wanted.map key).nodup_iff.2 ?_
    exact distinct.sublist (List.filter_sublist.map key)
  have same : arranged = sorted.filter (q.wants d m) :=
    (Ascending.of_nodup nondecreasing apart).unique (ascending.sublist List.filter_sublist)
      (wanted.trans (perm.filter _).symm)
  rw [same]

end EntityStore
