import EntityStore.Record

/-!
# Conditions

Predicates over the rows of a table. A leaf names a column and operands; leaves are put together by
conjunction, disjunction and negation. Names are not checked here, but when a query is compiled.

A `Filter` is either such a condition or a record whose fields all have to be matched.
-/

namespace EntityStore

/-- A comparison of a column with one operand. -/
inductive Comparison where
  | eq
  | ne
  | gt
  | ge
  | lt
  | le
  | like
  /-- Like `like`, but regardless of case. -/
  | ilike
  deriving DecidableEq, Repr

/-- The sign of a comparison that is the same in every dialect. -/
def Comparison.symbol : Comparison → String
  | eq => "="
  | ne => "!="
  | gt => ">"
  | ge => ">="
  | lt => "<"
  | le => "<="
  | like => "LIKE"
  | ilike => "ILIKE"

/-- A condition on rows. -/
inductive Condition where
  | compare (comparison : Comparison) (column : String) (operand : Value)
  /-- The value of `column` is one of the `operands`. -/
  | oneOf (column : String) (operands : List Value)
  /-- The value of `column` lies between `least` and `greatest`, or is one of them. -/
  | between (column : String) (least greatest : Value)
  | isNull (column : String)
  | isNotNull (column : String)
  | all (conditions : List Condition)
  | any (conditions : List Condition)
  | not (condition : Condition)
  deriving Inhabited

namespace Condition

/-- Whether a condition is put together from others. -/
def isComposite : Condition → Bool
  | .all _ | .any _ | .not _ => true
  | _ => false

def column? : Condition → Option String
  | .compare _ column _ | .oneOf column _ | .between column _ _ | .isNull column
  | .isNotNull column => some column
  | .all _ | .any _ | .not _ => none

/-- The conjunction of two conditions; if `first` is `.all` already, it takes `second` in. -/
def both (first second : Condition) : Condition :=
  match first with
  | .all conditions => .all (conditions ++ [second])
  | _ => .all [first, second]

/-- The disjunction of two conditions; if `first` is `.any` already, it takes `second` in. -/
def either (first second : Condition) : Condition :=
  match first with
  | .any conditions => .any (conditions ++ [second])
  | _ => .any [first, second]

def equal (column : String) (operand : Value) : Condition := .compare .eq column operand

end Condition

/-- What the rows of a query have to fulfil. -/
inductive Filter where
  /-- Every field of `r` is matched, in the order of the fields. -/
  | matching (r : Record)
  | condition (c : Condition)

end EntityStore
