import EntityStore.Query.Reference
import EntityStore.Sql
import EntityStore.Storage

/-!
# Conditions in statements

A condition is turned into text in two steps. First it is put into the terms of the database: every
column is replaced by the text that refers to it, and every operand by its stored form. All errors
arise here, and the first one in reading order is reported. The result is a condition again, and the
second step writes it down; that cannot fail.
-/

namespace EntityStore

namespace Condition

mutual

/-- The condition in the terms of the database: every name is replaced by the text of what it is
`resolve`d to, and every operand by its stored form. -/
def inStorage (resolve : String → Except Error Reference) : Condition → Except Error Condition
  | .compare comparison column operand => do
    let r ← resolve column
    return .compare comparison r.text (toStorage r.column operand)
  | .oneOf column operands => do
    let r ← resolve column
    return .oneOf r.text (operands.map (toStorage r.column))
  | .between column least greatest => do
    let r ← resolve column
    return .between r.text (toStorage r.column least) (toStorage r.column greatest)
  | .isNull column => do return .isNull (← resolve column).text
  | .isNotNull column => do return .isNotNull (← resolve column).text
  | .all conditions => do return .all (← allInStorage resolve conditions)
  | .any conditions => do return .any (← allInStorage resolve conditions)
  | .not condition => do return .not (← inStorage resolve condition)

def allInStorage (resolve : String → Except Error Reference) :
    List Condition → Except Error (List Condition)
  | [] => return []
  | condition :: rest => do
    let first ← inStorage resolve condition
    return first :: (← allInStorage resolve rest)

end

/-- Whether the text of a condition is in parentheses of its own. -/
def isGrouped : Condition → Bool
  | .all conditions | .any conditions => !conditions.isEmpty
  | _ => false

end Condition

def Comparison.sign (d : Dialect) : Comparison → String
  | .ilike => d.ilike
  | comparison => comparison.symbol

/-- What holds for every row. -/
def Sql.always : Sql := [.text "1 = 1"]

/-- What holds for no row. -/
def Sql.never : Sql := [.text "1 = 0"]

namespace Condition

mutual

/-- The pieces of a condition that is in the terms of the database. -/
def sql (d : Dialect) : Condition → Sql
  | .compare comparison column operand =>
    [.text (column ++ " " ++ comparison.sign d ++ " "), .bound operand]
  | .oneOf _ [] => Sql.never
  | .oneOf column operands =>
    [.text (column ++ " IN (")] ++ Sql.joined ", " (operands.map fun v => [.bound v]) ++
      [.text ")"]
  | .between column least greatest =>
    [.text (column ++ " BETWEEN "), .bound least, .text " AND ", .bound greatest]
  | .isNull column => [.text (column ++ " IS NULL")]
  | .isNotNull column => [.text (column ++ " IS NOT NULL")]
  | .all [] => Sql.always
  | .all conditions => [.text "("] ++ Sql.joined " AND " (sqlOfEach d conditions) ++ [.text ")"]
  | .any [] => Sql.never
  | .any conditions => [.text "("] ++ Sql.joined " OR " (sqlOfEach d conditions) ++ [.text ")"]
  | .not condition =>
    if condition.isGrouped then .text "NOT " :: sql d condition
    else [.text "NOT ("] ++ sql d condition ++ [.text ")"]

def sqlOfEach (d : Dialect) : List Condition → List Sql
  | [] => []
  | condition :: rest => sql d condition :: sqlOfEach d rest

end

end Condition

/-- The fields of a record in the terms of the database, as `Condition.inStorage` has conditions. -/
def fieldsInStorage (resolve : String → Except Error Reference) :
    List (String × Value) → Except Error (List (String × Value))
  | [] => return []
  | (column, value) :: rest => do
    let r ← resolve column
    return (r.text, toStorage r.column value) :: (← fieldsInStorage resolve rest)

/-- The pieces of a filter. The fields of a record are compared one after another, without
parentheses. -/
def Filter.sql (d : Dialect) (resolve : String → Except Error Reference) :
    Filter → Except Error Sql
  | .matching r => do
    let fields ← fieldsInStorage resolve r.fields
    return if fields.isEmpty then Sql.always else equations " AND " fields
  | .condition c => do return (← c.inStorage resolve).sql d

end EntityStore
