import EntityStore.Query.Clause

/-!
# Statements that read

The statement of a query, and the statement that reads one number of all its rows. Every identifier
is checked before a statement exists, so none of them brings foreign text into it; the expressions
of the select list and the conditions of joins are taken as they are.
-/

namespace EntityStore

/-- The error for a `text` that is no identifier, in the given `role`. -/
def checkIdentifier (role : IdentifierRole) (text : String) : Except Error Unit :=
  if Identifier.isValid text false then .ok () else .error (.invalidIdentifier role text)

def Join.sql (j : Join) : Except Error Sql := do
  checkIdentifier .table j.table
  checkIdentifier .tableAlias j.name
  return [.text (" " ++ j.kind.word ++ " JOIN " ++ j.table ++ " " ++ j.name ++ " ON " ++
    j.condition)]

namespace Query

/-- The table with the name under which it is used. -/
def tableText (q : Query) : String :=
  match q.rename with
  | some name => q.table.name ++ " " ++ name
  | none => q.table.name

/-- The clause that begins with `word` and goes on with a filter, if there is one. -/
def filterClause (q : Query) (d : Dialect) (word : String) (selectNames : List String) :
    Option Filter → Except Error Sql
  | none => return []
  | some filter => do return .text word :: (← filter.sql d (q.resolve selectNames))

def whereClause (q : Query) (d : Dialect) : Except Error Sql :=
  q.filterClause d " WHERE " [] q.filter

/-- The clause that begins with `word` and goes on with `items`, left out if there are none. -/
def listClause (word : String) (items : List String) : Sql :=
  if items.isEmpty then [] else [.text (word ++ ", ".intercalate items)]

def groupClause (q : Query) : Except Error Sql := do
  let columns ← q.groups.mapM fun column => do return (← q.resolve q.selectNames column).text
  return listClause " GROUP BY " columns

def orderClause (q : Query) : Except Error Sql := do
  let columns ← q.order.mapM fun (column, direction) => do
    return (← q.resolve q.selectNames column).text ++ " " ++ direction.word
  return listClause " ORDER BY " columns

/-- The clause that begins with `word` and goes on with a number, if there is one. -/
def numberClause (word : String) : Option Nat → Sql
  | some n => [.text (word ++ toString n)]
  | none => []

/-- The pieces of the statement of a query. -/
def selectSql (q : Query) (d : Dialect) : Except Error Sql := do
  let columns := if q.selected.isEmpty then "*" else ", ".intercalate q.selected
  let joins ← q.joins.mapM Join.sql
  let rows ← q.whereClause d
  let groups ← q.groupClause
  let having ← q.filterClause d " HAVING " q.selectNames q.having
  let order ← q.orderClause
  return [.text ("SELECT " ++ columns ++ " FROM " ++ q.tableText)] ++ joins.flatten ++ rows ++
    groups ++ having ++ order ++ numberClause " LIMIT " q.limit ++ numberClause " OFFSET " q.offset

/-- The pieces of the statement that reads one `expression` over all rows, under a `name`. -/
def aggregateSql (q : Query) (d : Dialect) (expression name : String) : Except Error Sql := do
  let rows ← q.whereClause d
  return .text ("SELECT " ++ expression ++ " AS " ++ name ++ " FROM " ++ q.tableText) :: rows

/-- The statement of a query, as it is sent in the dialect `d`. -/
def selectStatement (q : Query) (d : Dialect) : Except Error Statement := do
  return (← q.selectSql d).statement d

/-- The statement that reads one `expression` over all rows, as it is sent in the dialect `d`. -/
def aggregateStatement (q : Query) (d : Dialect) (expression name : String) :
    Except Error Statement := do
  return (← q.aggregateSql d expression name).statement d

/-- The statement that reads the number of rows. -/
def countStatement (q : Query) (d : Dialect) : Except Error Statement :=
  q.aggregateStatement d "COUNT(*)" "count"

end Query

end EntityStore
