import EntityStore.Identifier
import EntityStore.Query

/-!
# References to columns

What a name in a query refers to. A name without qualifier refers to a column of the table or, where
that is allowed, to a name given in the select list. A name qualified by the table refers to one of
its columns, too. A name qualified otherwise belongs to a joined table, of which nothing is known.
-/

namespace EntityStore

/-- A reference to a column in a statement. -/
structure Reference where
  text : String
  /-- The declared column that the reference means, if it is known. -/
  column : Option Column

namespace Query

/-- What `name` refers to, where the `selectNames` may be referred to, too. -/
def resolve (q : Query) (selectNames : List String) (name : String) : Except Error Reference :=
  if !Identifier.isValid name false then .error (.invalidIdentifier .column name)
  else
    match Identifier.qualifier? name with
    | some (qualifier, rest) =>
      if qualifier ≠ q.root ∧ qualifier ≠ q.table.name then .ok ⟨name, none⟩
      else (q.table.column rest).map fun column => ⟨name, some column⟩
    | none =>
      match q.table.column? name with
      | some column =>
        .ok ⟨(match q.rename with
          | some table => table ++ "." ++ name
          | none => name), some column⟩
      | none =>
        if selectNames.contains name then .ok ⟨name, none⟩
        else .error (.unknownColumn q.table.name name)

/-- The names that the select list gives to its columns. -/
def selectNames (q : Query) : List String := q.selected.filterMap Identifier.selectName?

end Query

end EntityStore
