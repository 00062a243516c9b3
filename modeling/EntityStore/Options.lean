import EntityStore.Dialect
import EntityStore.Error
import EntityStore.Identifier

/-!
# Options

What a data source is told about its database and about what to do when it starts.
-/

namespace EntityStore

/-- The options of a data source. -/
structure Options where
  dialect : Dialect := .sqlite
  /-- Whether missing tables are created at the start. -/
  synchronize : Bool := false
  /-- The table in which executed migrations are listed. -/
  migrationsTable : String := "migrations"
  /-- Whether pending migrations are executed at the start. -/
  migrationsRun : Bool := false
  /-- Whether an `IsolationLevel` that the dialect cannot set is an error. -/
  strictIsolation : Bool := false
  logging : Bool := true
  deriving DecidableEq, Repr

namespace Options

/-- The `migrationsTable` has to be an identifier. -/
def validate (o : Options) : Except Error Unit :=
  if Identifier.isValid o.migrationsTable false then .ok ()
  else .error (.invalidIdentifier .table o.migrationsTable)

end Options

end EntityStore
