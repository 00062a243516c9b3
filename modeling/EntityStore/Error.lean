/-!
# Errors

The causes for which an operation of this library fails, and the text of each. All but one of them
point at a mistake in a declaration, a query or a configuration, and are found before the database
is asked; `database` reports what a driver refused.
-/

namespace EntityStore

/-- What an identifier names; stated in the text of `Error.invalidIdentifier`. -/
inductive IdentifierRole where
  | column
  | table
  | tableAlias
  deriving DecidableEq, Repr

def IdentifierRole.word : IdentifierRole → String
  | .column => "column"
  | .table => "table"
  | .tableAlias => "alias"

/-- The cause of a failure. -/
inductive Error where
  | entityNotRegistered (entity : String)
  /-- A record is addressed by its primary key, but `table` declares none. -/
  | noPrimaryColumn (table : String)
  /-- Two migrations are declared for one `timestamp`. -/
  | duplicateTimestamp (timestamp : Int)
  /-- The history lists a migration that is not declared. -/
  | migrationNotFound (timestamp : Int) (name : String)
  /-- The driver does not support transactions. -/
  | transactionUnsupported
  /-- A transaction scope is used in a state that does not allow it. -/
  | transactionInactive
  /-- The dialect has no statement for an isolation `level` that has to be set. -/
  | unsupportedIsolation (level : String)
  /-- A query refers to a `column` that `table` does not declare. -/
  | unknownColumn (table column : String)
  /-- A `text` that has to be an identifier is none. -/
  | invalidIdentifier (role : IdentifierRole) (text : String)
  /-- A stored row does not fit the entity. -/
  | mapping (message : String)
  | config (message : String)
  /-- A configuration cannot be read as a document. -/
  | unreadableConfig
  /-- The driver refused a statement. -/
  | database (cause : String)
  deriving DecidableEq, Repr

namespace Error

def name : Error → String
  | entityNotRegistered _ => "EntityNotRegistered"
  | noPrimaryColumn _ => "NoPrimaryColumn"
  | duplicateTimestamp _ => "DuplicateMigrationTimestamp"
  | migrationNotFound _ _ => "MigrationNotFound"
  | transactionUnsupported => "TransactionUnsupported"
  | transactionInactive => "TransactionInactive"
  | unsupportedIsolation _ => "UnsupportedIsolation"
  | unknownColumn _ _ => "UnknownColumn"
  | invalidIdentifier _ _ => "InvalidIdentifier"
  | mapping _ => "Mapping"
  | config _ | unreadableConfig => "Config"
  | database _ => "Database"

/-- The text of an error. The reason why a document cannot be read is not part of it. -/
def message : Error → String
  | entityNotRegistered entity => "Entity " ++ entity ++ " is not registered"
  | noPrimaryColumn table => "No primary column found for " ++ table
  | duplicateTimestamp timestamp => "Duplicate migration timestamp: " ++ toString timestamp
  | migrationNotFound timestamp name =>
    "Migration not found: " ++ name ++ " (" ++ toString timestamp ++ ")"
  | transactionUnsupported => "Driver does not support transactions"
  | transactionInactive => "Transaction is not active"
  | unsupportedIsolation level =>
    "Isolation level " ++ level ++ " is not supported by this dialect"
  | unknownColumn table column => "Unknown column '" ++ column ++ "' on table " ++ table
  | invalidIdentifier role text => "Invalid " ++ role.word ++ " identifier: " ++ text
  | mapping message => "Mapping error: " ++ message
  | config message => "Config error: " ++ message
  | unreadableConfig => "Config error: the document cannot be read"
  | database cause => "Database error: " ++ cause

/-- Whether the error points at a mistake in the program, and not at the database. -/
def isStructural : Error → Bool
  | database _ => false
  | _ => true

/-- The reason of the driver, if it has refused a statement. -/
def cause? : Error → Option String
  | database cause => some cause
  | _ => none

/-- Report `e` as the refusal of a driver. -/
def asDatabase (e : Error) : Error := database e.message

end Error

end EntityStore
