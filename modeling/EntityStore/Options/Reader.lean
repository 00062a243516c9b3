import EntityStore.Options
import EntityStore.Yaml.Document

/-!
# Options in a configuration document

The options stand in the section `database` of a document. What is not stated there has its usual
value, and statements that mean nothing to this library are not looked at.
-/

namespace EntityStore.Options

open EntityStore.Yaml (Document)

/-- Report what is missing as `Error.unreadableConfig`. -/
def orUnreadable {α : Type} : Option α → Except Error α
  | some a => .ok a
  | none => .error .unreadableConfig

def names : List String :=
  ["dialect", "synchronize", "migrations_table", "migrations_run", "strict_isolation", "logging"]

/-- Set the option `name` to what `value` states. -/
def setNamed (o : Options) (name : String) (value : Document) : Except Error Options :=
  match name with
  | "dialect" => do
    return { o with dialect := ← orUnreadable (value.name?.bind Dialect.ofName?) }
  | "synchronize" => do return { o with synchronize := ← orUnreadable value.bool? }
  | "migrations_table" => do return { o with migrationsTable := ← orUnreadable value.text? }
  | "migrations_run" => do return { o with migrationsRun := ← orUnreadable value.bool? }
  | "strict_isolation" => do return { o with strictIsolation := ← orUnreadable value.bool? }
  | "logging" => do return { o with logging := ← orUnreadable value.bool? }
  | _ => return o

/-- The options that the `entries` of a section state. Every key has to be a text, and no option may
be stated twice. -/
def ofEntries (entries : List (Document × Document)) : Except Error Options := do
  let named ← entries.mapM fun entry => do
    return (← orUnreadable entry.1.text?, entry.2)
  let stated := (named.map Prod.fst).filter names.contains
  if stated.Nodup then named.foldlM (fun o entry => o.setNamed entry.1 entry.2) {}
  else .error .unreadableConfig

def ofSection (part : Document) : Except Error Options :=
  match part.untagged with
  | .mapping entries => ofEntries entries
  | .null => .ok {}
  | _ => .error .unreadableConfig

def isKey (word : String) : Document → Bool
  | .text s => s == word
  | _ => false

/-- The section of a document that holds the options, if it has one. -/
def section? (d : Document) : Option Document :=
  match d.untagged with
  | .mapping entries => (entries.find? fun entry => isKey "database" entry.1).map Prod.snd
  | _ => none

/-- The options that a configuration with this `text` states. -/
def read (text : String) : Except Error Options := do
  let document ← orUnreadable (Document.read? text)
  let options ← match section? document with
    | some part => ofSection part
    | none => pure {}
  options.validate
  return options

end EntityStore.Options
