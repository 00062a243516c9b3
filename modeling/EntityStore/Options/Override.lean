import EntityStore.Options
import EntityStore.Yaml.Document

/-!
# Overriding options

Named settings, such as those of the environment of a program, take the place of options. The name
of a setting is the name of an option, in any case, after the common beginning of all such names.
Settings are taken in order, and those before a wrong one have been taken.
-/

namespace EntityStore.Options

/-- What the names of all settings begin with. -/
def settingHead : String := "R2E_ORM_"

/-- The name of the option to which a `setting` belongs, as it stands behind `settingHead`. -/
def optionName? (setting : String) : Option String :=
  if settingHead.toList.isPrefixOf setting.toList then
    some (String.ofList (setting.toList.drop settingHead.length))
  else none

/-- The truth value that the setting `name` states by `value`. -/
def readFlag (name value : String) : Except Error Bool :=
  let word := String.ofList (value.toList.map Char.toLower)
  if ["1", "true", "yes", "on"].contains word then .ok true
  else if ["0", "false", "no", "off"].contains word then .ok false
  else .error (.config (settingHead ++ name ++ ": expected a boolean, got '" ++ value ++ "'"))

/-- The dialect that a `value` names as a document of one scalar. -/
def readDialect (value : String) : Except Error Dialect :=
  match ((Yaml.root? value).join.bind Yaml.Node.name?).bind Dialect.ofName? with
  | some dialect => .ok dialect
  | none => .error (.config ("unknown dialect '" ++ value ++ "'"))

/-- Take one `setting`. One that is not about an option changes nothing. -/
def override (o : Options) (setting value : String) : Except Error Options :=
  match optionName? setting with
  | none => .ok o
  | some name => do
    match String.ofList (name.toList.map Char.toLower) with
    | "dialect" => do return { o with dialect := ← readDialect value }
    | "synchronize" => do return { o with synchronize := ← readFlag name value }
    | "migrations_table" => do return { o with migrationsTable := value }
    | "migrations_run" => do return { o with migrationsRun := ← readFlag name value }
    | "strict_isolation" => do return { o with strictIsolation := ← readFlag name value }
    | "logging" => do return { o with logging := ← readFlag name value }
    | _ => return o

/-- Take settings in order, up to the first wrong one. Answers the options with what was taken, and
the error, if any. -/
def overrideAll (o : Options) : List (String × String) → Options × Except Error Unit
  | [] => (o, o.validate)
  | (setting, value) :: rest =>
    match o.override setting value with
    | .ok next => next.overrideAll rest
    | .error e => (o, .error e)

end EntityStore.Options
