import ProtoModules.Data.Json
import ProtoModules.Failure
import ProtoModules.Settings.Check
import ProtoModules.Text.Word

/-! Settings from the environment. A variable gives the field it is named for, with a mark in front
and in any case; lists and tables are written in JSON. What is given explicitly wins over the
environment, and tables are joined key by key. A few names among the settings are not settings but say
how the environment is read. -/

namespace ProtoModules
open Data

abbrev Environment := List (String × String)

namespace Environment

structure Reading where
  /-- What stands in front of the name of a field. -/
  mark : String := "protonest_"
  skipsEmpty : Bool := false

/-- The variable of a field. Of several that differ in case only the last one counts. -/
def written? (r : Reading) (env : Environment) (field : String) : Option String :=
  (env.reverse.find? fun item =>
    Text.foldName item.1 = Text.foldName (r.mark ++ field) && !(r.skipsEmpty && item.2.isEmpty)).map
      Prod.snd

def structured : List String := ["workspaces", "generator", "disable_comments"]

def generatorNames : List String :=
  ["protoc", "plugin", "service_plugin", "build_client", "build_server", "generate_transport",
    "type_attributes", "enum_attributes", "client_attributes", "server_attributes"]

/-- A name in any case, written as it is among the known ones. -/
def canonicalName (known : List String) (name : String) : String :=
  (known.find? fun n => n = Text.foldName name).getD name

/-- A table with the names of the generator section in any case. Of several names for one field the
last one gives its value, in the place of the first. -/
def canonicalKeys : Value → Value
  | .table fields =>
    .table (fields.foldl (fun done (key, v) =>
      match key with
      | .text name => Value.setNamed (canonicalName generatorNames name) v done
      | key => done ++ [(key, v)]) [])
  | v => v

/-- What the environment says about a field. Data that is too deep to be read ends the reading; data
that is wrong otherwise is reported with the field. -/
def fieldValue (r : Reading) (env : Environment) (field : String) : Except Failure (Option Value) :=
  match env.written? r field with
  | none => .ok none
  | some written =>
    if structured.contains field then
      match Json.read written with
      | .error .tooDeep => .error .tooDeep
      | .error _ => .error (.badVariable field)
      | .ok .null => .ok none
      | .ok v => .ok (some (if field = "generator" then canonicalKeys v else v))
    else .ok (some (.text written))

def fields (r : Reading) (env : Environment) : Except Failure (List (Value × Value)) := do
  let found ← Check.settingNames.mapM fun name => do
    return (← env.fieldValue r name).map fun v => (Value.text name, v)
  return found.filterMap id

end Environment

namespace Value

def joinField (name : String) (join : Value → Value) (v : Value) :
    List (Value × Value) → List (Value × Value)
  | [] => [(.text name, v)]
  | (key, old) :: rest =>
    if key.key? = some name then (key, join old) :: rest
    else (key, old) :: joinField name join v rest

mutual

/-- The second value over the first one: tables are joined at every depth, all else is replaced. -/
def onTop (below : Value) : Value → Value
  | .table above =>
    match below with
    | .table fields => .table (joinFields fields above)
    | _ => .table above
  | v => v

/-- The fields of the second table set in the first one. -/
def joinFields (below : List (Value × Value)) : List (Value × Value) → List (Value × Value)
  | [] => below
  | (key, v) :: rest =>
    match key with
    | .text name => joinFields (joinField name (fun old => onTop old v) v below) rest
    | key => joinFields (below ++ [(key, v)]) rest

end

end Value

/-- The fields of the top level under the names that they are declared by. Their case does not matter:
the first field of a name counts and the others are dropped. -/
def canonicalFields (fields : List (Value × Value)) : List (Value × Value) :=
  fields.foldl (fun done (key, v) =>
    match key with
    | .text name =>
      let known := Environment.canonicalName Check.settingNames name
      if (Value.lookup known done).isSome then done else done ++ [(.text known, v)]
    | key => done ++ [(key, v)]) []

/-- Names that steer how settings are read. They are written exactly like this. Only `_env_prefix` and
`_env_ignore_empty` are followed; the others are taken out without a word and without effect, also
those that name further places to read from (`_env_file`, `_secrets_dir`) or another way to tell and
to nest names (`_case_sensitive`, `_env_nested_delimiter`). -/
def steeringNames : List String :=
  ["_case_sensitive", "_nested_model_default_partial_update", "_env_prefix", "_env_file",
    "_env_file_encoding", "_env_ignore_empty", "_env_nested_delimiter", "_env_nested_max_split",
    "_env_parse_none_str", "_env_parse_enums", "_cli_prog_name", "_cli_parse_args",
    "_cli_settings_source", "_cli_parse_none_str", "_cli_hide_none_type", "_cli_avoid_json",
    "_cli_enforce_required", "_cli_use_class_docs_for_groups", "_cli_exit_on_error", "_cli_prefix",
    "_cli_flag_prefix_char", "_cli_implicit_flags", "_cli_ignore_unknown_args", "_cli_kebab_case",
    "_cli_shortcuts", "_secrets_dir"]

def isSteering (key : Value) : Bool := key.key?.any steeringNames.contains

/-- How some fields want the environment to be read: behind another mark, or without its empty variables. -/
def readingOf (fields : List (Value × Value)) : Environment.Reading where
  mark := match Value.lookup "_env_prefix" fields with
    | some (.text mark) => mark
    | _ => "protonest_"
  skipsEmpty := (Value.lookup "_env_ignore_empty" fields).any fun v => !v.isVoid

def Settings.checked (fields : List (Value × Value)) : Except Failure Settings :=
  (Check.settings fields).mapError fun path => .invalidSetting (".".intercalate path)

def Settings.ofFields (env : Environment) (fields : List (Value × Value)) : Except Failure Settings := do
  let given := fields.filter fun item => !isSteering item.1
  Settings.checked (Value.joinFields (← env.fields (readingOf fields)) (canonicalFields given))

end ProtoModules
