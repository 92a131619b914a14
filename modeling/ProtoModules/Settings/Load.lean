import ProtoModules.Data.Json
import ProtoModules.Data.Toml
import ProtoModules.Data.Yaml.Meaning
import ProtoModules.Settings.Environment
import ProtoModules.Tool.PackageFile

/-! Settings from a file: the one that is named, or else the first one found in the working directory.
A project file may hold them too, in a section of their own. -/

namespace ProtoModules
open Data Disk

structure Surroundings where
  disk : Disk
  environment : Environment
  home : String

namespace Settings

/-- How many collections in one another settings are looked for in. -/
def reach : Nat := 8

/-- What a file holds: JSON if its name ends like that, YAML if not. -/
def readData (d : Disk) (file : String) : Except Failure Value := do
  let text ← Tool.readText d (Path.ofString file)
  if ".json".toList.isSuffixOf file.toList then
    (Json.read (String.ofList text)).mapError (.ofRefusal .json)
  else (Yaml.read reach text).mapError (.ofRefusal .yaml)

/-- The settings in the data of a file; a file that says nothing leaves all to the environment. -/
def ofData (env : Environment) (source : String) (v : Value) : Except Failure Settings := do
  let fields ←
    if v.isVoid then pure []
    else match v with
      | .table fields =>
        if fields.all fun item => item.1.key?.isSome then pure fields else .error .noTable
      | _ => .error .noTable
  match Settings.ofFields env fields with
  | .error (.invalidSetting field) =>
    .error (.error (.configuration .invalid (some source) (some field)))
  | result => result

/-- The names of settings files, the first one that is there counts. -/
def fileNames : List String := ["protonest.yaml", "protonest.yml", "protonest.json"]

def projectFile : String := "pyproject.toml"

def sectionName : String := "protonest"

/-- The section of a project file that is meant for this program, if it has one. -/
def ownSection? (project : Value) : Except Failure (Option Value) :=
  let tool := match project with
    | .table fields => (Value.lookup "tool" fields).getD (.table [])
    | _ => .table []
  match tool with
  | .table fields => .ok (Value.lookup sectionName fields)
  | .text s => if Text.holds sectionName.toList s.toList then .error .noTable else .ok none
  | .list items =>
    if items.any fun item => item.key? = some sectionName then .error .noTable else .ok none
  | _ => .error .noTable

def ofProject? (s : Surroundings) : Except Failure (Option Settings) := do
  if !s.disk.hasEntry (Path.ofString projectFile) then return none
  let text ← Tool.readText s.disk (Path.ofString projectFile)
  let project ← (Toml.read text).mapError (.ofRefusal .toml)
  match ← ownSection? project with
  | none => return none
  | some v => some <$> ofData s.environment (s.home ++ "/" ++ projectFile) v

/-- The settings in a file, or in one that is found if none is named. -/
def load (s : Surroundings) (file : Option String) : Except Failure Settings := do
  match file.filter fun name => !name.isEmpty with
  | some name =>
    if !s.disk.hasEntry (Path.ofString name) then
      .error (.error (.configuration .fileNotFound (some name) none))
    else ofData s.environment name (← readData s.disk name)
  | none =>
    match fileNames.find? fun name => s.disk.hasEntry (Path.ofString name) with
    | some name => ofData s.environment (s.home ++ "/" ++ name) (← readData s.disk name)
    | none =>
      match ← ofProject? s with
      | some settings => return settings
      | none => .error (.error (.configuration .nothingFound none none))

end Settings

end ProtoModules
