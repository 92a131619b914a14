import ProtoModules.Settings.Basic
import ProtoModules.Tool.PackageFile
import ProtoModules.Tool.Run

/-! The protobuf compiler, which writes one source file per package through its plugins. The definition
files and include directories are put in order and named once each, so what runs does not depend
on how they were listed. Without a work directory the output lives as long as the run. -/

namespace ProtoModules.Tool
open Text Disk Source

structure Protoc where
  executable : String := "protoc"
  plugin : String := "prost"
  options : List String := []
  servicePlugin : Option String := none
  serviceOptions : List String := []
  workDir : Option Path := none
  knownVersion : Option (Option String) := none

namespace Protoc

def attributeOptions (kind : String) (attributes : List Attribute) : List String :=
  attributes.map fun (path, text) => kind ++ "=" ++ path ++ "=" ++ text

/-- The options of the service plugin: what it leaves out and the attributes of its modules. -/
def serviceOptionsOf (g : GeneratorSettings) : List String :=
  (if g.buildClient then [] else ["no_client"]) ++ (if g.buildServer then [] else ["no_server"])
    ++ (if g.generateTransport then [] else ["no_transport"])
    ++ attributeOptions "client_mod_attribute" g.clientAttributes
    ++ attributeOptions "server_mod_attribute" g.serverAttributes

/-- An empty work directory counts as none. -/
def ofSettings (g : GeneratorSettings) (workDir : Option String) : Protoc :=
  let services := g.buildClient || g.buildServer
  { executable := g.protoc
    plugin := g.plugin
    options := attributeOptions "type_attribute" g.typeAttributes
      ++ attributeOptions "enum_attribute" g.enumAttributes
    servicePlugin := if services then some g.servicePlugin else none
    serviceOptions := if services then serviceOptionsOf g else []
    workDir := (workDir.filter fun dir => !dir.isEmpty).map Path.ofString }

def pluginArguments (plugin : String) (out : Path) (options : List String) : List String :=
  ("--" ++ plugin ++ "_out=" ++ out.toString)
    :: options.map fun option => "--" ++ plugin ++ "_opt=" ++ option

def activeService (g : Protoc) : Option String := g.servicePlugin.filter fun plugin => !plugin.isEmpty

def command (g : Protoc) (out : Path) (files includes : List Path) : Command :=
  let services := match g.activeService with
    | some plugin => pluginArguments plugin out g.serviceOptions
    | none => []
  g.executable :: pluginArguments g.plugin out g.options ++ services
    ++ includes.map (fun path => "-I" ++ path.toString) ++ files.map Path.toString

/-- The version that the compiler tells, asked for once. -/
def version (tools : Toolchain) (g : Protoc) : Action (Option String × Protoc) := do
  match g.knownVersion with
  | some known => return (known, g)
  | none =>
    let command := [g.executable, "--version"]
    Action.record command
    let told := match tools.version command with
      | .exited 0 output _ => String.ofList (trim output.toList)
      | _ => ""
    let known := if told.isEmpty then none else some told
    return (known, { g with knownVersion := some known })

/-- Removes the source files in the work directory, so that none of an earlier run is read. -/
def clearSources (d : Disk) (directory : Path) : List Name → Disk × Option DiskError
  | [] => (d, none)
  | name :: rest =>
    match d.removeFile ⟨directory.root, directory.names ++ [name]⟩ with
    | .ok removed => clearSources removed directory rest
    | .error e => (d, some e)

/-- The work directory, made if it is missing and cleared of source files. -/
def prepare (d : Disk) (directory : Path) : Disk × Option DiskError :=
  match d.makeDirs directory with
  | (made, some fault) => (made, some ⟨fault, directory⟩)
  | (made, none) =>
    match made.locate directory with
    | .ok p => clearSources made directory (sourceNames made p)
    | .error _ => (made, none)

/-- What the compiler wrote, put below its output directory. -/
def storeOutputs (d : Disk) (directory : Path) (outputs : List (Path × Entry)) : Disk :=
  outputs.foldl (fun d item => d.store (directory.join item.1) item.2) d

/-- The first of the definition files whose name occurs in the compiler's messages. -/
def offending? (files : List Path) (messages : String) : Option Path :=
  files.find? fun path => holds path.name messages.toList

def suffix (g : Protoc) : Option (List Char) := g.activeService.map fun _ => serviceEnding

/-- What a finished run means: the units it wrote, or the error to report. -/
def unitsOf (g : Protoc) (files : List Path) (d : Disk) (out : Path) :
    Exit → Except Failure (List GeneratedUnit)
  | .notStarted reason => .error (.error (.generation (.notStarted g.executable) none (some reason)))
  | .exited status _ errors =>
    if status = 0 then readUnits d out g.suffix
    else
      let path := (offending? files errors).map Path.toString
      .error (.error (.generation (.exited g.executable status) path (some errors)))

/-- Runs the compiler with an output directory on the disk. -/
def runIn (tools : Toolchain) (g : Protoc) (directory : Path) (files includes : List Path) :
    Action (List GeneratedUnit) := do
  let (ready, refused) := prepare (← Action.disk) directory
  Action.setDisk ready
  if let some e := refused then Action.fail (.disk e)
  let command := g.command directory files includes
  Action.record command
  let run := tools.compile command ready
  let written := storeOutputs ready directory run.outputs
  Action.setDisk written
  match g.unitsOf files written directory run.exit with
  | .ok units => return units
  | .error f => Action.fail f

/-- Runs the compiler with an output directory of its own, called `scratch`, that is gone afterwards. -/
def runAside (tools : Toolchain) (g : Protoc) (scratch : Path) (files includes : List Path) :
    Action (List GeneratedUnit) := do
  let command := g.command scratch files includes
  Action.record command
  let run := tools.compile command (← Action.disk)
  let written := storeOutputs Disk.empty Path.working run.outputs
  match g.unitsOf files written Path.working run.exit with
  | .ok units => return units
  | .error f => Action.fail f

/-- Generates the units of some definition files. Every file and every include directory has to be
there. -/
def generate (tools : Toolchain) (g : Protoc) (scratch : Path) (definitions includes : List String) :
    Action (List GeneratedUnit) := do
  let files := Path.sorted (definitions.map Path.ofString)
  let directories := Path.sorted (includes.map Path.ofString)
  if files.isEmpty then Action.report (.configuration .noDefinitionFiles none none)
  let d ← Action.disk
  if let some path := files.find? fun path => !d.hasFile path then
    Action.report (.generation .fileNotFound (some path.toString) none)
  if let some path := directories.find? fun path => !d.hasDirectory path then
    Action.report (.generation .includeNotFound (some path.toString) none)
  match g.workDir with
  | some directory => g.runIn tools directory files directories
  | none => g.runAside tools scratch files directories

end Protoc

end ProtoModules.Tool
