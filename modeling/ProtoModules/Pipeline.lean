import ProtoModules.PackageTree.Walk
import ProtoModules.Tool.Formatter
import ProtoModules.Tool.Protoc

/-! From definition files to a module tree on the disk, for one workspace: the units of the generator
are sanitized, put into a tree, named, written out as files and formatted; then the files are
compared with the output directory, and written if anything differs. -/

namespace ProtoModules
open Disk Source Tool

inductive Generator where
  | protoc (settings : Protoc)
  | given (units : List GeneratedUnit) (version : Option String)

def programVersion : String := "0.1.0"

structure Pipeline where
  settings : Settings
  workspace : Workspace
  generator : Generator
  /-- The name of the directory that the compiler writes to without a work directory. -/
  scratch : Path

namespace Pipeline

def new (settings : Settings) (workspace : Workspace) (scratch : Path) : Pipeline :=
  ⟨settings, workspace, .protoc (Protoc.ofSettings settings.generator workspace.tmpDir), scratch⟩

def output (p : Pipeline) : OutputDirectory := ⟨Path.ofString p.workspace.outputDir⟩

def patterns (p : Pipeline) : List (List Char) := p.settings.disableComments.map String.toList

def units (tools : Toolchain) (p : Pipeline) : Action (List GeneratedUnit) :=
  match p.generator with
  | .protoc g => g.generate tools p.scratch p.workspace.protoFiles p.workspace.protoDirs
  | .given units _ => return units

def generatorVersion (tools : Toolchain) (p : Pipeline) : Action (Option String) :=
  match p.generator with
  | .protoc g => return (← g.version tools).1
  | .given _ version => return version

def options (p : Pipeline) (version : Option String) : FileOptions where
  prependHeader := p.settings.prependHeader
  toplevelAttribute := p.settings.toplevelAttribute
  toolVersion := programVersion
  generatorVersion := version

def formatter (p : Pipeline) : Option Formatter :=
  if p.settings.format then some { edition := p.settings.edition } else none

/-- The tree of the units, sanitized and named after the output directory, or the packages that
collide. -/
def tree (p : Pipeline) (units : List GeneratedUnit) : Except Collision PackageTree :=
  let t := PackageTree.ofUnits [] (units.map (GeneratedUnit.sanitize p.patterns))
  match t.resolve (some p.output.path.name) with
  | (named, none) => .ok named
  | (_, some collision) => .error collision

/-- The files of the workspace. Nothing but the generator's own directory is touched. -/
def build (tools : Toolchain) (p : Pipeline) : Action (List EmittedFile) := do
  let units ← p.units tools
  match p.tree units with
  | .error collision => Action.report (.ofCollision collision)
  | .ok named =>
    let files := named.files (p.options (← p.generatorVersion tools))
    match p.formatter with
    | some f => f.formatFiles tools files
    | none => return files

def compare (p : Pipeline) (files : List EmittedFile) : Action Report := do
  match p.output.diff (← Action.disk) files with
  | .ok report => return report
  | .error conflict => Action.report (.ofConflict conflict)

/-- Generates the files and writes them unless nothing differs. -/
def generate (tools : Toolchain) (p : Pipeline) : Action Report := do
  let files ← p.build tools
  let report ← p.compare files
  if report.isEmpty then return report
  let (result, left) := p.output.write (← Action.disk) files
  Action.setDisk left
  match result with
  | .ok _ => return report
  | .error (.conflict conflict) => Action.report (.ofConflict conflict)
  | .error (.refused e) => Action.report (.output p.output.path.toString (some e.message))

/-- Generates the files and fails if anything differs; writes nothing. -/
def validate (tools : Toolchain) (p : Pipeline) : Action Report := do
  let report ← p.compare (← p.build tools)
  if report.isEmpty then return report
  else Action.report (.difference p.workspace.outputDir report)

end Pipeline

end ProtoModules
