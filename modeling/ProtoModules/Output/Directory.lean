import ProtoModules.Disk.Access
import ProtoModules.Output.Report
import ProtoModules.PackageTree.Files

/-! The output directory. Its content is replaced as a whole by the emitted files, and the root module
lies beside it, so the paths of emitted files are as seen from the directory it lies in. Nothing
is touched if something of the wrong kind is in the way; files that are no longer emitted are
removed only after all others have been written. -/

namespace ProtoModules
open Disk

inductive Kind where
  | file
  | directory
  deriving DecidableEq

structure Conflict where
  path : Path
  expected : Kind
  deriving DecidableEq

inductive WriteError where
  | conflict (c : Conflict)
  | refused (e : DiskError)

structure OutputDirectory where
  path : Path
  deriving DecidableEq

namespace OutputDirectory

def base (o : OutputDirectory) : Path := o.path.parent

def target (o : OutputDirectory) (f : EmittedFile) : Path := o.base.join f.path

def relative (o : OutputDirectory) (names : List Name) : Path := Path.ofTexts (o.path.name :: names)

def existing (o : OutputDirectory) (d : Disk) : List Path :=
  match d.locate o.path with
  | .ok p =>
    (d.below p).filterMap fun item =>
      if item.2 = .directory then none else some (o.relative (item.1.drop p.length))
  | .error _ => []

/-- The nearest of these directories that is there has to be a directory. -/
def ancestorConflict? (d : Disk) : List Path → Option Conflict
  | [] => none
  | path :: rest =>
    if d.hasEntry path then if d.hasDirectory path then none else some ⟨path, .directory⟩
    else ancestorConflict? d rest

/-- What is in the way of one file: its own path is no file, or one above it is no directory. -/
def fileConflict? (o : OutputDirectory) (d : Disk) (f : EmittedFile) : Option Conflict :=
  let target := o.target f
  if d.hasEntry target && !d.hasFile target then some ⟨target, .file⟩
  else
    ((f.path.parents.filter (· != Path.working)).map o.base.join).findSome? fun directory =>
      if d.hasEntry directory && !d.hasDirectory directory then some ⟨directory, .directory⟩ else none

def conflict? (o : OutputDirectory) (d : Disk) (files : List EmittedFile) : Option Conflict :=
  (ancestorConflict? d (o.path :: o.path.parents)).orElse fun _ =>
    files.findSome? (o.fileConflict? d)

def encoded (f : EmittedFile) : ByteArray := (String.ofList f.content).toUTF8

/-- The files in the output directory that are not emitted, in the order of their paths. -/
def stale (o : OutputDirectory) (d : Disk) (files : List EmittedFile) : List Path :=
  ((o.existing d).filter fun path => !(files.map (·.path)).contains path).mergeSort fun a b =>
    !decide (b.toText < a.toText)

def isChanged (o : OutputDirectory) (d : Disk) (f : EmittedFile) : Bool :=
  match d.read (o.target f) with
  | .ok content => content != encoded f
  | .error _ => false

def diff (o : OutputDirectory) (d : Disk) (files : List EmittedFile) : Except Conflict Report :=
  match o.conflict? d files with
  | some conflict => .error conflict
  | none =>
    let (there, new) := files.partition fun f => d.hasEntry (o.target f)
    .ok {
      added := new.map fun f => f.path.toString
      changed := (there.filter (o.isChanged d)).map fun f => f.path.toString
      removed := (o.stale d files).map Path.toString }

/-- Writes one file after the other, up to the first that the disk refuses. -/
def writeFiles (o : OutputDirectory) (d : Disk) : List EmittedFile → Disk × Option DiskError
  | [] => (d, none)
  | f :: rest =>
    let target := o.target f
    match d.makeDirs target.parent with
    | (made, some fault) => (made, some ⟨fault, target.parent⟩)
    | (made, none) =>
      match made.write target (encoded f) with
      | .ok written => writeFiles o written rest
      | .error e => (made, some e)

def removeFiles (o : OutputDirectory) (d : Disk) : List Path → Disk × Option DiskError
  | [] => (d, none)
  | path :: rest =>
    match d.removeFile (o.base.join path) with
    | .ok removed => removeFiles o removed rest
    | .error e => (d, some e)

def directories (o : OutputDirectory) (d : Disk) : List Path :=
  match d.locate o.path with
  | .ok p => (d.directoriesBelow p).map fun names => o.path.join ⟨[], names⟩
  | .error _ => []

/-- Takes away, one after the other, the directories that nothing lies in when their turn comes. -/
def removeVacant (d : Disk) : List Path → Disk × Option DiskError
  | [] => (d, none)
  | path :: rest =>
    match d.listDir path with
    | .error e => (d, some e)
    | .ok (_ :: _) => removeVacant d rest
    | .ok [] =>
      match d.removeDir path with
      | .ok removed => removeVacant removed rest
      | .error e => (d, some e)

def pruneDirectories (o : OutputDirectory) (d : Disk) : Disk × Option DiskError :=
  removeVacant d (o.directories d)

/-- Replaces the content of the output directory by the files; the paths written if all went well,
and the disk as it is then. -/
def write (o : OutputDirectory) (d : Disk) (files : List EmittedFile) :
    Except WriteError (List Path) × Disk :=
  match o.conflict? d files with
  | some conflict => (.error (.conflict conflict), d)
  | none =>
    match o.writeFiles d files with
    | (written, some e) => (.error (.refused e), written)
    | (written, none) =>
      match o.removeFiles written (o.stale d files) with
      | (removed, some e) => (.error (.refused e), removed)
      | (removed, none) =>
        match o.pruneDirectories removed with
        | (left, some e) => (.error (.refused e), left)
        | (left, none) => (.ok (files.map o.target), left)

end OutputDirectory

end ProtoModules
