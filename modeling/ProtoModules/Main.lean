import ProtoModules.CommandLine.Program

/-! The program on the working directory it is started in. The directory is read as a disk, the command
line is carried out on it, and what has changed is written back. Programs are not started from
here, so the compiler and the formatter answer that they cannot be run. -/

namespace ProtoModules.Entrance
open Disk CommandLine

/-- Adds directory entries, and all that lies below them, to a disk. -/
partial def load (place : Place) (entries : List IO.FS.DirEntry) (d : Disk) : IO Disk :=
  entries.foldlM (fun d entry => do
    let here := place ++ [entry.fileName.toList]
    if ← entry.path.isDir then
      load here (← entry.path.readDir).toList (d.store ⟨[], here⟩ .directory)
    else return d.store ⟨[], here⟩ (.file (← IO.FS.readBinFile entry.path))) d

def save (item : String × Entry) : IO Unit :=
  match item.2 with
  | .directory => IO.FS.createDirAll item.1
  | .file content => IO.FS.writeBinFile item.1 content

def remove (item : String × Entry) : IO Unit :=
  match item.2 with
  | .directory => IO.FS.removeDir item.1
  | .file _ => IO.FS.removeFile item.1

/-- Makes the working directory hold what the second disk holds instead of the first. Directories come
before what lies in them, so they are made in this order and removed in the other. -/
def update (before after : Disk) : IO Unit := do
  let old := before.listing
  let new := after.listing
  let gone := old.filter fun item => !new.any fun other => other.1 == item.1
  gone.reverse.forM remove
  (new.filter fun item => !old.contains item).forM save

def idle : Toolchain where
  compile _ _ := ⟨.notStarted "programs are not started from here", []⟩
  version _ := .notStarted "programs are not started from here"
  format _ _ := .notStarted "programs are not started from here"

/-- The variables of the environment that settings are taken from. -/
def environment : IO Environment := do
  let found ← Check.settingNames.mapM fun field => do
    let name := (({} : Environment.Reading).mark ++ field).toUpper
    return (← IO.getEnv name).map fun value => (name, value)
  return found.filterMap id

def run (words : List String) : IO UInt32 := do
  let home ← IO.currentDir
  let before ← load [] (← home.readDir).toList Disk.empty
  let world : World := ⟨idle, ← environment, home.toString, Path.ofString "generated"⟩
  let (ending, terminal) := CommandLine.run world words ⟨before, []⟩
  update before terminal.session.disk
  terminal.lines.forM fun line => IO.println (String.ofList line)
  match ending with
  | .status code => return code.toUInt32
  | .failed f => do
    IO.eprintln f.message
    return 1

end ProtoModules.Entrance

def main (words : List String) : IO UInt32 := ProtoModules.Entrance.run words
