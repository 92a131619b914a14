import ProtoModules.PackageTree.Files
import ProtoModules.Tool.Run

/-! The code formatter. It takes one file at a time on its standard input and touches no disk. -/

namespace ProtoModules.Tool

structure Formatter where
  edition : String := "2021"
  executable : String := "rustfmt"

namespace Formatter

def command (f : Formatter) : Command := [f.executable, "--edition", f.edition]

def formatText (tools : Toolchain) (f : Formatter) (name : String) (content : List Char) :
    Action (List Char) := do
  Action.record f.command
  match tools.format f.command (String.ofList content) with
  | .notStarted reason => Action.report (.format name (some reason))
  | .exited status output errors =>
    if status = 0 then return output.toList else Action.report (.format name (some errors))

def formatFiles (tools : Toolchain) (f : Formatter) (files : List EmittedFile) :
    Action (List EmittedFile) :=
  files.mapM fun file => do
    return { file with content := ← f.formatText tools file.path.toString file.content }

end Formatter

end ProtoModules.Tool
