import ProtoModules.Disk.Access
import ProtoModules.Failure
import ProtoModules.Source.Unit

/-! The files that the compiler writes, one for each package: the segments of the package with dots
between them, `_` for no package, and an ending that tells service code from message code. -/

namespace ProtoModules.Tool
open Text Disk Source

structure PackageFile where
  package : List Line
  service : Bool
  deriving DecidableEq

def sourceEnding : List Char := ['.', 'r', 's']

def serviceEnding : List Char := ".tonic".toList

def noPackage : List Char := ['_']

def dropEnding? (ending s : List Char) : Option (List Char) :=
  if ending.isSuffixOf s then some (s.take (s.length - ending.length)) else none

namespace PackageFile

/-- What a file name says; without a service ending, or with an empty one, no file is a service. -/
def ofName (service : Option (List Char)) (name : Name) : PackageFile :=
  let stem := (dropEnding? sourceEnding name).getD name
  let base := (service.filter fun ending => !ending.isEmpty) >>= fun ending => dropEnding? ending stem
  let stem := base.getD stem
  ⟨if stem = noPackage then [] else splitOn '.' stem, base.isSome⟩

/-- By package, the message code of a package before its service code. -/
def le (a b : PackageFile) : Bool :=
  decide (a.package < b.package) || (a.package == b.package && (!a.service || b.service))

end PackageFile

def sourceNames (d : Disk) (p : Place) : List Name :=
  ((d.members p).filter fun name => sourceEnding.isSuffixOf name).mergeSort fun a b => !decide (b < a)

/-- The text of a file, with every line break written as a newline. -/
def readText (d : Disk) (path : Path) : Except Failure (List Char) := do
  let bytes ← (d.read path).mapError Failure.disk
  let text ← (decode bytes).mapError Failure.undecodable
  return unifyBreaks text.toList

/-- The source files of a directory with their texts. A directory that is not there has none. -/
def sourceTexts (d : Disk) (directory : Path) : Except Failure (List (Name × List Char)) :=
  match d.locate directory with
  | .error _ => .ok []
  | .ok p =>
    if d.isDirectory p then
      (sourceNames d p).mapM fun name => do
        return (name, ← readText d ⟨directory.root, directory.names ++ [name]⟩)
    else .ok []

/-- The units in a directory, one for each source file that is not blank, in order. -/
def readUnits (d : Disk) (directory : Path) (service : Option (List Char)) :
    Except Failure (List GeneratedUnit) := do
  let found ← sourceTexts d directory
  let written := found.filter fun item => !allBlank item.2
  let entries := written.map fun item => (PackageFile.ofName service item.1, item)
  let ordered := entries.mergeSort fun a b => PackageFile.le a.1 b.1
  return ordered.map fun (file, name, text) =>
    GeneratedUnit.ofSource file.package text (String.ofList name)

end ProtoModules.Tool
