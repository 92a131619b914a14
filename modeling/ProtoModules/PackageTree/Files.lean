import ProtoModules.Disk.Path
import ProtoModules.Identifier.Keyword
import ProtoModules.PackageTree.Basic

/-! The files of a tree of packages, one for each node: the root module beside the output directory,
every other one below it. A file declares the modules nested in it and holds the units of its
package, joined without anything between them. -/

namespace ProtoModules
open Source

structure EmittedFile where
  /-- As seen from the directory that the output directory lies in. -/
  path : Disk.Path
  content : List Char
  package : List Segment
  deriving DecidableEq

structure FileOptions where
  /-- Start every file with a comment that names the tools. -/
  prependHeader : Bool := false
  toplevelAttribute : Option String := none
  toolVersion : String := "unknown"
  generatorVersion : Option String := none

/-- The line that tells a generated file from a written one. -/
def header (toolVersion : String) (generatorVersion : Option String) : List Char :=
  let generator := match generatorVersion with
    | some version => if version.isEmpty then [] else " (".toList ++ version.toList ++ [')']
    | none => []
  "// @generated by protonest ".toList ++ toolVersion.toList ++ generator ++ ['\n']

namespace FileOptions

def headerText (o : FileOptions) : List Char :=
  if o.prependHeader then header o.toolVersion o.generatorVersion else []

def attributeText (o : FileOptions) : List Char :=
  match o.toplevelAttribute with
  | some line => if line.isEmpty then [] else line.toList ++ ['\n']
  | none => []

end FileOptions

namespace PackageTree

def lintAllowances : List Char :=
  "#![allow(clippy::doc_markdown, clippy::use_self)]\n".toList

def withFinalNewline (s : List Char) : List Char :=
  if s.getLast? = some '\n' then s else s ++ ['\n']

def identifierOrEmpty (t : PackageTree) : List Char := t.identifier.getD []

/-- The identifiers of the modules nested in a node, in order. -/
def declaredNames (t : PackageTree) : List (List Char) :=
  (t.children.map identifierOrEmpty).mergeSort fun a b => !decide (b < a)

def declaration (name : List Char) : List Char := "pub mod ".toList ++ name ++ [';', '\n']

def declarations (t : PackageTree) : List Char := t.declaredNames.flatMap declaration

def unitText (t : PackageTree) : List Char := t.units.flatMap fun u => withFinalNewline u.source

def moduleText (o : FileOptions) (t : PackageTree) : List Char :=
  let gap := if t.declarations.isEmpty || t.unitText.isEmpty then [] else ['\n']
  o.headerText ++ t.declarations ++ gap ++ t.unitText

def rootText (o : FileOptions) (t : PackageTree) : List Char :=
  let gap := if t.unitText.isEmpty then [] else ['\n']
  o.headerText ++ lintAllowances ++ o.attributeText ++ t.declarations ++ gap ++ t.unitText

def fileStem (t : PackageTree) : List Char := Identifier.fileStem t.identifierOrEmpty

def ending : List Char := ['.', 'r', 's']

mutual

/-- The file of a node and the files of all nodes below it; `above` are the stems of the nodes on
the way to it. -/
def filesAt (o : FileOptions) (above : List (List Char)) (package : List Segment) :
    PackageTree → List EmittedFile
  | node s us i cs =>
    let t := node s us i cs
    let package := package ++ [s]
    ⟨Disk.Path.ofTexts (above ++ [t.fileStem ++ ending]), t.moduleText o, package⟩
      :: filesEach o (above ++ [t.fileStem]) package cs

def filesEach (o : FileOptions) (above : List (List Char)) (package : List Segment) :
    List PackageTree → List EmittedFile
  | [] => []
  | c :: rest => filesAt o above package c ++ filesEach o above package rest

end

def files (o : FileOptions) (t : PackageTree) : List EmittedFile :=
  ⟨Disk.Path.ofTexts [t.fileStem ++ ending], t.rootText o, []⟩
    :: filesEach o [t.fileStem] [] t.children

/-- Why a tree has no files: it was not named, a module in it has no identifier, or several nested
modules cannot be put in order because one of them has none. -/
inductive MissingName where
  | root
  | module
  | sibling
  deriving DecidableEq

mutual

/-- The first identifier that is missing below a node, as the files are made. -/
def missingBelow : PackageTree → Option MissingName
  | node _ _ _ cs =>
    if 2 ≤ cs.length && cs.any fun c => c.identifier.isNone then some .sibling else missingIn cs

def missingIn : List PackageTree → Option MissingName
  | [] => none
  | c :: rest =>
    (if c.identifier.isNone then some .module else missingBelow c).orElse fun _ => missingIn rest

end

/-- The identifier that is missed first when the files of a tree are made. -/
def missingName? (t : PackageTree) : Option MissingName :=
  if t.identifier.isNone then some .root else missingBelow t

def files? (o : FileOptions) (t : PackageTree) : Except MissingName (List EmittedFile) :=
  match t.missingName? with
  | some missing => .error missing
  | none => .ok (t.files o)

end PackageTree

end ProtoModules
