import ProtoModules.Identifier.Segment
import ProtoModules.PackageTree.Basic

/-! Module identifiers for a whole tree. The children of every node are named in order, parents
before children; two siblings may share neither their identifier nor their file name. The names
given before such a collision stay. -/

namespace ProtoModules
open Text

/-- Two sibling packages, by their dotted paths, and the identifier of the second one. -/
structure Collision where
  first : List Char
  second : List Char
  identifier : List Char
  deriving DecidableEq

namespace PackageTree

structure Named where
  identifier : List Char
  path : List Char

/-- The identifiers of the children of a node, up to the first collision if there is one. -/
def childNames (package : List Segment) :
    (seen : List Named) → List PackageTree → List (List Char) × Option Collision
  | _, [] => ([], none)
  | seen, c :: rest =>
    let identifier := Identifier.ofSegment c.segment
    let path := joinWith '.' (package ++ [c.segment])
    let stem := Identifier.fileStem identifier
    let earlier := (seen.find? fun s => s.identifier = identifier).orElse fun _ =>
      seen.find? fun s => Identifier.fileStem s.identifier = stem
    match earlier with
    | some s => ([], some ⟨s.path, path, identifier⟩)
    | none =>
      let (names, collision) := childNames package (⟨identifier, path⟩ :: seen) rest
      (identifier :: names, collision)

def assign : (names : List (List Char)) → List PackageTree → List PackageTree
  | name :: names, c :: rest => c.withIdentifier name :: assign names rest
  | _, cs => cs

mutual

/-- Names all that is below a node. -/
def nameBelow (package : List Segment) : PackageTree → PackageTree × Option Collision
  | node s us i cs =>
    let (names, collision) := childNames package [] cs
    match collision with
    | some c => (node s us i (assign names cs), some c)
    | none =>
      let (named, collision) := nameEach package cs
      (node s us i (assign names named), collision)

def nameEach (package : List Segment) : List PackageTree → List PackageTree × Option Collision
  | [] => ([], none)
  | c :: rest =>
    match nameBelow (package ++ [c.segment]) c with
    | (c', some collision) => (c' :: rest, some collision)
    | (c', none) =>
      let (rest', collision) := nameEach package rest
      (c' :: rest', collision)

end

/-- Names the whole tree. The root is called `name`, or by its own segment if there is none. -/
def resolve (name : Option (List Char)) (t : PackageTree) : PackageTree × Option Collision :=
  (t.withIdentifier (name.getD t.segment)).nameBelow []

end PackageTree

end ProtoModules
