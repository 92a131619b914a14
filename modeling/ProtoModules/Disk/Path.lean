import ProtoModules.Text.Split

/-! Paths. A path is a list of names, possibly anchored at the root; empty names and single dots are
dropped when it is read, double dots are kept. Paths are ordered name by name, so that a directory
comes before what lies in it and all of that before a longer name. -/

namespace ProtoModules.Disk
open Text

abbrev Name := List Char

structure Path where
  /-- The slashes at the beginning: none, one or exactly two. -/
  root : List Char
  names : List Name
  deriving DecidableEq

namespace Path

def upward : Name := ['.', '.']

/-- What something on a disk can be called. -/
def isName (name : Name) : Bool :=
  !name.isEmpty && name != ['.'] && name != upward && !name.contains '/'

def working : Path := ⟨[], []⟩

def rootOf : List Char → List Char
  | '/' :: '/' :: '/' :: _ => ['/']
  | '/' :: '/' :: _ => ['/', '/']
  | '/' :: _ => ['/']
  | _ => []

def namesOf (s : List Char) : List Name :=
  (splitOn '/' s).filter fun name => !name.isEmpty && name != ['.']

def parse (s : List Char) : Path := ⟨rootOf s, namesOf s⟩

def ofString (s : String) : Path := parse s.toList

/-- The empty path is written as a single dot. -/
def toText (p : Path) : List Char :=
  match p.root ++ joinWith '/' p.names with
  | [] => ['.']
  | text => text

def toString (p : Path) : String := String.ofList p.toText

/-- The second path as seen from the first one. -/
def join (p q : Path) : Path := if q.root.isEmpty then ⟨p.root, p.names ++ q.names⟩ else q

/-- The path of names that are written out, each of which may itself be a path. -/
def ofTexts (parts : List (List Char)) : Path :=
  parts.foldl (fun p s => p.join (parse s)) working

def parent (p : Path) : Path := ⟨p.root, p.names.dropLast⟩

def name (p : Path) : Name := p.names.getLast?.getD []

def parents (p : Path) : List Path :=
  (List.range p.names.length).reverse.map fun n => ⟨p.root, p.names.take n⟩

def key (p : Path) : List Name := if p.root.isEmpty then p.names else p.root :: p.names

def le (p q : Path) : Bool := !decide (q.key < p.key)

/-- Each path once, in order. -/
def sorted (paths : List Path) : List Path := paths.eraseDups.mergeSort le

end Path

end ProtoModules.Disk
