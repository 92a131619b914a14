import ProtoModules.Source.Declaration
import ProtoModules.Source.DocLine

/-! Documentation comments in generated code and the declarations they belong to. A run of
documentation lines belongs to the declaration below it, attribute lines skipped, whose path is
the package, the scopes that are open by the count of braces and the name declared. -/

namespace ProtoModules.Source
open Text

structure DocComment where
  declaration : List Char
  text : List Char
  start : Nat
  /-- The line behind the last one of the comment. -/
  stop : Nat
  indent : Line
  deriving DecidableEq

structure Scope where
  name : Line
  depth : Nat

structure Run where
  start : Nat
  ls : List Line

/-- What is known between two lines: the brace depth, the open scopes with the innermost first, the
runs that wait for a declaration, the newest first, and the run that the line before ended with. -/
structure Scan where
  depth : Nat := 0
  scopes : List Scope := []
  pending : List Run := []
  open? : Option Run := none

namespace Scan

def path (package : List Line) (scan : Scan) (name : Option Line) : List Char :=
  joinWith '.' (package ++ (scan.scopes.reverse.map Scope.name) ++
    (name.filter fun n => !n.isEmpty).toList)

/-- The comments of the waiting runs, all about one declaration. -/
def attach (declaration : List Char) (runs : List Run) : List DocComment :=
  runs.reverse.filterMap fun run =>
    (splitDocLines run.ls).map fun (indent, text) =>
      ⟨declaration, text, run.start, run.start + run.ls.length, indent⟩

/-- The run that the line before ended with waits as well from now on. -/
def closeRun (scan : Scan) : Scan :=
  match scan.open? with
  | none => scan
  | some run => { scan with pending := run :: scan.pending, open? := none }

def addDocLine (index : Nat) (line : Line) (scan : Scan) : Scan :=
  match scan.open? with
  | none => { scan with open? := some ⟨index, [line]⟩ }
  | some run => { scan with open? := some ⟨run.start, run.ls ++ [line]⟩ }

/-- The scopes and the depth behind a line of code. -/
def enter (declaration : Option Declaration) (code : Line) (scan : Scan) : Scan :=
  let depth := scan.depth + code.count '{' - code.count '}'
  let opened : List Scope := match declaration with
    | some d =>
      if d.opensScope && scan.depth < depth then ⟨d.name, depth⟩ :: scan.scopes else scan.scopes
    | none => scan.scopes
  { scan with depth := depth, scopes := opened.dropWhile fun scope => depth < scope.depth }

def isAttribute (s : Line) : Bool := ['#', '['].isPrefixOf s

/-- Reads one line: the comments that found their declaration, and what is known behind it. -/
def step (package : List Line) (index : Nat) (line : Line) (scan : Scan) : List DocComment × Scan :=
  if isDocLine line then ([], scan.addDocLine index line)
  else
    let s := trim line
    let scan := scan.closeRun
    let declaration := Declaration.ofLine? s
    let code := Declaration.codePart s
    if isAttribute s then ([], scan.enter declaration code)
    else
      (attach (scan.path package (declaration.map (·.name))) scan.pending,
        { scan with pending := [] }.enter declaration code)

/-- The comments of the lines from `index` on. Runs that wait at the end are about what encloses
them. -/
def comments (package : List Line) : (index : Nat) → Scan → List Line → List DocComment
  | _, scan, [] => attach (scan.path package none) scan.closeRun.pending
  | index, scan, line :: rest =>
    (scan.step package index line).1 ++ comments package (index + 1) (scan.step package index line).2 rest

end Scan

/-- The comments of a source in the order of its lines. -/
def docComments (package : List Line) (source : List Char) : List DocComment :=
  Scan.comments package 0 {} (lines source)

end ProtoModules.Source
