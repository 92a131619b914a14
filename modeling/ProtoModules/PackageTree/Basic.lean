import ProtoModules.Source.Unit

/-! The tree of packages. A node stands for one package: it has the last segment of the package, the
units of the package in the order they came, the module identifier once it has one, and the
packages nested in it, ordered by segment. -/

namespace ProtoModules
open Source

abbrev Segment := List Char

inductive PackageTree where
  | node (segment : Segment) (units : List GeneratedUnit) (identifier : Option (List Char))
    (children : List PackageTree)

namespace PackageTree

def segment : PackageTree → Segment
  | node s _ _ _ => s

def units : PackageTree → List GeneratedUnit
  | node _ us _ _ => us

def identifier : PackageTree → Option (List Char)
  | node _ _ i _ => i

def children : PackageTree → List PackageTree
  | node _ _ _ cs => cs

def empty (segment : Segment) : PackageTree := node segment [] none []

/-- A node that is there only because of the packages below it. -/
def isSynthetic (t : PackageTree) : Bool := t.units.isEmpty

def withIdentifier (name : List Char) : PackageTree → PackageTree
  | node s us _ cs => node s us (some name) cs

/-- Changes the child of that segment, which is added in its place if it is missing. -/
def updateChild (s : Segment) (change : PackageTree → PackageTree) :
    List PackageTree → List PackageTree
  | [] => [change (empty s)]
  | c :: rest =>
    if c.segment = s then change c :: rest
    else if s < c.segment then change (empty s) :: c :: rest
    else c :: updateChild s change rest

def insert : (package : List Segment) → GeneratedUnit → PackageTree → PackageTree
  | [], u, node s us i cs => node s (us ++ [u]) i cs
  | next :: package, u, node s us i cs => node s us i (updateChild next (insert package u) cs)

def get? : (package : List Segment) → PackageTree → Option PackageTree
  | [], t => some t
  | next :: package, t => (t.children.find? fun c => c.segment = next) >>= get? package

def ofUnits (root : Segment) (units : List GeneratedUnit) : PackageTree :=
  units.foldl (fun t u => t.insert u.package u) (empty root)

end PackageTree

end ProtoModules
