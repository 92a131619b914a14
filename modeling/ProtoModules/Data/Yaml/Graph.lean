import ProtoModules.Data.Yaml.Kind
import ProtoModules.Data.Yaml.Node

/-! The nodes of a text as a graph. Every node has a number and collections name their parts by number,
so an alias is the number of the node it stands for and a collection may hold itself. -/

namespace ProtoModules.Data.Yaml

inductive Content where
  | scalar (text : List Char)
  | sequence (items : List Nat)
  | mapping (pairs : List (Nat × Nat))
  deriving Inhabited

structure Vertex where
  kind : Kind
  content : Content

abbrev Graph := Array Vertex

namespace Graph

def kind (g : Graph) (n : Nat) : Kind := (g[n]?).elim .unknown Vertex.kind

def content (g : Graph) (n : Nat) : Content := (g[n]?).elim (.scalar []) Vertex.content

def setContent (n : Nat) (c : Content) (g : Graph) : Graph :=
  g.modify n fun v => { v with content := c }

def setKind (n : Nat) (k : Kind) (g : Graph) : Graph := g.modify n fun v => { v with kind := k }

structure Placing where
  graph : Graph := #[]
  anchors : List (List Char × Nat) := []

abbrev Placer (α : Type) := StateT Placing Option α

/-- Adds a node with the next number, under the names of its anchors. -/
def add (names : List (List Char)) (v : Vertex) : Placer Nat := do
  let p ← get
  set { graph := p.graph.push v, anchors := names.map (·, p.graph.size) ++ p.anchors : Placing }
  return p.graph.size

def complete (n : Nat) (c : Content) : Placer Unit :=
  modify fun p => { p with graph := setContent n c p.graph }

mutual

/-- Places a node and all nodes in it; `names` are its anchors, of which no other node has one. -/
def place (names : List (List Char)) : Node → Placer Nat
  | .scalar tag text plain =>
    let usual := if plain || tag.isSome then Kind.ofForm text else .text
    add names ⟨.ofNode tag usual, .scalar text⟩
  | .sequence tag items => do
    let n ← add names ⟨.ofNode tag .sequence, .sequence []⟩
    complete n (.sequence (← placeAll items))
    return n
  | .mapping tag pairs => do
    let n ← add names ⟨.ofNode tag .mapping, .mapping []⟩
    complete n (.mapping (← placePairs pairs))
    return n
  | .reference name => do
    match (← get).anchors.lookup name with
    | some n => return n
    | none => failure
  | .anchored name node => do
    if ((← get).anchors.lookup name).isSome then failure
    place (name :: names) node

def placeAll : List Node → Placer (List Nat)
  | [] => return []
  | node :: rest => do
    let n ← place [] node
    return n :: (← placeAll rest)

def placePairs : List (Node × Node) → Placer (List (Nat × Nat))
  | [] => return []
  | (key, value) :: rest => do
    let k ← place [] key
    let v ← place [] value
    return (k, v) :: (← placePairs rest)

end

def ofNode (node : Node) : Except Refusal Graph :=
  match (place [] node).run {} with
  | some (_, p) => .ok p.graph
  | none => .error .malformed

end Graph

end ProtoModules.Data.Yaml
