import ProtoModules.PackageTree.Basic

/-! Walking a tree of packages: every node with its package, a package before those nested in it and
siblings in the order of their segments. The walk keeps the nodes still to be visited in a list. -/

namespace ProtoModules.PackageTree

def nested (package : List Segment) (t : PackageTree) : List (List Segment × PackageTree) :=
  t.children.map fun c => (package ++ [c.segment], c)

mutual

def nodeCount : PackageTree → Nat
  | node _ _ _ cs => nodeCounts cs + 1

def nodeCounts : List PackageTree → Nat
  | [] => 0
  | c :: rest => nodeCount c + nodeCounts rest

end

def work : List (List Segment × PackageTree) → Nat
  | [] => 0
  | (_, t) :: rest => t.nodeCount + work rest

theorem work_append (first second : List (List Segment × PackageTree)) :
    work (first ++ second) = work first + work second := by
  induction first with
  | nil => simp [work]
  | cons item rest ih =>
    rw [List.cons_append, work, work, ih]
    omega

theorem work_nested (package : List Segment) (t : PackageTree) :
    work (nested package t) + 1 = t.nodeCount := by
  cases t with
  | node s us i cs =>
    have below : work (cs.map fun c => (package ++ [c.segment], c)) = nodeCounts cs := by
      induction cs with
      | nil => rfl
      | cons c rest ih => rw [List.map_cons, work, nodeCounts, ih]
    rw [nested, children, below, nodeCount]

/-- The nodes still to be visited, each with all that is below it. -/
def walkFrom : List (List Segment × PackageTree) → List (List Segment × PackageTree)
  | [] => []
  | (package, t) :: rest => (package, t) :: walkFrom (nested package t ++ rest)
termination_by pending => work pending
decreasing_by
  have := work_nested package t
  rw [work_append, work]
  omega

def walk (t : PackageTree) : List (List Segment × PackageTree) := walkFrom [([], t)]

def countUnits (t : PackageTree) : Nat :=
  t.walk.foldl (fun count item => count + item.2.units.length) 0

end ProtoModules.PackageTree
