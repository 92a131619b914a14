import Mathlib.Data.List.Nodup
import Mathlib.Data.List.Permutation
import ProtoModules.Proofs.Disk.Path
import ProtoModules.Proofs.PackageTree.Nodes

/-! The walk and its recursive form. A tree may be given with the children of every node in any order, as
long as their segments tell them apart; the tree that is walked is the one with the children in order.
Its walk is the preorder of the given tree, with the children sorted where they are visited, and
comes to every package that has a node once, in the order of the packages. -/

namespace ProtoModules.PackageTree
open Source

def le (a b : PackageTree) : Bool := !decide (b.segment < a.segment)

def sortedChildren (t : PackageTree) : List PackageTree := t.children.mergeSort le

/-- A node before those below it, and the children of each node sorted by segment. -/
def preorder (package : List Segment) (t : PackageTree) : List (List Segment × PackageTree) :=
  (package, t) :: t.sortedChildren.attach.flatMap fun c => preorder (package ++ [c.1.segment]) c.1
termination_by sizeOf t
decreasing_by
  cases t with
  | node s us i cs =>
    have member : c.1 ∈ cs := List.mem_mergeSort.1 c.2
    have := List.sizeOf_lt_of_mem member
    simp only [node.sizeOf_spec]
    omega

mutual

def arranged : PackageTree → PackageTree
  | node s us i cs => node s us i ((arrangedEach cs).mergeSort le)

def arrangedEach : List PackageTree → List PackageTree
  | [] => []
  | c :: rest => arranged c :: arrangedEach rest

end

variable {t : PackageTree}

theorem le_iff (a b : PackageTree) : le a b = true ↔ a.segment ≤ b.segment := by simp [le]

theorem perm_sortedChildren (t : PackageTree) : t.sortedChildren.Perm t.children :=
  List.mergeSort_perm _ _

theorem preorder_eq (package : List Segment) (t : PackageTree) :
    preorder package t =
      (package, t) :: t.sortedChildren.flatMap fun c => preorder (package ++ [c.segment]) c := by
  rw [preorder]
  conv_rhs => rw [← List.attach_map_subtype_val t.sortedChildren, List.flatMap_map]

theorem perm_preorder (package : List Segment) (t : PackageTree) :
    (preorder package t).Perm (nodesAt package t) := by
  induction t generalizing package with
  | node s us i cs ih =>
    rw [preorder_eq, nodesAt_eq]
    have sorted : (node s us i cs).sortedChildren.Perm cs := perm_sortedChildren _
    refine (sorted.flatMap fun c member => ?_).cons _
    exact ih c (sorted.mem_iff.1 member) _

theorem arrangedEach_eq (cs : List PackageTree) : arrangedEach cs = cs.map arranged := by
  induction cs with
  | nil => rfl
  | cons c rest ih => rw [arrangedEach, ih, List.map_cons]

theorem segment_arranged (t : PackageTree) : t.arranged.segment = t.segment := by
  cases t with
  | node s us i cs => rw [arranged, segment, segment]

theorem children_arranged (t : PackageTree) :
    t.arranged.children = t.sortedChildren.map arranged := by
  cases t with
  | node s us i cs =>
    rw [arranged, arrangedEach_eq, sortedChildren, children, children]
    exact (List.map_mergeSort fun a _ b _ => by simp [le, segment_arranged]).symm

theorem pairwise_sortedChildren (keyed : t.Distinct) :
    (t.sortedChildren.map segment).Pairwise (· < ·) := by
  rw [List.pairwise_map]
  exact Disk.Path.pairwise_lt_mergeSort_of_iff le_iff (List.Nodup.of_map _ keyed.siblings)
    fun a first b second same => List.inj_on_of_nodup_map keyed.siblings first second same

theorem ordered_arranged (keyed : t.Distinct) : t.arranged.Ordered := by
  induction t with
  | node s us i cs ih =>
    have siblings : ((node s us i cs).arranged.children.map segment).Pairwise (· < ·) := by
      have same : segment ∘ arranged = segment := funext segment_arranged
      rw [children_arranged, List.map_map, same]
      exact pairwise_sortedChildren keyed
    have below : ∀ c ∈ (node s us i cs).arranged.children, c.Ordered := by
      intro c member
      rw [children_arranged] at member
      obtain ⟨d, sorted, rfl⟩ := List.mem_map.1 member
      have child : d ∈ cs := (perm_sortedChildren _).mem_iff.1 sorted
      exact ih d child (keyed.child d child)
    rw [arranged] at siblings below ⊢
    exact .node siblings below

theorem arranged_of_ordered (ordered : t.Ordered) : t.arranged = t := by
  induction t with
  | node s us i cs ih =>
    have below : arrangedEach cs = cs := by
      rw [arrangedEach_eq, List.map_congr_left fun c member => ih c member (ordered.child c member),
        List.map_id']
    have siblings : cs.Pairwise fun a b => a.segment < b.segment :=
      List.pairwise_map.1 ordered.siblings
    rw [arranged, below, List.mergeSort_of_pairwise (siblings.imp fun less => (le_iff _ _).2 less.le)]

theorem nodesAt_arranged (package : List Segment) (t : PackageTree) :
    nodesAt package t.arranged =
      (preorder package t).map fun item => (item.1, item.2.arranged) := by
  induction t generalizing package with
  | node s us i cs ih =>
    rw [nodesAt_eq, preorder_eq, children_arranged, List.map_cons, List.map_flatMap,
      List.flatMap_map]
    congr 1
    refine List.flatMap_congr fun c sorted => ?_
    rw [segment_arranged, ih c ((perm_sortedChildren _).mem_iff.1 sorted)]

/-- The walk of a tree whose children are keyed by their segments, in whatever order they are given: it
is the preorder with the children sorted, it has every node with the package that it is found at,
and the packages increase, so that no node is visited twice. -/
theorem walk_of_distinct (keyed : t.Distinct) :
    t.arranged.walk = ((preorder [] t).map fun item => (item.1, item.2.arranged)) ∧
      (∀ p n, (p, n) ∈ preorder [] t ↔ t.get? p = some n) ∧
      (∀ p n, (p, n) ∈ t.arranged.walk ↔ t.arranged.get? p = some n) ∧
      (t.arranged.walk.map Prod.fst).Pairwise (· < ·) ∧
      (t.Ordered → t.arranged = t) := by
  have ordered := ordered_arranged keyed
  have members {u : PackageTree} (distinct : u.Distinct) (p : List Segment) (n : PackageTree) :
      (p, n) ∈ nodesAt [] u ↔ u.get? p = some n := by
    rw [mem_nodesAt distinct]
    simp
  refine ⟨?_, fun p n => ?_, fun p n => ?_, ?_, arranged_of_ordered⟩
  · rw [walk_eq, nodesAt_arranged]
  · rw [(perm_preorder [] t).mem_iff, members keyed]
  · rw [walk_eq, members ordered.distinct]
  · rw [walk_eq, List.pairwise_map]
    exact pairwise_nodesAt ordered []

def shuffled : PackageTree :=
  node [] [] none
    [node ['b'] [] none [],
      node ['a'] [] none [node ['d'] [] none [], node ['c'] [] none []]]

theorem distinct_shuffled : shuffled.Distinct := by
  have leaf (s : Segment) : (node s [] none []).Distinct := .node (by simp) (by simp)
  refine .node (by decide) ?_
  simp only [List.mem_cons, List.not_mem_nil, or_false, forall_eq_or_imp, forall_eq]
  refine ⟨leaf _, .node (by decide) ?_⟩
  simp [leaf]

theorem walk_of_shuffled :
    shuffled.Distinct ∧
    (preorder [] shuffled).map Prod.fst =
      [[], [['a']], [['a'], ['c']], [['a'], ['d']], [['b']]] ∧
    shuffled.arranged.walk =
      ((preorder [] shuffled).map fun item => (item.1, item.2.arranged)) ∧
    (∀ p n, (p, n) ∈ preorder [] shuffled ↔ shuffled.get? p = some n) ∧
    (∀ p n, (p, n) ∈ shuffled.arranged.walk ↔ shuffled.arranged.get? p = some n) ∧
    (shuffled.arranged.walk.map Prod.fst).Pairwise (· < ·) ∧
    (shuffled.Ordered → shuffled.arranged = shuffled) :=
  ⟨distinct_shuffled, by cbv, walk_of_distinct distinct_shuffled⟩

end ProtoModules.PackageTree
