import Mathlib.Algebra.BigOperators.Group.List.Basic
import Mathlib.Algebra.Ring.Nat
import ProtoModules.Proofs.PackageTree.Nodes

/-! What insertions make of an empty tree, in whatever order they come and whatever packages they are
for: a map from packages to the units that were put there. A package has a node if something was
put there or below it, and no unit is lost or counted twice. -/

namespace ProtoModules.PackageTree
open Source

variable {t n : PackageTree} {p : List Segment}

theorem map_snd_nodesAt (package package' : List Segment) (t : PackageTree) :
    (nodesAt package t).map Prod.snd = (nodesAt package' t).map Prod.snd := by
  induction t generalizing package package' with
  | node s us i cs ih =>
    rw [nodesAt_eq, nodesAt_eq, List.map_cons, List.map_cons, List.map_flatMap, List.map_flatMap]
    congr 1
    exact List.flatMap_congr fun c member => ih c member _ _

theorem sum_nodesAt (package : List Segment) (t : PackageTree) :
    ((nodesAt package t).map fun item => item.2.units.length).sum = t.countUnits := by
  have counted : t.countUnits = ((nodesAt [] t).map fun item => item.2.units.length).sum := by
    rw [countUnits, walk_eq, List.sum_eq_foldl, List.foldl_map]
  have units (items : List (List Segment × PackageTree)) :
      (items.map fun item => item.2.units.length) =
        (items.map Prod.snd).map fun n => n.units.length := by
    rw [List.map_map]
    rfl
  rw [counted, units, units, map_snd_nodesAt package []]

theorem countUnits_eq (t : PackageTree) :
    t.countUnits = t.units.length + (t.children.map countUnits).sum := by
  rw [← sum_nodesAt [] t, nodesAt_eq, List.map_cons, List.sum_cons]
  congr 1
  rw [List.map_flatMap, List.flatMap, List.sum_flatten, List.map_map]
  congr 2
  funext c
  exact sum_nodesAt _ c

theorem countUnits_empty (s : Segment) : (empty s).countUnits = 0 := by
  rw [countUnits_eq]
  rfl

theorem sum_updateChild {s : Segment} {change : PackageTree → PackageTree}
    (counted : ∀ t, (change t).countUnits = t.countUnits + 1) (cs : List PackageTree) :
    ((updateChild s change cs).map countUnits).sum = (cs.map countUnits).sum + 1 := by
  have fresh : (change (empty s)).countUnits = 1 := by rw [counted, countUnits_empty]
  induction cs with
  | nil => simp [updateChild, fresh]
  | cons c rest ih =>
    rw [updateChild]
    split
    · simp only [List.map_cons, List.sum_cons, counted]
      omega
    · split
      · simp only [List.map_cons, List.sum_cons, fresh]
        omega
      · simp only [List.map_cons, List.sum_cons, ih]
        omega

theorem countUnits_insert (p : List Segment) (u : GeneratedUnit) (t : PackageTree) :
    (insert p u t).countUnits = t.countUnits + 1 := by
  induction p generalizing t with
  | nil =>
    cases t with
    | node s us i cs =>
      rw [countUnits_eq, countUnits_eq (node s us i cs), insert]
      simp only [units, children, List.length_append, List.length_singleton]
      omega
  | cons next p ih =>
    cases t with
    | node s us i cs =>
      rw [countUnits_eq, countUnits_eq (node s us i cs), insert, children, sum_updateChild ih]
      rfl

theorem countUnits_ofInserts (root : Segment) (inserts : List (List Segment × GeneratedUnit)) :
    (ofInserts root inserts).countUnits = inserts.length := by
  induction inserts using List.reverseRecOn with
  | nil => exact countUnits_empty root
  | append_singleton inserts item ih =>
    rw [ofInserts_append, countUnits_insert, ih, List.length_append, List.length_singleton]

theorem get?_child_iff (ordered : t.Ordered) (found : t.get? p = some n) (s : Segment)
    (c : PackageTree) : t.get? (p ++ [s]) = some c ↔ c ∈ n.children ∧ c.segment = s := by
  rw [get?_concat found, child?_eq_some_iff (ordered.get? found).distinct.siblings]

/-- What a tree has if it stands for what was put into it: a node for each package that something was
put at or below, with the units that were put there, in the order they came, and children that are
found by their segments. -/
structure StandsFor (t : PackageTree) (inserts : List (List Segment × GeneratedUnit)) : Prop where
  isSome_iff (p : List Segment) : (t.get? p).isSome ↔ p = [] ∨ ∃ item ∈ inserts, p <+: item.1
  units_eq (p : List Segment) (n : PackageTree) (found : t.get? p = some n) :
    n.units = (inserts.filter fun item => item.1 = p).map Prod.snd
  synthetic_iff (p : List Segment) (n : PackageTree) (found : t.get? p = some n) :
    n.isSynthetic ↔ ∀ item ∈ inserts, item.1 ≠ p
  once (p : List Segment) (n : PackageTree) (found : t.get? p = some n) :
    (n.children.map segment).Nodup
  child_iff (p : List Segment) (n : PackageTree) (found : t.get? p = some n) (s : Segment)
    (c : PackageTree) : t.get? (p ++ [s]) = some c ↔ c ∈ n.children ∧ c.segment = s
  count : t.countUnits = inserts.length

theorem standsFor_ofInserts (root : Segment) (inserts : List (List Segment × GeneratedUnit)) :
    (ofInserts root inserts).StandsFor inserts := by
  have ordered := ordered_ofInserts root inserts
  have own : ∀ p n, (ofInserts root inserts).get? p = some n →
      n.units = (inserts.filter fun item => item.1 = p).map Prod.snd := by
    intro p n found
    rw [← unitsAt_of_get? found, unitsAt_ofInserts]
  exact
    { isSome_iff := isSome_get?_ofInserts root inserts
      units_eq := own
      synthetic_iff := fun p n found => by
        rw [isSynthetic, own p n found]
        simp
      once := fun p n found => (ordered.get? found).distinct.siblings
      child_iff := fun p n found => get?_child_iff ordered found
      count := countUnits_ofInserts root inserts }

end ProtoModules.PackageTree
