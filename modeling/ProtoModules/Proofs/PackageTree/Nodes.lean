import ProtoModules.PackageTree.Files
import ProtoModules.PackageTree.Walk
import ProtoModules.Proofs.PackageTree.Lookup

/-! The nodes of a tree in order, each with its package: a node before those below it and siblings in the
order of their segments. Every package that has a node is listed once, with the node that is found
there, and the files of a tree are made of its nodes one by one. -/

namespace ProtoModules.PackageTree

mutual

def nodesAt (package : List Segment) : PackageTree → List (List Segment × PackageTree)
  | node s us i cs => (package, node s us i cs) :: nodesEach package cs

def nodesEach (package : List Segment) : List PackageTree → List (List Segment × PackageTree)
  | [] => []
  | c :: rest => nodesAt (package ++ [c.segment]) c ++ nodesEach package rest

end

theorem nodesEach_eq (package : List Segment) (cs : List PackageTree) :
    nodesEach package cs = cs.flatMap fun c => nodesAt (package ++ [c.segment]) c := by
  induction cs with
  | nil => rfl
  | cons c rest ih => rw [nodesEach, ih, List.flatMap_cons]

theorem nodesAt_eq (package : List Segment) (t : PackageTree) :
    nodesAt package t =
      (package, t) :: t.children.flatMap fun c => nodesAt (package ++ [c.segment]) c := by
  cases t with
  | node s us i cs => rw [nodesAt, nodesEach_eq]; rfl

/-- What is still to be visited is walked through node by node, each with all that is below it. -/
theorem walkFrom_eq (pending : List (List Segment × PackageTree)) :
    walkFrom pending = pending.flatMap fun item => nodesAt item.1 item.2 := by
  induction pending using walkFrom.induct with
  | case1 => rw [walkFrom, List.flatMap_nil]
  | case2 package t rest ih =>
    rw [walkFrom, ih, List.flatMap_append, List.flatMap_cons, nodesAt_eq, nested, List.flatMap_map,
      List.cons_append]

theorem walk_eq (t : PackageTree) : t.walk = nodesAt [] t := by
  rw [walk, walkFrom_eq, List.flatMap_singleton]

variable {t : PackageTree} {package q : List Segment}

theorem mem_nodesAt (distinct : t.Distinct) {n : PackageTree} :
    (q, n) ∈ nodesAt package t ↔ ∃ p, q = package ++ p ∧ t.get? p = some n := by
  induction t generalizing package with
  | node s us i cs ih =>
    rw [nodesAt_eq, List.mem_cons, List.mem_flatMap]
    constructor
    · rintro (same | ⟨c, child, below⟩)
      · obtain ⟨rfl, rfl⟩ := Prod.mk.inj same
        exact ⟨[], by simp, rfl⟩
      · obtain ⟨p, rfl, found⟩ := (ih c child (distinct.child c child)).1 below
        refine ⟨c.segment :: p, by simp, ?_⟩
        rw [get?_cons, child?_of_mem distinct.siblings child]
        exact found
    · rintro ⟨p, rfl, found⟩
      cases p with
      | nil =>
        obtain rfl := Option.some.inj found
        exact .inl (by simp)
      | cons next p =>
        rw [get?_cons, Option.bind_eq_some_iff] at found
        obtain ⟨c, child, below⟩ := found
        obtain ⟨member, rfl⟩ := mem_of_child? child
        exact .inr ⟨c, member, (ih c member (distinct.child c member)).2 ⟨p, by simp, below⟩⟩

theorem lt_append_cons (first : List Segment) (s : Segment) (rest : List Segment) :
    first < first ++ s :: rest := by
  have below : first ++ [] < first ++ s :: rest := List.append_left_lt (List.nil_lt_cons s rest)
  simpa using below

theorem pairwise_nodesAt (ordered : t.Ordered) (package : List Segment) :
    (nodesAt package t).Pairwise fun a b => a.1 < b.1 := by
  induction t generalizing package with
  | node s us i cs ih =>
    rw [nodesAt_eq, List.pairwise_cons, List.pairwise_flatMap]
    refine ⟨fun item member => ?_, fun c child => ih c child (ordered.child c child) _, ?_⟩
    · obtain ⟨c, child, below⟩ := List.mem_flatMap.1 member
      obtain ⟨p, same, -⟩ := (mem_nodesAt (ordered.child c child).distinct).1 below
      rw [same, List.append_assoc]
      exact lt_append_cons package c.segment p
    · have siblings := List.pairwise_map.1 ordered.siblings
      refine siblings.imp_of_mem fun {c d} left right before a first b second => ?_
      obtain ⟨p, same, -⟩ := (mem_nodesAt (ordered.child c left).distinct).1 first
      obtain ⟨r, same', -⟩ := (mem_nodesAt (ordered.child d right).distinct).1 second
      rw [same, same', List.append_assoc, List.append_assoc]
      exact List.append_left_lt (List.cons_lt_cons_iff.2 (.inl before))

theorem nodup_nodesAt (ordered : t.Ordered) (package : List Segment) :
    ((nodesAt package t).map Prod.fst).Nodup := by
  rw [List.nodup_iff_pairwise_ne, List.pairwise_map]
  exact (pairwise_nodesAt ordered package).imp ne_of_lt

def textAt (o : FileOptions) (package : List Segment) (t : PackageTree) : List Char :=
  if package = [] then t.rootText o else t.moduleText o

def contentOf (f : EmittedFile) : List Segment × List Char := (f.package, f.content)

def textOf (o : FileOptions) (item : List Segment × PackageTree) : List Segment × List Char :=
  (item.1, item.2.textAt o item.1)

theorem contentOf_filesEach {o : FileOptions} {above : List (List Char)} {package : List Segment}
    {cs : List PackageTree}
    (each : ∀ c ∈ cs, (filesAt o above package c).map contentOf =
      (nodesAt (package ++ [c.segment]) c).map (textOf o)) :
    (filesEach o above package cs).map contentOf = (nodesEach package cs).map (textOf o) := by
  induction cs with
  | nil => rfl
  | cons c rest ih =>
    have later := ih fun d member => each d (List.mem_cons_of_mem _ member)
    rw [filesEach, nodesEach, List.map_append, List.map_append, each c List.mem_cons_self, later]

theorem contentOf_filesAt (o : FileOptions) (above : List (List Char)) (package : List Segment)
    (t : PackageTree) :
    (filesAt o above package t).map contentOf =
      (nodesAt (package ++ [t.segment]) t).map (textOf o) := by
  induction t generalizing above package with
  | node s us i cs ih =>
    have below := contentOf_filesEach (o := o) (fun c member => ih c member
      (above ++ [(node s us i cs).fileStem]) (package ++ [s]))
    have nested : package ++ [s] ≠ [] := by simp
    rw [filesAt, nodesAt, List.map_cons, List.map_cons, below]
    simp [contentOf, textOf, textAt, segment]

theorem contentOf_files (o : FileOptions) (t : PackageTree) :
    (t.files o).map contentOf = (nodesAt [] t).map (textOf o) := by
  have below := contentOf_filesEach fun c (_ : c ∈ t.children) =>
    contentOf_filesAt o [t.fileStem] [] c
  cases t with
  | node s us i cs =>
    rw [files, nodesAt, List.map_cons, List.map_cons, below]
    rfl

end ProtoModules.PackageTree
