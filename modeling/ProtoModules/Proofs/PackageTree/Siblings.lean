import ProtoModules.Proofs.Identifier.Stem
import ProtoModules.Proofs.PackageTree.Naming

/-! Siblings in a tree that is named without a collision. The names of their files differ, and with them
their identifiers and their segments, so the stems on the way to a node are those of no other
node. -/

namespace ProtoModules.PackageTree
open Source
open Identifier (stem)

/-- No two siblings have files of the same name. -/
inductive Apart : PackageTree → Prop where
  | node {s : Segment} {us : List GeneratedUnit} {i : Option (List Char)} {cs : List PackageTree}
      (siblings : (cs.map fun c => stem c.segment).Nodup) (below : ∀ c ∈ cs, Apart c) :
      Apart (node s us i cs)

variable {t : PackageTree}

theorem Apart.siblings (apart : t.Apart) : (t.children.map fun c => stem c.segment).Nodup := by
  cases apart
  assumption

theorem Apart.child (apart : t.Apart) : ∀ c ∈ t.children, c.Apart := by
  cases apart
  assumption

theorem Apart.distinct (apart : t.Apart) : t.Distinct := by
  induction apart with
  | node siblings _ below =>
    refine .node (List.pairwise_map.2 ?_) below
    exact (List.pairwise_map.1 siblings).imp fun differ same => differ (congrArg stem same)

theorem Apart.get? (apart : t.Apart) {p : List Segment} {n : PackageTree}
    (found : t.get? p = some n) : n.Apart := by
  induction p generalizing t with
  | nil => exact Option.some.inj found ▸ apart
  | cons s p ih =>
    rw [get?_cons, Option.bind_eq_some_iff] at found
    obtain ⟨c, child, below⟩ := found
    exact ih (apart.child c (mem_of_child? child).1) below

theorem nodup_of_childNames {package : List Segment} {seen : List Named} {cs : List PackageTree}
    (free : (childNames package seen cs).2 = none) :
    (cs.map fun c => stem c.segment).Nodup ∧
      ∀ c ∈ cs, ∀ s ∈ seen, Identifier.fileStem s.identifier ≠ stem c.segment := by
  -- what has been seen grows by each child that is passed, so it is general in the induction
  induction cs generalizing seen with
  | nil => simp
  | cons c rest ih =>
    simp only [childNames] at free
    split at free
    · contradiction
    · rename_i fresh
      obtain ⟨later, unseen⟩ := ih free
      have missing : (seen.find? fun s =>
          Identifier.fileStem s.identifier = stem c.segment) = none := by
        rw [stem]
        cases same : seen.find? fun s => s.identifier = Identifier.ofSegment c.segment with
        | none => rwa [same] at fresh
        | some s => rw [same] at fresh; contradiction
      have own : ∀ s ∈ seen, Identifier.fileStem s.identifier ≠ stem c.segment := by
        simpa using missing
      have others : stem c.segment ∉ rest.map fun d => stem d.segment := by
        intro member
        obtain ⟨d, child, same⟩ := List.mem_map.1 member
        exact unseen d child _ List.mem_cons_self (by rw [same, stem])
      refine ⟨List.nodup_cons.2 ⟨others, later⟩, fun d member s before => ?_⟩
      rcases List.mem_cons.1 member with rfl | child
      · exact own s before
      · exact unseen d child s (List.mem_cons_of_mem _ before)

theorem apart_of_nameEach {package : List Segment} {cs : List PackageTree}
    (each : ∀ c ∈ cs, ∀ package, (nameBelow package c).2 = none → c.Apart)
    (free : (nameEach package cs).2 = none) : ∀ c ∈ cs, c.Apart := by
  induction cs with
  | nil => simp
  | cons c rest ih =>
    have first := each c List.mem_cons_self (package ++ [c.segment])
    simp only [nameEach] at free
    split at free
    · contradiction
    · rename_i named found
      rw [found] at first
      exact List.forall_mem_cons.2
        ⟨first rfl, ih (fun d member => each d (List.mem_cons_of_mem _ member)) free⟩

theorem apart_of_nameBelow {package : List Segment} (free : (nameBelow package t).2 = none) :
    t.Apart := by
  induction t generalizing package with
  | node s us i cs ih =>
    simp only [nameBelow] at free
    split at free
    · contradiction
    · rename_i names
      exact .node (nodup_of_childNames names).1
        (apart_of_nameEach (fun c member package => ih c member) free)

theorem apart_of_resolve {name : Option (List Char)} (free : (t.resolve name).2 = none) :
    t.Apart := by
  have named := apart_of_nameBelow free
  cases t with
  | node s us i cs => exact .node named.siblings named.child

theorem apart_spelledChild {c : PackageTree} (apart : c.Apart) : (spelledChild c).Apart := by
  induction c with
  | node s us i cs ih =>
    have siblings : ((cs.map spelledChild).map fun d => stem d.segment).Nodup := by
      have same : ((cs.map spelledChild).map fun d => stem d.segment) =
          cs.map fun d => stem d.segment := by
        rw [List.map_map]
        exact List.map_congr_left fun d _ => by rw [Function.comp, segment_spelledChild]
      rw [same]
      exact apart.siblings
    rw [spelledChild, spelled, spelledEach_eq]
    refine .node siblings fun d member => ?_
    obtain ⟨c, child, rfl⟩ := List.mem_map.1 member
    exact ih c child (apart.child c child)

theorem Apart.named (apart : t.Apart) (name : List Char) : (t.named name).Apart := by
  have below := apart_spelledChild apart
  cases t with
  | node s us i cs => exact .node below.siblings below.child

theorem Apart.nodup_stems (apart : t.Apart) (package : List Segment) :
    ((nodesAt package t).map fun item => item.1.map stem).Nodup := by
  rw [List.nodup_iff_pairwise_ne, List.pairwise_map]
  induction t generalizing package with
  | node s us i cs ih =>
    rw [nodesAt_eq, List.pairwise_cons, List.pairwise_flatMap]
    refine ⟨fun item member => ?_, fun c child => ih c child (apart.child c child) _, ?_⟩
    · obtain ⟨c, child, below⟩ := List.mem_flatMap.1 member
      obtain ⟨p, same, -⟩ := (mem_nodesAt (apart.child c child).distinct).1 below
      simp [same]
    · have siblings := List.pairwise_map.1 (List.nodup_iff_pairwise_ne.1 apart.siblings)
      refine siblings.imp_of_mem fun {c d} left right differ a first b second => ?_
      obtain ⟨p, same, -⟩ := (mem_nodesAt (apart.child c left).distinct).1 first
      obtain ⟨r, same', -⟩ := (mem_nodesAt (apart.child d right).distinct).1 second
      simp [same, same', differ]

end ProtoModules.PackageTree
