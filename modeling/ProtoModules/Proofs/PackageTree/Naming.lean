import ProtoModules.PackageTree.Identifiers
import ProtoModules.Proofs.PackageTree.Nodes

/-! A tree that is named without a collision. Every node below the root has the identifier of its own
segment; segments, units and children are what they were, so a package is found in the named tree
just where it was. -/

namespace ProtoModules.PackageTree

mutual

def spelled : PackageTree → PackageTree
  | node s us i cs => node s us i (spelledEach cs)

def spelledEach : List PackageTree → List PackageTree
  | [] => []
  | c :: rest => (spelled c).withIdentifier (Identifier.ofSegment c.segment) :: spelledEach rest

end

def spelledChild (c : PackageTree) : PackageTree :=
  (spelled c).withIdentifier (Identifier.ofSegment c.segment)

theorem spelledEach_eq (cs : List PackageTree) : spelledEach cs = cs.map spelledChild := by
  induction cs with
  | nil => rfl
  | cons c rest ih => rw [spelledEach, ih, List.map_cons, spelledChild]

@[simp] theorem segment_spelledChild (c : PackageTree) : (spelledChild c).segment = c.segment := by
  cases c; rfl

@[simp] theorem identifier_spelledChild (c : PackageTree) :
    (spelledChild c).identifier = some (Identifier.ofSegment c.segment) := by
  cases c; rfl

theorem children_spelled (t : PackageTree) : t.spelled.children = t.children.map spelledChild := by
  cases t with
  | node s us i cs => exact spelledEach_eq cs

theorem children_spelledChild (c : PackageTree) :
    (spelledChild c).children = c.children.map spelledChild := by
  rw [← children_spelled]
  cases c; rfl

theorem childNames_eq {package : List Segment} {seen : List Named} {cs : List PackageTree}
    (free : (childNames package seen cs).2 = none) :
    (childNames package seen cs).1 = cs.map fun c => Identifier.ofSegment c.segment := by
  induction cs generalizing seen with
  | nil => rfl
  | cons c rest ih =>
    simp only [childNames] at free ⊢
    split at free
    · contradiction
    · simp only [List.map_cons, ih free]

theorem assign_eq (cs : List PackageTree) (named : PackageTree → PackageTree) :
    assign (cs.map fun c => Identifier.ofSegment c.segment) (cs.map named) =
      cs.map fun c => (named c).withIdentifier (Identifier.ofSegment c.segment) := by
  induction cs with
  | nil => rfl
  | cons c rest ih => rw [List.map_cons, List.map_cons, assign, ih, List.map_cons]

theorem nameEach_eq {package : List Segment} {cs : List PackageTree}
    (each : ∀ c ∈ cs, ∀ package, (nameBelow package c).2 = none →
      (nameBelow package c).1 = c.spelled)
    (free : (nameEach package cs).2 = none) : (nameEach package cs).1 = cs.map spelled := by
  induction cs with
  | nil => rfl
  | cons c rest ih =>
    have first := each c List.mem_cons_self (package ++ [c.segment])
    simp only [nameEach] at free ⊢
    split at free
    · contradiction
    · rename_i named found
      rw [found] at first
      simp only [List.map_cons, ← first rfl,
        ih (fun d member => each d (List.mem_cons_of_mem _ member)) free]

theorem nameBelow_eq {package : List Segment} {t : PackageTree}
    (free : (nameBelow package t).2 = none) : (nameBelow package t).1 = t.spelled := by
  induction t generalizing package with
  | node s us i cs ih =>
    simp only [nameBelow] at free ⊢
    split at free
    · contradiction
    · rename_i names
      have own := childNames_eq names
      have below := nameEach_eq (fun c member package => ih c member) free
      simp only [own, below, assign_eq, spelled, spelledEach_eq]
      rfl

theorem spelled_withIdentifier (name : List Char) (t : PackageTree) :
    (t.withIdentifier name).spelled = t.spelled.withIdentifier name := by
  cases t; rfl

theorem resolve_eq {name : Option (List Char)} {t : PackageTree}
    (free : (t.resolve name).2 = none) :
    (t.resolve name).1 = t.spelled.withIdentifier (name.getD t.segment) := by
  rw [← spelled_withIdentifier]
  exact nameBelow_eq free

theorem get?_spelledChild (p : List Segment) (c : PackageTree) :
    (spelledChild c).get? p = (c.get? p).map spelledChild := by
  induction p generalizing c with
  | nil => rfl
  | cons s p ih =>
    rw [get?_cons, get?_cons, children_spelledChild, child?_map segment_spelledChild]
    cases child? s c.children with
    | none => rfl
    | some d => exact ih d

theorem ordered_spelledChild {c : PackageTree} (ordered : c.Ordered) : (spelledChild c).Ordered := by
  induction c with
  | node s us i cs ih =>
    have siblings : ((cs.map spelledChild).map segment).Pairwise (· < ·) := by
      have same : segment ∘ spelledChild = segment := funext segment_spelledChild
      rw [List.map_map, same]
      exact ordered.siblings
    rw [spelledChild, spelled, spelledEach_eq]
    refine .node siblings fun d member => ?_
    obtain ⟨c, child, rfl⟩ := List.mem_map.1 member
    exact ih c child (ordered.child c child)

/-- The root and the nodes below it, as `resolve` leaves them when there is no collision. -/
def named (name : List Char) (t : PackageTree) : PackageTree := t.spelled.withIdentifier name

variable {t : PackageTree} {p : List Segment} {name : List Char}

theorem spelledChild_eq (c : PackageTree) :
    spelledChild c = c.named (Identifier.ofSegment c.segment) := by
  rw [spelledChild, named]

theorem children_named (name : List Char) (t : PackageTree) :
    (t.named name).children = t.children.map spelledChild := by
  rw [← children_spelled]
  cases t; rfl

theorem units_named (name : List Char) (t : PackageTree) : (t.named name).units = t.units := by
  cases t; rfl

theorem ordered_named (ordered : t.Ordered) : (t.named name).Ordered := by
  have below := ordered_spelledChild ordered
  cases t with
  | node s us i cs =>
    cases below with
    | node siblings below => exact .node siblings below

theorem get?_named_cons (s : Segment) (p : List Segment) (name : List Char) (t : PackageTree) :
    (t.named name).get? (s :: p) = (t.get? (s :: p)).map spelledChild := by
  rw [get?_cons, get?_cons, children_named, child?_map segment_spelledChild]
  cases child? s t.children with
  | none => rfl
  | some c => exact get?_spelledChild p c

theorem get?_named (p : List Segment) (name : List Char) (t : PackageTree) :
    ∃ identifier, (t.named name).get? p = (t.get? p).map (named identifier) := by
  cases p with
  | nil => exact ⟨name, rfl⟩
  | cons s p =>
    rw [get?_named_cons]
    cases t.get? (s :: p) with
    | none => exact ⟨name, by simp⟩
    | some n => exact ⟨Identifier.ofSegment n.segment, by simp [spelledChild_eq]⟩

theorem missingIn_eq_none {cs : List PackageTree}
    (each : ∀ c ∈ cs, c.identifier.isSome ∧ missingBelow c = none) : missingIn cs = none := by
  induction cs with
  | nil => rfl
  | cons c rest ih =>
    obtain ⟨present, below⟩ := each c List.mem_cons_self
    have later := ih fun d member => each d (List.mem_cons_of_mem _ member)
    have kept : c.identifier.isNone = false := by simpa using present
    simp [missingIn, kept, below, later]

theorem missingBelow_spelled (t : PackageTree) : missingBelow t.spelled = none := by
  induction t with
  | node s us i cs ih =>
    have each : ∀ d ∈ cs.map spelledChild, d.identifier.isSome ∧ missingBelow d = none := by
      intro d member
      obtain ⟨c, child, rfl⟩ := List.mem_map.1 member
      have below := ih c child
      refine ⟨by simp, ?_⟩
      cases c with
      | node => exact below
    have none : (cs.map spelledChild).any (fun c => c.identifier.isNone) = false := by
      rw [List.any_eq_false]
      intro d member
      simpa [Option.isSome_iff_ne_none] using (each d member).1
    rw [spelled, spelledEach_eq, missingBelow, none, Bool.and_false, if_neg Bool.false_ne_true,
      missingIn_eq_none each]

theorem missingName?_named (name : List Char) (t : PackageTree) :
    (t.named name).missingName? = none := by
  have below := missingBelow_spelled t
  cases t with
  | node s us i cs => exact below

theorem files?_resolve {root : Option (List Char)} (free : (t.resolve root).2 = none)
    (o : FileOptions) :
    (t.resolve root).1.files? o = .ok ((t.named (root.getD t.segment)).files o) := by
  rw [resolve_eq free, files?, ← named, missingName?_named]

end ProtoModules.PackageTree
