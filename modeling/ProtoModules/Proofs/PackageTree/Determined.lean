import Mathlib.Data.List.Nodup
import ProtoModules.Proofs.PackageTree.Lookup

/-! Trees told apart by what is found in them. Two trees whose siblings stand in order are equal if the
same is found at every package, so the tree of some units does not depend on how the units of
different packages are mixed. -/

namespace ProtoModules.PackageTree
open Source

def found? (t : PackageTree) (p : List Segment) : Option (List GeneratedUnit × Option (List Char)) :=
  (t.get? p).map fun n => (n.units, n.identifier)

theorem found?_cons (s : Segment) (p : List Segment) (t : PackageTree) :
    t.found? (s :: p) = (child? s t.children).bind fun c => c.found? p := by
  rw [found?, get?_cons, Option.map_bind]
  rfl

variable {t t' c : PackageTree} {us vs : List GeneratedUnit}

theorem exists_child_of_found? {cs cs' : List PackageTree}
    (same : ∀ s p, ((child? s cs).bind fun c => c.found? p) =
      (child? s cs').bind fun c => c.found? p)
    (siblings : (cs.map segment).Nodup) (member : c ∈ cs) :
    ∃ c' ∈ cs', c.segment = c'.segment ∧ ∀ p, c.found? p = c'.found? p := by
  have here := child?_of_mem siblings member
  have both := same c.segment
  rw [here] at both
  cases there : child? c.segment cs' with
  | none =>
    have top := both []
    rw [there] at top
    cases top
  | some c' =>
    obtain ⟨member', segment⟩ := mem_of_child? there
    refine ⟨c', member', segment.symm, fun p => ?_⟩
    have below := both p
    rwa [there] at below

theorem eq_of_found? (ordered : t.Ordered) (ordered' : t'.Ordered)
    (segments : t.segment = t'.segment) (same : ∀ p, t.found? p = t'.found? p) : t = t' := by
  induction t generalizing t' with
  | node s us i cs ih =>
    cases t' with
    | node s' us' i' cs' =>
      have own := same []
      simp only [found?, get?, Option.map_some, Option.some.injEq, Prod.mk.injEq] at own
      obtain ⟨unitsEq, identifierEq⟩ : us = us' ∧ i = i' := own
      have below : ∀ s p, ((child? s cs).bind fun c => c.found? p) =
          (child? s cs').bind fun c => c.found? p := by
        intro s p
        have both := same (s :: p)
        rwa [found?_cons, found?_cons] at both
      have forth : ∀ c ∈ cs, c ∈ cs' := by
        intro c member
        obtain ⟨c', member', segment, found⟩ :=
          exists_child_of_found? below ordered.distinct.siblings member
        rwa [ih c member (ordered.child c member) (ordered'.child c' member') segment found]
      have back : ∀ c' ∈ cs', c' ∈ cs := by
        intro c' member'
        obtain ⟨c, member, segment, found⟩ :=
          exists_child_of_found? (fun s p => (below s p).symm) ordered'.distinct.siblings member'
        have twin := ih c member (ordered.child c member) (ordered'.child c' member')
          segment.symm fun p => (found p).symm
        rwa [← twin]
      -- the children are the same and stand in the same order, as both lists are sorted
      have perm : cs.Perm cs' :=
        (List.perm_ext_iff_of_nodup (List.Nodup.of_map _ ordered.distinct.siblings)
          (List.Nodup.of_map _ ordered'.distinct.siblings)).2 fun c => ⟨forth c, back c⟩
      have children : cs = cs' :=
        List.Perm.eq_of_pairwise (fun a b _ _ less more => absurd more (lt_asymm less))
          (List.pairwise_map.1 ordered.siblings) (List.pairwise_map.1 ordered'.siblings) perm
      obtain rfl : s = s' := segments
      rw [unitsEq, identifierEq, children]

theorem identifier_insert (p : List Segment) (u : GeneratedUnit) (t : PackageTree) :
    (insert p u t).identifier = t.identifier := by
  cases t
  cases p <;> rfl

theorem identifier_reach {p : List Segment}
    (unnamed : ∀ n, t.get? p = some n → n.identifier = none) : (t.reach p).identifier = none := by
  cases found : t.get? p with
  | some n => rw [reach_of_get? found, unnamed n found]
  | none =>
    obtain ⟨name, missing⟩ := reach_of_get?_none found
    rw [missing]
    rfl

theorem identifier_of_get?_ofUnits {root : Segment} {p : List Segment} {n : PackageTree}
    (found : (ofUnits root us).get? p = some n) : n.identifier = none := by
  induction us using List.reverseRecOn generalizing p n with
  | nil =>
    cases p with
    | nil =>
      obtain rfl := Option.some.inj found
      rfl
    | cons s p => cases found
  | append_singleton us u ih =>
    have ordered := ordered_ofUnits root us
    rw [ofUnits_append] at found
    by_cases above : p <+: u.package
    · obtain ⟨r, whole⟩ := above
      rw [← whole, get?_insert_append ordered] at found
      obtain rfl := Option.some.inj found
      rw [identifier_insert]
      exact identifier_reach fun m here => ih here
    · rw [get?_insert_of_not_le ordered above] at found
      exact ih found

/-- The units of each package come in the same order, however those of different packages are mixed. -/
def SameByPackage (us vs : List GeneratedUnit) : Prop :=
  ∀ p, (us.filter fun u => u.package = p) = vs.filter fun u => u.package = p

theorem SameByPackage.symm (same : SameByPackage us vs) : SameByPackage vs us :=
  fun p => (same p).symm

theorem SameByPackage.mem (same : SameByPackage us vs) {u : GeneratedUnit} (member : u ∈ us) :
    u ∈ vs := by
  have own : u ∈ us.filter fun v => v.package = u.package := by simp [member]
  rw [same] at own
  exact (List.mem_filter.1 own).1

theorem SameByPackage.covers (same : SameByPackage us vs) {p : List Segment} (here : Covers us p) :
    Covers vs p :=
  here.imp_right fun ⟨u, member, above⟩ => ⟨u, same.mem member, above⟩

theorem SameByPackage.map {f : GeneratedUnit → GeneratedUnit} (same : SameByPackage us vs)
    (kept : ∀ u, (f u).package = u.package) : SameByPackage (us.map f) (vs.map f) := by
  intro p
  have through : ((fun u : GeneratedUnit => decide (u.package = p)) ∘ f) =
      fun u => decide (u.package = p) := by
    funext u
    rw [Function.comp, kept]
  rw [List.filter_map, List.filter_map, through, same p]

theorem found?_ofUnits (root : Segment) (us : List GeneratedUnit) (p : List Segment) :
    (ofUnits root us).found? p =
      ((ofUnits root us).get? p).map fun _ => (us.filter fun u => u.package = p, none) := by
  rw [found?]
  cases found : (ofUnits root us).get? p with
  | none => rfl
  | some n =>
    rw [Option.map_some, Option.map_some, identifier_of_get?_ofUnits found,
      ← unitsAt_of_get? found, unitsAt_ofUnits]

theorem ofUnits_eq_of_same (root : Segment) (same : SameByPackage us vs) :
    ofUnits root us = ofUnits root vs := by
  have root_eq : ∀ us, (ofUnits root us).segment = root := by
    intro us
    induction us using List.reverseRecOn with
    | nil => rfl
    | append_singleton us u ih => rw [ofUnits_append, segment_insert, ih]
  refine eq_of_found? (ordered_ofUnits root us) (ordered_ofUnits root vs)
    (by rw [root_eq, root_eq]) fun p => ?_
  have there : ((ofUnits root us).get? p).isSome ↔ ((ofUnits root vs).get? p).isSome := by
    rw [isSome_get?_ofUnits, isSome_get?_ofUnits]
    exact ⟨same.covers, same.symm.covers⟩
  rw [found?_ofUnits, found?_ofUnits, same p]
  cases first : (ofUnits root us).get? p with
  | none =>
    cases second : (ofUnits root vs).get? p with
    | none => rfl
    | some n => simp [first, second] at there
  | some m =>
    cases second : (ofUnits root vs).get? p with
    | none => simp [first, second] at there
    | some n => rfl

end ProtoModules.PackageTree
