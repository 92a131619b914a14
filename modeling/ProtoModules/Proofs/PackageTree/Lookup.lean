import Mathlib.Data.Char
import Mathlib.Data.List.Induction
import Mathlib.Data.List.Lex
import ProtoModules.PackageTree.Basic

/-! Finding packages in a tree. The children of every node stand in order, each segment once, and adding
a unit keeps it so; the node at a package, or the empty one that would be made there, takes what
is added below it and no other node changes. A tree made of units has a node for each package that
a unit lies in or below. -/

namespace ProtoModules
open Source

namespace PackageTree

@[induction_eliminator]
theorem induct {motive : PackageTree → Prop}
    (node : ∀ (s : Segment) (us : List GeneratedUnit) (i : Option (List Char))
      (cs : List PackageTree), (∀ c ∈ cs, motive c) → motive (node s us i cs)) :
    ∀ t, motive t
  | .node s us i cs => node s us i cs fun c _ => induct node c

inductive Ordered : PackageTree → Prop where
  | node {s : Segment} {us : List GeneratedUnit} {i : Option (List Char)} {cs : List PackageTree}
      (siblings : (cs.map segment).Pairwise (· < ·)) (below : ∀ c ∈ cs, Ordered c) :
      Ordered (node s us i cs)

/-- Siblings differ, in whatever order they stand. -/
inductive Distinct : PackageTree → Prop where
  | node {s : Segment} {us : List GeneratedUnit} {i : Option (List Char)} {cs : List PackageTree}
      (siblings : (cs.map segment).Nodup) (below : ∀ c ∈ cs, Distinct c) :
      Distinct (node s us i cs)

theorem Ordered.distinct {t : PackageTree} (ordered : t.Ordered) : t.Distinct := by
  induction ordered with
  | node siblings _ below =>
    exact .node (List.nodup_iff_pairwise_ne.2 (siblings.imp ne_of_lt)) below

theorem ordered_empty (s : Segment) : (empty s).Ordered := .node (by simp) (by simp)

def child? (s : Segment) (cs : List PackageTree) : Option PackageTree :=
  cs.find? fun c => c.segment = s

theorem child?_cons_self (c : PackageTree) (cs : List PackageTree) :
    child? c.segment (c :: cs) = some c := by
  simp [child?]

theorem child?_cons_of_ne {s : Segment} {c : PackageTree} (other : c.segment ≠ s)
    (cs : List PackageTree) : child? s (c :: cs) = child? s cs := by
  simp [child?, other]

theorem mem_of_child? {s : Segment} {cs : List PackageTree} {c : PackageTree}
    (found : child? s cs = some c) : c ∈ cs ∧ c.segment = s :=
  ⟨List.mem_of_find?_eq_some found, by simpa using List.find?_some found⟩

theorem child?_eq_none_iff {s : Segment} {cs : List PackageTree} :
    child? s cs = none ↔ s ∉ cs.map segment := by
  simp [child?]

theorem child?_of_mem {cs : List PackageTree} (siblings : (cs.map segment).Nodup)
    {c : PackageTree} (member : c ∈ cs) : child? c.segment cs = some c := by
  induction cs with
  | nil => simp at member
  | cons first rest ih =>
    rw [List.map_cons, List.nodup_cons] at siblings
    rcases List.mem_cons.1 member with rfl | later
    · exact child?_cons_self _ _
    · have other : first.segment ≠ c.segment := fun same =>
        siblings.1 (same ▸ List.mem_map_of_mem later)
      rw [child?_cons_of_ne other]
      exact ih siblings.2 later

theorem child?_eq_some_iff {s : Segment} {cs : List PackageTree}
    (siblings : (cs.map segment).Nodup) {c : PackageTree} :
    child? s cs = some c ↔ c ∈ cs ∧ c.segment = s := by
  constructor
  · exact mem_of_child?
  · rintro ⟨member, rfl⟩
    exact child?_of_mem siblings member

theorem child?_map {f : PackageTree → PackageTree} (kept : ∀ c, (f c).segment = c.segment)
    (s : Segment) (cs : List PackageTree) : child? s (cs.map f) = (child? s cs).map f := by
  have same : (fun c => decide (c.segment = s)) ∘ f = fun c => decide (c.segment = s) := by
    funext c
    rw [Function.comp, kept]
  rw [child?, child?, List.find?_map, same]

def childOrEmpty (s : Segment) (cs : List PackageTree) : PackageTree := (child? s cs).getD (empty s)

section updateChild

variable {s : Segment} {change : PackageTree → PackageTree}
  (named : ∀ t, (change t).segment = t.segment)

include named

theorem child?_updateChild_self {cs : List PackageTree}
    (siblings : (cs.map segment).Pairwise (· < ·)) :
    child? s (updateChild s change cs) = some (change (childOrEmpty s cs)) := by
  have fresh : (change (empty s)).segment = s := named _
  induction cs with
  | nil => simp [updateChild, child?, childOrEmpty, fresh]
  | cons c rest ih =>
    rw [List.map_cons, List.pairwise_cons] at siblings
    rw [updateChild]
    split
    · rename_i same
      simp [child?, childOrEmpty, named, same]
    · rename_i other
      split
      · rename_i before
        have missing : child? s (c :: rest) = none := by
          rw [child?_eq_none_iff, List.map_cons, List.mem_cons]
          rintro (same | later)
          · exact other same.symm
          · exact lt_asymm before (siblings.1 s later)
        rw [childOrEmpty, missing]
        simp [child?, fresh]
      · have below := ih siblings.2
        rw [child?_cons_of_ne other, below, childOrEmpty, childOrEmpty, child?_cons_of_ne other]

theorem child?_updateChild_of_ne {other : Segment} (differ : other ≠ s) (cs : List PackageTree) :
    child? other (updateChild s change cs) = child? other cs := by
  have fresh : (change (empty s)).segment ≠ other := by
    rw [named]
    exact Ne.symm differ
  induction cs with
  | nil => rw [updateChild, child?_cons_of_ne fresh]
  | cons c rest ih =>
    rw [updateChild]
    split
    · rename_i same
      have changed : (change c).segment ≠ other := by rw [named, same]; exact Ne.symm differ
      have old : c.segment ≠ other := by rw [same]; exact Ne.symm differ
      rw [child?_cons_of_ne changed, child?_cons_of_ne old]
    · split
      · rw [child?_cons_of_ne fresh]
      · by_cases here : c.segment = other
        · subst here
          rw [child?_cons_self, child?_cons_self]
        · rw [child?_cons_of_ne here, child?_cons_of_ne here, ih]

theorem mem_segments_updateChild {other : Segment} {cs : List PackageTree}
    (member : other ∈ (updateChild s change cs).map segment) :
    other = s ∨ other ∈ cs.map segment := by
  by_cases same : other = s
  · exact .inl same
  · refine .inr (by_contra fun missing => ?_)
    rw [← child?_eq_none_iff, ← child?_updateChild_of_ne named same, child?_eq_none_iff] at missing
    exact missing member

theorem pairwise_updateChild {cs : List PackageTree}
    (siblings : (cs.map segment).Pairwise (· < ·)) :
    ((updateChild s change cs).map segment).Pairwise (· < ·) := by
  have fresh : (change (empty s)).segment = s := named _
  induction cs with
  | nil => simp [updateChild]
  | cons c rest ih =>
    have tail := siblings
    rw [List.map_cons, List.pairwise_cons] at tail
    rw [updateChild]
    split
    · rw [List.map_cons, named]
      exact siblings
    · rename_i other
      split
      · rename_i before
        rw [List.map_cons, fresh, List.pairwise_cons]
        refine ⟨fun q member => ?_, siblings⟩
        rcases List.mem_cons.1 member with rfl | later
        · exact before
        · exact lt_trans before (tail.1 q later)
      · rename_i behind
        have above : c.segment < s := lt_of_le_of_ne (not_lt.1 behind) other
        rw [List.map_cons, List.pairwise_cons]
        refine ⟨fun q member => ?_, ih tail.2⟩
        rcases mem_segments_updateChild named member with rfl | old
        · exact above
        · exact tail.1 q old

theorem mem_updateChild {cs : List PackageTree} (siblings : (cs.map segment).Pairwise (· < ·))
    {c : PackageTree} (member : c ∈ updateChild s change cs) :
    c ∈ cs ∨ c = change (childOrEmpty s cs) := by
  have distinct : ((updateChild s change cs).map segment).Nodup :=
    List.nodup_iff_pairwise_ne.2 ((pairwise_updateChild named siblings).imp ne_of_lt)
  have found := child?_of_mem distinct member
  by_cases same : c.segment = s
  · rw [same, child?_updateChild_self named siblings] at found
    exact .inr (Option.some.inj found).symm
  · rw [child?_updateChild_of_ne named same] at found
    exact .inl (mem_of_child? found).1

end updateChild

variable {t : PackageTree} {p q : List Segment}

@[simp] theorem segment_insert (p : List Segment) (u : GeneratedUnit) (t : PackageTree) :
    (insert p u t).segment = t.segment := by
  cases t
  cases p <;> rfl

theorem Ordered.siblings (ordered : t.Ordered) : (t.children.map segment).Pairwise (· < ·) := by
  cases ordered
  assumption

theorem Ordered.child (ordered : t.Ordered) : ∀ c ∈ t.children, c.Ordered := by
  cases ordered
  assumption

theorem Distinct.siblings (distinct : t.Distinct) : (t.children.map segment).Nodup := by
  cases distinct
  assumption

theorem Distinct.child (distinct : t.Distinct) : ∀ c ∈ t.children, c.Distinct := by
  cases distinct
  assumption

theorem Ordered.childOrEmpty (ordered : t.Ordered) (s : Segment) :
    (childOrEmpty s t.children).Ordered := by
  rw [PackageTree.childOrEmpty]
  cases found : child? s t.children with
  | none => exact ordered_empty s
  | some c => exact ordered.child c (mem_of_child? found).1

theorem Ordered.insert (ordered : t.Ordered) (p : List Segment) (u : GeneratedUnit) :
    (insert p u t).Ordered := by
  induction p generalizing t with
  | nil =>
    cases ordered with
    | node siblings below => exact .node siblings below
  | cons s p ih =>
    cases t with
    | node name us i cs =>
      refine .node (pairwise_updateChild (segment_insert p u) ordered.siblings) fun c member => ?_
      rcases mem_updateChild (segment_insert p u) ordered.siblings member with old | rfl
      · exact ordered.child c old
      · exact ih (ordered.childOrEmpty s)

theorem get?_cons (s : Segment) (p : List Segment) (t : PackageTree) :
    t.get? (s :: p) = (child? s t.children).bind (get? p) := rfl

def reach : List Segment → PackageTree → PackageTree
  | [], t => t
  | s :: p, t => reach p (childOrEmpty s t.children)

theorem reach_of_get? {n : PackageTree} (found : t.get? p = some n) : t.reach p = n := by
  induction p generalizing t with
  | nil => exact Option.some.inj found
  | cons s p ih =>
    rw [get?_cons, Option.bind_eq_some_iff] at found
    obtain ⟨c, child, below⟩ := found
    rw [reach, childOrEmpty, child]
    exact ih below

theorem reach_empty (p : List Segment) (s : Segment) : ∃ name, (empty s).reach p = empty name := by
  induction p generalizing s with
  | nil => exact ⟨s, rfl⟩
  | cons next p ih => exact ih next

theorem reach_of_get?_none (missing : t.get? p = none) : ∃ name, t.reach p = empty name := by
  induction p generalizing t with
  | nil => contradiction
  | cons s p ih =>
    rw [get?_cons] at missing
    rw [reach, childOrEmpty]
    cases child : child? s t.children with
    | none => exact reach_empty p s
    | some c =>
      rw [child] at missing
      exact ih missing

theorem get?_insert_append (ordered : t.Ordered) (p r : List Segment) (u : GeneratedUnit) :
    (insert (p ++ r) u t).get? p = some (insert r u (t.reach p)) := by
  induction p generalizing t with
  | nil => rfl
  | cons s p ih =>
    have below := ih (ordered.childOrEmpty s)
    cases t with
    | node name us i cs =>
      have child : child? s (updateChild s (insert (p ++ r) u) cs) = _ :=
        child?_updateChild_self (segment_insert (p ++ r) u) ordered.siblings
      rw [get?_cons, List.cons_append, insert, children, child]
      exact below

theorem get?_insert_of_not_le (ordered : t.Ordered) (apart : ¬ q <+: p) (u : GeneratedUnit) :
    (insert p u t).get? q = t.get? q := by
  induction q generalizing p t with
  | nil => exact absurd (List.nil_prefix) apart
  | cons s q ih =>
    cases t with
    | node name us i cs =>
      cases p with
      | nil => rfl
      | cons next p =>
        have named := segment_insert p u
        rw [insert, get?_cons, get?_cons, children, children]
        by_cases same : s = next
        · subst same
          have tails : ¬ q <+: p := fun h => apart (List.cons_prefix_cons.2 ⟨rfl, h⟩)
          have siblings : (cs.map segment).Pairwise (· < ·) := ordered.siblings
          have below : (insert p u (childOrEmpty s cs)).get? q = (childOrEmpty s cs).get? q :=
            ih (ordered.childOrEmpty s) tails
          rw [child?_updateChild_self named siblings, Option.bind_some, below, childOrEmpty]
          -- a child that is made for the rest has nothing at the remaining names either
          cases child : child? s cs with
          | some c => rfl
          | none =>
            cases q with
            | nil => exact absurd List.nil_prefix tails
            | cons deeper q => rfl
        · rw [child?_updateChild_of_ne named same]

def unitsAt (t : PackageTree) (p : List Segment) : List GeneratedUnit :=
  ((t.get? p).map units).getD []

theorem unitsAt_of_get? {n : PackageTree} (found : t.get? p = some n) : t.unitsAt p = n.units := by
  simp [unitsAt, found]

theorem unitsAt_eq (p : List Segment) (t : PackageTree) : t.unitsAt p = (t.reach p).units := by
  cases found : t.get? p with
  | some n => rw [unitsAt_of_get? found, reach_of_get? found]
  | none =>
    obtain ⟨name, missing⟩ := reach_of_get?_none found
    simp [unitsAt, found, missing, empty, units]

theorem isSome_get?_insert (ordered : t.Ordered) (p q : List Segment) (u : GeneratedUnit) :
    ((insert p u t).get? q).isSome ↔ (t.get? q).isSome ∨ q <+: p := by
  by_cases above : q <+: p
  · obtain ⟨r, rfl⟩ := above
    simp [get?_insert_append ordered]
  · simp [get?_insert_of_not_le ordered above, above]

theorem units_insert (p : List Segment) (u : GeneratedUnit) (t : PackageTree) :
    (insert p u t).units = if p = [] then t.units ++ [u] else t.units := by
  cases t
  cases p <;> rfl

theorem unitsAt_insert (ordered : t.Ordered) (p q : List Segment) (u : GeneratedUnit) :
    (insert p u t).unitsAt q = if p = q then t.unitsAt q ++ [u] else t.unitsAt q := by
  by_cases above : q <+: p
  · obtain ⟨r, rfl⟩ := above
    rw [unitsAt_of_get? (get?_insert_append ordered q r u), units_insert, unitsAt_eq]
    simp
  · have differ : p ≠ q := by
      rintro rfl
      exact above List.prefix_rfl
    rw [unitsAt, get?_insert_of_not_le ordered above, if_neg differ, unitsAt]

def ofInserts (root : Segment) (inserts : List (List Segment × GeneratedUnit)) : PackageTree :=
  inserts.foldl (fun t item => t.insert item.1 item.2) (empty root)

theorem ofInserts_append (root : Segment) (inserts : List (List Segment × GeneratedUnit))
    (item : List Segment × GeneratedUnit) :
    ofInserts root (inserts ++ [item]) = insert item.1 item.2 (ofInserts root inserts) := by
  simp [ofInserts]

theorem ordered_ofInserts (root : Segment) (inserts : List (List Segment × GeneratedUnit)) :
    (ofInserts root inserts).Ordered := by
  induction inserts using List.reverseRecOn with
  | nil => exact ordered_empty root
  | append_singleton inserts item ih =>
    rw [ofInserts_append]
    exact ih.insert _ _

theorem isSome_get?_ofInserts (root : Segment) (inserts : List (List Segment × GeneratedUnit))
    (p : List Segment) :
    ((ofInserts root inserts).get? p).isSome ↔ p = [] ∨ ∃ item ∈ inserts, p <+: item.1 := by
  induction inserts using List.reverseRecOn with
  | nil =>
    cases p with
    | nil => simp [ofInserts, get?]
    | cons s p => simp [ofInserts, get?_cons, empty, children, child?]
  | append_singleton inserts item ih =>
    rw [ofInserts_append, isSome_get?_insert (ordered_ofInserts root inserts), ih]
    simp only [List.mem_append, List.mem_singleton, or_and_right, exists_or, exists_eq_left,
      or_assoc]

theorem unitsAt_ofInserts (root : Segment) (inserts : List (List Segment × GeneratedUnit))
    (p : List Segment) :
    (ofInserts root inserts).unitsAt p = (inserts.filter fun item => item.1 = p).map Prod.snd := by
  induction inserts using List.reverseRecOn with
  | nil =>
    cases p with
    | nil => rfl
    | cons s p => rfl
  | append_singleton inserts item ih =>
    rw [ofInserts_append, unitsAt_insert (ordered_ofInserts root inserts), ih, List.filter_append]
    by_cases here : item.1 = p <;> simp [here]

def Covers (us : List GeneratedUnit) (p : List Segment) : Prop :=
  p = [] ∨ ∃ u ∈ us, p <+: u.package

theorem ofUnits_eq (root : Segment) (us : List GeneratedUnit) :
    ofUnits root us = ofInserts root (us.map fun u => (u.package, u)) := by
  rw [ofUnits, ofInserts, List.foldl_map]

theorem ofUnits_append (root : Segment) (us : List GeneratedUnit) (u : GeneratedUnit) :
    ofUnits root (us ++ [u]) = insert u.package u (ofUnits root us) := by
  simp [ofUnits]

theorem ordered_ofUnits (root : Segment) (us : List GeneratedUnit) : (ofUnits root us).Ordered :=
  ofUnits_eq root us ▸ ordered_ofInserts root _

theorem isSome_get?_ofUnits (root : Segment) (us : List GeneratedUnit) (p : List Segment) :
    ((ofUnits root us).get? p).isSome ↔ Covers us p := by
  rw [ofUnits_eq, isSome_get?_ofInserts, Covers]
  simp

theorem unitsAt_ofUnits (root : Segment) (us : List GeneratedUnit) (p : List Segment) :
    (ofUnits root us).unitsAt p = us.filter fun u => u.package = p := by
  rw [ofUnits_eq, unitsAt_ofInserts, List.filter_map, List.map_map]
  exact List.map_id _

theorem get?_append (p q : List Segment) (t : PackageTree) :
    t.get? (p ++ q) = (t.get? p).bind (get? q) := by
  induction p generalizing t with
  | nil => rfl
  | cons s p ih =>
    rw [List.cons_append, get?_cons, get?_cons, Option.bind_assoc]
    congr 1
    funext c
    exact ih c

theorem get?_concat {n : PackageTree} (found : t.get? p = some n) (s : Segment) :
    t.get? (p ++ [s]) = child? s n.children := by
  rw [get?_append, found, Option.bind_some, get?_cons]
  cases child? s n.children <;> rfl

theorem mem_segments_iff {n : PackageTree} (found : t.get? p = some n) (s : Segment) :
    s ∈ n.children.map segment ↔ (t.get? (p ++ [s])).isSome := by
  rw [get?_concat found, ← not_iff_not, ← child?_eq_none_iff, Option.not_isSome_iff_eq_none]

theorem Ordered.get? (ordered : t.Ordered) {n : PackageTree} (found : t.get? p = some n) :
    n.Ordered := by
  induction p generalizing t with
  | nil => exact Option.some.inj found ▸ ordered
  | cons s p ih =>
    rw [get?_cons, Option.bind_eq_some_iff] at found
    obtain ⟨c, child, below⟩ := found
    exact ih (ordered.child c (mem_of_child? child).1) below

end PackageTree

end ProtoModules
