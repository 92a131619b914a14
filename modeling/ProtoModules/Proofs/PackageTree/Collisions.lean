import ProtoModules.Proofs.PackageTree.Declarations

/-! Collisions. A tree is named unless two siblings have the same identifier; what is told then is the
first pair of them, parents in the order of the walk and siblings in the order of their segments.
A tree that is named has an identifier at every node and is otherwise what it was. -/

namespace ProtoModules

def Collision.ofSegments (package : List Segment) (first second : Segment) : Collision where
  first := Text.joinWith '.' (package ++ [first])
  second := Text.joinWith '.' (package ++ [second])
  identifier := Identifier.ofSegment second

namespace PackageTree
open Identifier (ofSegment stem)

/-- Two children of a node, in order, whose segments have the same identifier. -/
structure Clash (n a b : PackageTree) : Prop where
  first : a ∈ n.children
  second : b ∈ n.children
  before : a.segment < b.segment
  same : ofSegment a.segment = ofSegment b.segment

/-- What is told of the nodes of a walk: nothing if there is no clash, and otherwise the clash at the
first node that has one, with the first child of it that clashes with one before. -/
inductive Tells : List (List Segment × PackageTree) → Option Collision → Prop where
  | nothing {items : List (List Segment × PackageTree)}
      (free : ∀ item ∈ items, ∀ a b, ¬ item.2.Clash a b) : Tells items none
  | clash {before after : List (List Segment × PackageTree)} {package : List Segment}
      {n a b : PackageTree} (free : ∀ item ∈ before, ∀ a b, ¬ item.2.Clash a b)
      (pair : n.Clash a b) (least : ∀ c d, n.Clash c d → b.segment ≤ d.segment) :
      Tells (before ++ (package, n) :: after)
        (some (Collision.ofSegments package a.segment b.segment))

def shape (item : List Segment × PackageTree) :
    List Segment × Segment × List Source.GeneratedUnit × List Segment :=
  (item.1, item.2.segment, item.2.units, item.2.children.map segment)

/-- The second tree is the first one with an identifier at every node, which siblings do not share,
and neither do the files that are called after them. -/
structure NamedAll (root : List Char) (t named : PackageTree) : Prop where
  identified : ∀ item ∈ named.walk, item.2.identifier =
    some (if item.1 = [] then root else ofSegment item.2.segment)
  identifiers : ∀ item ∈ named.walk, (item.2.children.map identifierOrEmpty).Nodup
  stems : ∀ item ∈ named.walk, (item.2.children.map fileStem).Nodup
  kept : named.walk.map shape = t.walk.map shape

variable {n a b : PackageTree} {package : List Segment} {items : List (List Segment × PackageTree)}
  {collision : Option Collision}

theorem not_clash_of_nodup (once : (n.children.map fun c => ofSegment c.segment).Nodup)
    (a b : PackageTree) : ¬ n.Clash a b := by
  intro clash
  have same := List.inj_on_of_nodup_map once clash.first clash.second clash.same
  exact absurd clash.before (same ▸ lt_irrefl _)

def seenAs (package : List Segment) (c : PackageTree) : Named :=
  ⟨ofSegment c.segment, Text.joinWith '.' (package ++ [c.segment])⟩

theorem identifier_seenAs (package : List Segment) (c : PackageTree) :
    (seenAs package c).identifier = ofSegment c.segment := by
  rw [seenAs]

theorem exists_of_mem_seen {done : List PackageTree} {s : Named}
    (member : s ∈ done.reverse.map (seenAs package)) : ∃ a ∈ done, seenAs package a = s := by
  simpa using member

theorem exists_of_seen {done : List PackageTree} {c : PackageTree} {s : Named}
    (found : (((done.reverse.map (seenAs package)).find? fun s =>
        s.identifier = ofSegment c.segment).orElse fun _ =>
      (done.reverse.map (seenAs package)).find? fun s =>
        Identifier.fileStem s.identifier = Identifier.fileStem (ofSegment c.segment)) = some s) :
    ∃ a ∈ done, ofSegment a.segment = ofSegment c.segment ∧ seenAs package a = s := by
  cases here : (done.reverse.map (seenAs package)).find? fun s =>
      s.identifier = ofSegment c.segment with
  | some s' =>
    rw [here] at found
    obtain rfl : s' = s := Option.some.inj found
    obtain ⟨a, member, same⟩ := exists_of_mem_seen (List.mem_of_find?_eq_some here)
    have own : s'.identifier = ofSegment c.segment := by simpa using List.find?_some here
    rw [← same, identifier_seenAs] at own
    exact ⟨a, member, own, same⟩
  | none =>
    rw [here] at found
    obtain ⟨a, member, same⟩ := exists_of_mem_seen (List.mem_of_find?_eq_some found)
    have stems : Identifier.fileStem s.identifier = Identifier.fileStem (ofSegment c.segment) := by
      simpa using List.find?_some found
    rw [← same, identifier_seenAs, ← stem, ← stem] at stems
    exact ⟨a, member, Identifier.ofSegment_eq_iff.2 stems, same⟩

theorem notMem_of_unseen {done : List PackageTree} {c : PackageTree}
    (fresh : (((done.reverse.map (seenAs package)).find? fun s =>
        s.identifier = ofSegment c.segment).orElse fun _ =>
      (done.reverse.map (seenAs package)).find? fun s =>
        Identifier.fileStem s.identifier = Identifier.fileStem (ofSegment c.segment)) = none) :
    ofSegment c.segment ∉ done.map fun c => ofSegment c.segment := by
  intro seen
  obtain ⟨a, member, same⟩ := List.mem_map.1 seen
  cases here : (done.reverse.map (seenAs package)).find? fun s =>
      s.identifier = ofSegment c.segment with
  | some s =>
    rw [here] at fresh
    cases fresh
  | none =>
    refine List.find?_eq_none.1 here (seenAs package a)
      (List.mem_map_of_mem (List.mem_reverse.2 member)) ?_
    rw [identifier_seenAs, same]
    exact decide_eq_true rfl

theorem childNames_cases (package : List Segment) {done : List PackageTree}
    (once : (done.map fun c => ofSegment c.segment).Nodup) (rest : List PackageTree) :
    (childNames package (done.reverse.map (seenAs package)) rest).2 = none ∧
        ((done ++ rest).map fun c => ofSegment c.segment).Nodup ∨
      ∃ front a b back, done ++ rest = front ++ b :: back ∧
        (front.map fun c => ofSegment c.segment).Nodup ∧ a ∈ front ∧
        ofSegment a.segment = ofSegment b.segment ∧
        (childNames package (done.reverse.map (seenAs package)) rest).2 =
          some (Collision.ofSegments package a.segment b.segment) := by
  -- each child that is passed goes to the end of the ones that are done
  induction rest generalizing done with
  | nil => exact .inl ⟨rfl, by rwa [List.append_nil]⟩
  | cons c rest ih =>
    simp only [childNames]
    split
    · rename_i s found
      obtain ⟨a, member, same, rfl⟩ := exists_of_seen found
      exact .inr ⟨done, a, c, rest, rfl, once, member, same, rfl⟩
    · rename_i fresh
      have unseen := notMem_of_unseen fresh
      have longer : ((done ++ [c]).map fun c => ofSegment c.segment).Nodup := by
        rw [List.map_append, List.nodup_append]
        refine ⟨once, List.nodup_singleton _, fun name seen other last same => ?_⟩
        rw [List.map_singleton, List.mem_singleton] at last
        exact unseen (last ▸ same ▸ seen)
      have later := ih longer
      rw [List.reverse_concat, List.map_cons, List.append_assoc] at later
      exact later

theorem clash_of_split (siblings : (n.children.map segment).Pairwise (· < ·))
    {front back : List PackageTree} (cut : n.children = front ++ b :: back)
    (once : (front.map fun c => ofSegment c.segment).Nodup) (member : a ∈ front)
    (same : ofSegment a.segment = ofSegment b.segment) :
    n.Clash a b ∧ ∀ c d, n.Clash c d → b.segment ≤ d.segment := by
  rw [cut, List.map_append, List.map_cons, List.pairwise_append, List.pairwise_cons] at siblings
  obtain ⟨-, ⟨behind, -⟩, ahead⟩ := siblings
  have above : ∀ c ∈ front, c.segment < b.segment := fun c member =>
    ahead _ (List.mem_map_of_mem member) _ List.mem_cons_self
  have inFront : ∀ c ∈ n.children, c.segment < b.segment → c ∈ front := by
    intro c child less
    rw [cut] at child
    rcases List.mem_append.1 child with here | later
    · exact here
    · rcases List.mem_cons.1 later with rfl | last
      · exact absurd less (lt_irrefl _)
      · exact absurd less (not_lt_of_gt (behind _ (List.mem_map_of_mem last)))
  refine ⟨⟨?_, ?_, above a member, same⟩, fun c d clash => ?_⟩
  · rw [cut]
    exact List.mem_append_left _ member
  · rw [cut]
    exact List.mem_append_right _ List.mem_cons_self
  · by_contra less
    rw [not_le] at less
    have first := inFront c clash.first (clash.before.trans less)
    have second := inFront d clash.second less
    have twin := List.inj_on_of_nodup_map once first second clash.same
    exact absurd clash.before (twin ▸ lt_irrefl _)

theorem Tells.append {more : List (List Segment × PackageTree)} (first : Tells items none)
    (second : Tells more collision) : Tells (items ++ more) collision := by
  cases first with
  | nothing none =>
    cases second with
    | nothing free =>
      exact .nothing fun item member => (List.mem_append.1 member).elim (none item) (free item)
    | clash free pair least =>
      rw [← List.append_assoc]
      exact .clash (fun item member => (List.mem_append.1 member).elim (none item) (free item))
        pair least

theorem Tells.append_right {c : Collision} (first : Tells items (some c))
    (more : List (List Segment × PackageTree)) : Tells (items ++ more) (some c) := by
  cases first with
  | clash free pair least =>
    rw [List.append_assoc, List.cons_append]
    exact .clash free pair least

theorem tells_nameEach {cs : List PackageTree}
    (each : ∀ c ∈ cs, ∀ package, Tells (nodesAt package c) (nameBelow package c).2)
    (package : List Segment) :
    Tells (cs.flatMap fun c => nodesAt (package ++ [c.segment]) c) (nameEach package cs).2 := by
  induction cs with
  | nil => exact .nothing (by simp)
  | cons c rest ih =>
    have first := each c List.mem_cons_self (package ++ [c.segment])
    have later := ih fun d member => each d (List.mem_cons_of_mem _ member)
    rw [List.flatMap_cons, nameEach]
    split
    · rename_i named told found
      rw [found] at first
      exact first.append_right _
    · rename_i named found
      rw [found] at first
      exact first.append later

theorem tells_nameBelow {t : PackageTree} (ordered : t.Ordered) (package : List Segment) :
    Tells (nodesAt package t) (nameBelow package t).2 := by
  induction t generalizing package with
  | node s us i cs ih =>
    have siblings : ((node s us i cs).children.map segment).Pairwise (· < ·) := ordered.siblings
    have own := @childNames_cases package [] List.nodup_nil cs
    rw [nodesAt_eq, nameBelow]
    rcases own with ⟨none, once⟩ | ⟨front, a, b, back, cut, once, member, same, told⟩
    · have top : Tells [(package, node s us i cs)] Option.none :=
        .nothing fun item here => by
          rw [List.mem_singleton.1 here]
          exact not_clash_of_nodup once
      have below := tells_nameEach (fun c child => ih c child (ordered.child c child)) package
      rw [List.reverse_nil, List.map_nil] at none
      simp only [none]
      exact top.append below
    · obtain ⟨pair, least⟩ := clash_of_split siblings cut once member same
      rw [List.reverse_nil, List.map_nil] at told
      simp only [told]
      exact @Tells.clash [] _ _ _ _ _ (by simp) pair least

theorem tells_resolve {t : PackageTree} (ordered : t.Ordered) (name : Option (List Char)) :
    Tells t.walk (t.resolve name).2 := by
  have same : (t.resolve name).2 = (nameBelow [] t).2 := by
    cases t with
    | node s us i cs =>
      rw [resolve, withIdentifier, nameBelow, nameBelow]
      cases childNames [] [] cs with
      | mk names told => cases told <;> rfl
  rw [walk_eq, same]
  exact tells_nameBelow ordered []

theorem Tells.unique {other : Option Collision} (first : Tells items collision)
    (second : Tells items other) : collision = other := by
  cases first with
  | nothing none =>
    cases second with
    | nothing => rfl
    | @clash before after package n a b free pair =>
      exact absurd pair (none (package, n) (by simp) _ _)
  | @clash before after package n a b free pair least =>
    generalize whole : before ++ (package, n) :: after = items at second
    cases second with
    | nothing none => exact absurd pair (none (package, n) (by simp [← whole]) _ _)
    | @clash before' after' package' n' a' b' free' pair' least' =>
      have here : (package, n) = (package', n') := by
        rcases List.append_eq_append_iff.1 whole with ⟨between, rfl, cut⟩ | ⟨between, rfl, cut⟩
        · cases between with
          | nil => exact (List.cons.inj cut).1
          | cons item more =>
            obtain ⟨rfl, -⟩ := List.cons.inj cut
            exact absurd pair (free' (package, n) (by simp) _ _)
        · cases between with
          | nil => exact (List.cons.inj cut).1.symm
          | cons item more =>
            obtain ⟨rfl, -⟩ := List.cons.inj cut
            exact absurd pair' (free (package', n') (by simp) _ _)
      obtain ⟨rfl, rfl⟩ := Prod.mk.inj here
      have second : b.segment = b'.segment := le_antisymm (least _ _ pair') (least' _ _ pair)
      -- two different siblings before the second one would clash before it
      have first : a.segment = a'.segment := by
        rcases lt_trichotomy a.segment a'.segment with less | same | less
        · have closer : n.Clash a a' :=
            ⟨pair.first, pair'.first, less, by rw [pair.same, second, pair'.same]⟩
          exact absurd (least _ _ closer) (not_le_of_gt (second ▸ pair'.before))
        · exact same
        · have closer : n.Clash a' a :=
            ⟨pair'.first, pair.first, less, by rw [pair'.same, ← second, pair.same]⟩
          exact absurd (least _ _ closer) (not_le_of_gt pair.before)
      rw [first, second]

theorem Tells.isSome_iff (told : Tells items collision) :
    collision.isSome ↔ ∃ item ∈ items, ∃ a b, item.2.Clash a b := by
  cases told with
  | nothing free => simpa using free
  | @clash before after package n a b free pair least =>
    exact iff_of_true rfl ⟨(package, n), by simp, a, b, pair⟩

theorem shape_nodesAt_of_eq {named : PackageTree} (segments : named.segment = n.segment)
    (units : named.units = n.units) (children : named.children = n.children.map spelledChild)
    (below : ∀ c ∈ n.children, ∀ package,
      (nodesAt package (spelledChild c)).map shape = (nodesAt package c).map shape)
    (package : List Segment) :
    (nodesAt package named).map shape = (nodesAt package n).map shape := by
  have own : shape (package, named) = shape (package, n) := by
    have same : (segment ∘ spelledChild : PackageTree → Segment) = segment :=
      funext segment_spelledChild
    simp only [shape, segments, units, children, List.map_map, same]
  rw [nodesAt_eq, nodesAt_eq, List.map_cons, List.map_cons, own, children, List.flatMap_map,
    List.map_flatMap, List.map_flatMap]
  congr 1
  exact List.flatMap_congr fun c member => by rw [segment_spelledChild, below c member]

theorem shape_nodesAt_spelledChild (c : PackageTree) (package : List Segment) :
    (nodesAt package (spelledChild c)).map shape = (nodesAt package c).map shape := by
  induction c generalizing package with
  | node s us i cs ih =>
    have below : ∀ c ∈ (node s us i cs).children, ∀ package,
        (nodesAt package (spelledChild c)).map shape = (nodesAt package c).map shape := ih
    refine shape_nodesAt_of_eq ?_ ?_ (children_spelledChild _) below package
    · exact segment_spelledChild _
    · rfl

theorem identifier_of_get?_named {t : PackageTree} {p : List Segment} {root : List Char}
    (found : (t.named root).get? p = some n) :
    n.identifier = some (if p = [] then root else ofSegment n.segment) := by
  cases p with
  | nil =>
    obtain rfl := Option.some.inj found
    cases t
    rfl
  | cons s p =>
    rw [get?_named_cons, Option.map_eq_some_iff] at found
    obtain ⟨m, -, rfl⟩ := found
    rw [identifier_spelledChild, segment_spelledChild, if_neg (List.cons_ne_nil s p)]

theorem namedAll_named {t : PackageTree} (apart : t.Apart) (root : List Char) :
    NamedAll root t (t.named root) := by
  have node : ∀ item ∈ (t.named root).walk, (t.named root).get? item.1 = some item.2 := by
    intro item member
    rw [walk_eq] at member
    obtain ⟨p, same, found⟩ := (mem_nodesAt (apart.named root).distinct).1 member
    rwa [same]
  -- the children of a named node are those of the node itself, spelled out
  have siblings : ∀ item ∈ (t.named root).walk, ∃ m : PackageTree, m.Apart ∧
      item.2.children = m.children.map spelledChild := by
    intro item member
    obtain ⟨identifier, same⟩ := get?_named item.1 root t
    rw [node item member] at same
    obtain ⟨m, found, named⟩ := Option.map_eq_some_iff.1 same.symm
    exact ⟨m, apart.get? found, by rw [← named, children_named]⟩
  refine
    { identified := fun item member => identifier_of_get?_named (node item member)
      identifiers := fun item member => ?identifiers
      stems := fun item member => ?stems
      kept := ?kept }
  case identifiers =>
    obtain ⟨m, own, children⟩ := siblings item member
    rw [children, map_identifierOrEmpty]
    refine List.Nodup.of_map Identifier.fileStem ?_
    rw [map_fileStem_ofSegment, List.map_map]
    exact own.siblings
  case stems =>
    obtain ⟨m, own, children⟩ := siblings item member
    rw [children, List.map_map]
    have same : (fileStem ∘ spelledChild : PackageTree → List Char) = fun c => stem c.segment :=
      funext fileStem_spelledChild
    rw [same]
    exact own.siblings
  case kept =>
    rw [walk_eq, walk_eq]
    refine shape_nodesAt_of_eq ?_ (units_named root t) (children_named root t)
      (fun c _ => shape_nodesAt_spelledChild c) []
    cases t
    rfl

/-- Naming a tree, whose siblings stand in order: it ends in a collision exactly if two siblings have
the same identifier, the collision is that of the first such pair, and without one all nodes are
named and nothing else has changed. -/
theorem collision_of_resolve {t : PackageTree} (ordered : t.Ordered) (name : Option (List Char)) :
    ((t.resolve name).2.isSome ↔ ∃ item ∈ t.walk, ∃ a b, item.2.Clash a b) ∧
      (∀ collision, (t.resolve name).2 = collision ↔ Tells t.walk collision) ∧
      ((t.resolve name).2 = none → NamedAll (name.getD t.segment) t (t.resolve name).1) := by
  have told := tells_resolve ordered name
  refine ⟨told.isSome_iff, fun collision => ⟨fun same => same ▸ told, told.unique⟩, fun free => ?_⟩
  rw [resolve_eq free]
  exact namedAll_named (apart_of_resolve free) _

def clashing : List Source.GeneratedUnit := [⟨[['b'], ['x']], ['y'], [], ""⟩, ⟨[['b'], ['X']], ['z'], [], ""⟩]

theorem collision_of_clashing :
    (ofUnits [] clashing).Ordered ∧
    ((ofUnits [] clashing).resolve none).2 = some ⟨['b', '.', 'X'], ['b', '.', 'x'], ['x']⟩ ∧
    (((ofUnits [] clashing).resolve none).2.isSome ↔
      ∃ item ∈ (ofUnits [] clashing).walk, ∃ a b, item.2.Clash a b) ∧
    (∀ collision, ((ofUnits [] clashing).resolve none).2 = collision ↔
      Tells (ofUnits [] clashing).walk collision) ∧
    (((ofUnits [] clashing).resolve none).2 = none →
      NamedAll [] (ofUnits [] clashing) ((ofUnits [] clashing).resolve none).1) := by
  have ordered := ordered_ofUnits [] clashing
  exact ⟨ordered, by decide +kernel, collision_of_resolve ordered none⟩

end PackageTree

end ProtoModules
