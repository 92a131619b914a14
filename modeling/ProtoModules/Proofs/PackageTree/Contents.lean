import ProtoModules.Proofs.PackageTree.Naming

/-! What the files of some units hold. There is one file for every package that a unit lies in or below,
and it ends with the texts of just the units of its package, in the order they came; before them
stand the header, the lines of the root module, and the declarations of the nested packages. -/

namespace ProtoModules.PackageTree
open Source

def textsOf (us : List GeneratedUnit) (p : List Segment) : List Char :=
  (us.filter fun u => u.package = p).flatMap fun u => withFinalNewline u.source

structure Lead (o : FileOptions) (us : List GeneratedUnit) (p : List Segment) where
  nested : List Segment
  names : List (List Char)
  gap : List Char
  once : nested.Nodup
  mem_nested (s : Segment) : s ∈ nested ↔ ∃ u ∈ us, p ++ [s] <+: u.package
  named : names.Perm (nested.map Identifier.ofSegment)
  short : gap = [] ∨ gap = ['\n']

namespace Lead

variable {o : FileOptions} {us : List GeneratedUnit} {p : List Segment}

def text (lead : Lead o us p) : List Char :=
  o.headerText ++ (if p = [] then lintAllowances ++ o.attributeText else [])
    ++ lead.names.flatMap declaration ++ lead.gap

end Lead

variable {o : FileOptions} {us : List GeneratedUnit} {p : List Segment} {t n : PackageTree}

theorem covers_append_singleton (us : List GeneratedUnit) (p : List Segment) (s : Segment) :
    Covers us (p ++ [s]) ↔ ∃ u ∈ us, p ++ [s] <+: u.package := by
  simp [Covers]

theorem identifierOrEmpty_spelledChild (c : PackageTree) :
    (spelledChild c).identifierOrEmpty = Identifier.ofSegment c.segment := by
  rw [identifierOrEmpty, identifier_spelledChild, Option.getD_some]

theorem map_identifierOrEmpty (cs : List PackageTree) :
    (cs.map spelledChild).map identifierOrEmpty = (cs.map segment).map Identifier.ofSegment := by
  induction cs with
  | nil => rfl
  | cons c rest ih =>
    simp only [List.map_cons, identifierOrEmpty_spelledChild]
    rw [ih]

theorem declaredNames_named (identifier : List Char) (n : PackageTree) :
    (n.named identifier).declaredNames.Perm
      ((n.children.map segment).map Identifier.ofSegment) := by
  rw [declaredNames, children_named, map_identifierOrEmpty]
  exact List.mergeSort_perm _ _

def leadOf {root : Segment} (found : (ofUnits root us).get? p = some n) (o : FileOptions)
    (identifier gap : List Char) (short : gap = [] ∨ gap = ['\n']) : Lead o us p where
  nested := n.children.map segment
  names := (n.named identifier).declaredNames
  gap := gap
  once := by
    have siblings := ((ordered_ofUnits root us).get? found).siblings
    rw [List.nodup_iff_pairwise_ne]
    exact siblings.imp ne_of_lt
  mem_nested s := by
    rw [mem_segments_iff found, isSome_get?_ofUnits, covers_append_singleton]
  named := declaredNames_named identifier n
  short := short

theorem unitText_named {root : Segment} (found : (ofUnits root us).get? p = some n)
    (identifier : List Char) : (n.named identifier).unitText = textsOf us p := by
  rw [unitText, units_named, ← unitsAt_of_get? found, unitsAt_ofUnits, textsOf]

theorem textAt_named {root : Segment} (found : (ofUnits root us).get? p = some n)
    (o : FileOptions) (identifier : List Char) :
    ∃ lead : Lead o us p, (n.named identifier).textAt o p = lead.text ++ textsOf us p := by
  have texts := unitText_named found identifier
  by_cases top : p = []
  · subst top
    refine ⟨leadOf found o identifier
      (if (n.named identifier).unitText.isEmpty then [] else ['\n']) (by split <;> simp), ?_⟩
    simp [textAt, rootText, Lead.text, leadOf, texts, declarations]
  · refine ⟨leadOf found o identifier
      (if (n.named identifier).declarations.isEmpty || (n.named identifier).unitText.isEmpty
        then [] else ['\n']) (by split <;> simp), ?_⟩
    simp [textAt, moduleText, Lead.text, leadOf, texts, declarations, top]

theorem mem_nodesAt_named (root : Segment) (us : List GeneratedUnit) (name : List Char)
    (p : List Segment) :
    p ∈ (nodesAt [] ((ofUnits root us).named name)).map Prod.fst ↔ Covers us p := by
  have ordered : ((ofUnits root us).named name).Ordered := ordered_named (ordered_ofUnits root us)
  obtain ⟨identifier, same⟩ := get?_named p name (ofUnits root us)
  rw [← isSome_get?_ofUnits root us p, Option.isSome_iff_exists, List.mem_map]
  constructor
  · rintro ⟨⟨q, n⟩, member, rfl⟩
    obtain ⟨q, rfl, found⟩ := (mem_nodesAt ordered.distinct).1 member
    have here : ((ofUnits root us).get? q).map (named identifier) = some n := same.symm.trans found
    obtain ⟨m, found, -⟩ := Option.map_eq_some_iff.1 here
    exact ⟨m, found⟩
  · rintro ⟨m, found⟩
    rw [found, Option.map_some] at same
    exact ⟨(p, m.named identifier), (mem_nodesAt ordered.distinct).2 ⟨p, rfl, same⟩, rfl⟩

theorem textAt_of_mem_nodesAt_named (o : FileOptions) {root : Segment} {name : List Char}
    {p : List Segment} {n : PackageTree}
    (member : (p, n) ∈ nodesAt [] ((ofUnits root us).named name)) :
    ∃ lead : Lead o us p, n.textAt o p = lead.text ++ textsOf us p := by
  have ordered : ((ofUnits root us).named name).Ordered := ordered_named (ordered_ofUnits root us)
  obtain ⟨p, rfl, found⟩ := (mem_nodesAt ordered.distinct).1 member
  obtain ⟨identifier, same⟩ := get?_named p name (ofUnits root us)
  rw [same, Option.map_eq_some_iff] at found
  obtain ⟨m, found, rfl⟩ := found
  exact textAt_named found o identifier

/-- Units whose packages are named without a collision: every package that a unit lies in or below
has one file, no other has, and the texts of the package are the end of the file. -/
theorem files_of_units (o : FileOptions) {root : Segment} {name : Option (List Char)}
    {us : List GeneratedUnit} (free : ((ofUnits root us).resolve name).2 = none) :
    ∃ fs, ((ofUnits root us).resolve name).1.files? o = .ok fs ∧
      (fs.map (·.package)).Nodup ∧
      (∀ p, p ∈ fs.map (·.package) ↔ Covers us p) ∧
      ∀ f ∈ fs, ∃ lead : Lead o us f.package, f.content = lead.text ++ textsOf us f.package := by
  let identifier := name.getD (ofUnits root us).segment
  let tree := (ofUnits root us).named identifier
  have ordered : tree.Ordered := ordered_named (ordered_ofUnits root us)
  have contents : (tree.files o).map contentOf = (nodesAt [] tree).map (textOf o) :=
    contentOf_files o tree
  have packages : (tree.files o).map (·.package) = (nodesAt [] tree).map Prod.fst := by
    have first := congrArg (List.map Prod.fst) contents
    rw [List.map_map, List.map_map] at first
    exact first
  refine ⟨tree.files o, ?_, ?_, fun p => ?_, fun f member => ?_⟩
  · rw [resolve_eq free, files?, ← named, missingName?_named]
  · rw [packages]
    exact nodup_nodesAt ordered []
  · rw [packages]
    exact mem_nodesAt_named root us identifier p
  · have written : contentOf f ∈ (nodesAt [] tree).map (textOf o) := by
      rw [← contents]
      exact List.mem_map_of_mem member
    obtain ⟨⟨p, n⟩, node, same⟩ := List.mem_map.1 written
    obtain ⟨rfl, text⟩ := Prod.mk.inj same
    rw [← text]
    exact textAt_of_mem_nodesAt_named o node

def sharing : List GeneratedUnit :=
  [⟨[['a'], ['b']], ['x'], [], ""⟩, ⟨[['a']], [], [], ""⟩,
    ⟨[['a'], ['c']], ['y', '\n'], [], ""⟩, ⟨[['a'], ['b']], ['z'], [], ""⟩]

theorem files_of_sharing :
    ((ofUnits ['t'] sharing).resolve none).2 = none ∧
    textsOf sharing [['a'], ['b']] = ['x', '\n', 'z', '\n'] ∧
    ∃ fs, ((ofUnits ['t'] sharing).resolve none).1.files? {} = .ok fs ∧
      (fs.map (·.package)).Nodup ∧
      (∀ p, p ∈ fs.map (·.package) ↔ Covers sharing p) ∧
      ∀ f ∈ fs, ∃ lead : Lead {} sharing f.package,
        f.content = lead.text ++ textsOf sharing f.package := by
  have free : ((ofUnits ['t'] sharing).resolve none).2 = none := by decide +kernel
  exact ⟨free, by decide, files_of_units {} free⟩

end ProtoModules.PackageTree
