import Mathlib.Data.List.Nodup
import ProtoModules.Proofs.Disk.Path
import ProtoModules.Proofs.PackageTree.Siblings

/-! Where the files of a named tree lie. The path of a file is made of the stem of the root and the stems
of the segments of its package, the last one with the ending. Stems hold no dot, so no path is the
beginning of another one, and a segment leads to no place but the one of its own module. -/

namespace ProtoModules.PackageTree
open Source Disk
open Identifier (stem IsStem isStem_stem)

def fileNames : List (List Char) → List Name
  | [] => []
  | [s] => [s ++ ending]
  | s :: next :: rest => s :: fileNames (next :: rest)

def filePath (stems : List (List Char)) : Path := Path.ofTexts (fileNames stems)

theorem fileNames_cons (s : List Char) {rest : List (List Char)} (present : rest ≠ []) :
    fileNames (s :: rest) = s :: fileNames rest := by
  cases rest with
  | nil => exact absurd rfl present
  | cons next rest => rfl

theorem fileNames_concat (above : List (List Char)) (s : List Char) :
    fileNames (above ++ [s]) = above ++ [s ++ ending] := by
  induction above with
  | nil => rfl
  | cons first rest ih => rw [List.cons_append, fileNames_cons first (by simp), ih]; rfl

@[simp] theorem length_fileNames (stems : List (List Char)) :
    (fileNames stems).length = stems.length := by
  induction stems with
  | nil => rfl
  | cons s rest ih =>
    by_cases last : rest = []
    · rw [last]; rfl
    · rw [fileNames_cons s last, List.length_cons, ih, List.length_cons]

theorem dot_notMem_of_isStem {s : List Char} (own : IsStem s) : '.' ∉ s := fun member =>
  absurd (own.spelled _ member) (by decide)

theorem isPart_of_isStem {s : List Char} (own : IsStem s) : Path.IsPart s where
  present := own.present
  noDot := by
    rintro rfl
    exact dot_notMem_of_isStem own List.mem_cons_self
  whole := fun member => absurd (own.spelled _ member) (by decide)

theorem isPart_append_ending {s : List Char} (whole : '/' ∉ s) : Path.IsPart (s ++ ending) where
  present := by simp [ending]
  noDot := by
    intro same
    have long := congrArg List.length same
    simp [ending] at long
  whole := by simp [whole, ending]

theorem isName_of_isStem {s : List Char} (own : IsStem s) : Path.isName s = true := by
  refine Path.isName_iff.2 ⟨isPart_of_isStem own, ?_⟩
  rintro rfl
  exact dot_notMem_of_isStem own List.mem_cons_self

theorem isName_append_ending {s : List Char} (whole : '/' ∉ s) :
    Path.isName (s ++ ending) = true := by
  refine Path.isName_iff.2 ⟨isPart_append_ending whole, fun same => ?_⟩
  have long := congrArg List.length same
  simp [ending, Path.upward] at long

theorem forall_mem_fileNames {P : Name → Prop} {stems : List (List Char)}
    (inner : ∀ s ∈ stems, P s) (last : ∀ s ∈ stems, P (s ++ ending)) :
    ∀ name ∈ fileNames stems, P name := by
  induction stems with
  | nil => simp [fileNames]
  | cons s rest ih =>
    obtain ⟨first, later⟩ := List.forall_mem_cons.1 inner
    by_cases alone : rest = []
    · rw [alone, fileNames]
      simpa using last s List.mem_cons_self
    · rw [fileNames_cons s alone]
      exact List.forall_mem_cons.2
        ⟨first, ih later fun t member => last t (List.mem_cons_of_mem _ member)⟩

theorem isPart_of_mem_fileNames {stems : List (List Char)} (parts : ∀ s ∈ stems, Path.IsPart s) :
    ∀ name ∈ fileNames stems, Path.IsPart name :=
  forall_mem_fileNames parts fun s member => isPart_append_ending (parts s member).whole

theorem filePath_parts {stems : List (List Char)} (parts : ∀ s ∈ stems, Path.IsPart s) :
    filePath stems = ⟨[], fileNames stems⟩ :=
  Path.ofTexts_parts (isPart_of_mem_fileNames parts)

theorem ne_append_ending {s w : List Char} (dotless : '.' ∉ s) : s ≠ w ++ ending := by
  rintro rfl
  exact dotless (by simp [ending])

theorem fileNames_prefix_cases {x y : List Char} {a b : List (List Char)}
    (begins : fileNames (x :: a) <+: fileNames (y :: b)) :
    x = y ∧ (a = [] ∧ b = [] ∨ a ≠ [] ∧ fileNames a <+: fileNames b) ∨ y = x ++ ending := by
  by_cases noA : a = []
  · subst noA
    by_cases noB : b = []
    · subst noB
      exact .inl ⟨by simpa [fileNames] using begins, .inl ⟨rfl, rfl⟩⟩
    · rw [fileNames_cons y noB, fileNames, List.cons_prefix_cons] at begins
      exact .inr begins.1.symm
  · by_cases noB : b = []
    · have short := begins.length_le
      simp [noB] at short
      exact absurd short noA
    · rw [fileNames_cons x noA, fileNames_cons y noB, List.cons_prefix_cons] at begins
      exact .inl ⟨begins.1, .inr ⟨noA, begins.2⟩⟩

theorem eq_of_fileNames_begin {a b : List (List Char)} (present : a ≠ [])
    (dotless : ∀ s ∈ b, '.' ∉ s) (begins : fileNames a <+: fileNames b) : a = b := by
  induction a generalizing b with
  | nil => exact absurd rfl present
  | cons x a ih =>
    cases b with
    | nil =>
      have short := begins.length_le
      simp at short
    | cons y b =>
      obtain ⟨first, later⟩ := List.forall_mem_cons.1 dotless
      rcases fileNames_prefix_cases begins with ⟨rfl, ⟨rfl, rfl⟩ | ⟨some, within⟩⟩ | file
      · rfl
      · rw [ih some later within]
      · exact absurd file (ne_append_ending first)

theorem eq_of_rooted_begin {r : List Char} {a b : List (List Char)}
    (dotless : ∀ s ∈ b, '.' ∉ s) (begins : fileNames (r :: a) <+: fileNames (r :: b)) : a = b := by
  rcases fileNames_prefix_cases begins with ⟨-, ⟨rfl, rfl⟩ | ⟨some, within⟩⟩ | file
  · rfl
  · exact eq_of_fileNames_begin some dotless within
  · simp [ending] at file

theorem filePath_cons (r : List Char) {stems : List (List Char)} (present : stems ≠ [])
    (good : ∀ s ∈ stems, IsStem s) :
    filePath (r :: stems) = ⟨(Path.parse r).root, (Path.parse r).names ++ fileNames stems⟩ := by
  rw [filePath, fileNames_cons r present]
  exact Path.ofTexts_cons r (isPart_of_mem_fileNames fun s member => isPart_of_isStem (good s member))

theorem rootOf_append_ending (r : List Char) : Path.rootOf (r ++ ending) = Path.rootOf r := by
  rcases r with _ | ⟨a, _ | ⟨b, _ | ⟨c, rest⟩⟩⟩
  · rfl
  · by_cases first : a = '/' <;> simp [Path.rootOf, ending, first]
  · by_cases first : a = '/' <;> by_cases second : b = '/' <;>
      simp [Path.rootOf, ending, first, second]
  · by_cases first : a = '/' <;> by_cases second : b = '/' <;> by_cases third : c = '/' <;>
      simp [Path.rootOf, first, second, third]

theorem namesOf_append_ending (r : List Char) :
    ∃ above last, '/' ∉ last ∧ Path.namesOf (r ++ ending) = above ++ [last ++ ending] ∧
      Path.namesOf r = above ++ Path.namesOf last := by
  have clean : '/' ∉ ending := by decide
  obtain ⟨pieces, last, own, longer⟩ := Text.splitOn_append_of_notMem clean r
  have piece : last ∈ Text.splitOn '/' r := by simp [own]
  have whole : '/' ∉ last := Text.separator_notMem_of_mem_splitOn piece
  have part := isPart_append_ending whole
  refine ⟨pieces.filter fun name => !name.isEmpty && name != ['.'], last, whole, ?_, ?_⟩
  · rw [Path.namesOf, longer, List.filter_append]
    simp [part.present, part.noDot]
  · rw [Path.namesOf, Path.namesOf, own, List.filter_append, Text.splitOn_of_notMem whole]

theorem filePath_singleton (r : List Char) : filePath [r] = Path.parse (r ++ ending) :=
  Path.ofTexts_singleton _

theorem filePath_cons_eq (r : List Char) {stems : List (List Char)}
    (good : ∀ s ∈ stems, IsStem s) :
    ∃ above last, '/' ∉ last ∧
      filePath (r :: stems) = ⟨Path.rootOf r, above ++ [last ++ ending]⟩ ∧
      Path.namesOf r ++ stems = above ++ Path.namesOf last := by
  rcases List.eq_nil_or_concat stems with rfl | ⟨front, s, rfl⟩
  · obtain ⟨above, last, whole, longer, own⟩ := namesOf_append_ending r
    refine ⟨above, last, whole, ?_, by rw [List.append_nil, own]⟩
    rw [filePath_singleton, Path.parse, longer, rootOf_append_ending]
  · have part := isPart_of_isStem (good s (by simp))
    refine ⟨Path.namesOf r ++ front, s, part.whole, ?_, by simp [part.namesOf_eq]⟩
    rw [List.concat_eq_append] at good ⊢
    rw [filePath_cons r (by simp) good, fileNames_concat, Path.parse, List.append_assoc]

theorem filePath_root_ne (r : List Char) {stems : List (List Char)} (present : stems ≠ [])
    (good : ∀ s ∈ stems, IsStem s) : filePath [r] ≠ filePath (r :: stems) := by
  rw [filePath_singleton, filePath_cons r present good]
  intro same
  have names := congrArg Path.names same
  obtain ⟨above, last, whole, longer, own⟩ := namesOf_append_ending r
  simp only [Path.parse, longer, own, List.append_assoc, List.append_cancel_left_eq] at names
  have lengths := congrArg List.length names
  have longer := List.length_pos_iff.2 present
  rw [List.length_append, length_fileNames, List.length_singleton] at lengths
  -- Only a last piece that is dropped leaves room for a stem, and that stem would be the piece.
  obtain ⟨s, rfl⟩ := List.length_eq_one_iff.1 (by omega : stems.length = 1)
  have none : Path.namesOf last = [] := List.length_eq_zero_iff.1 (by omega)
  rw [none, List.nil_append, fileNames] at names
  obtain rfl : last = s := List.append_cancel_right (List.singleton_inj.1 names)
  rw [(isPart_of_isStem (good last List.mem_cons_self)).namesOf_eq] at none
  contradiction

theorem filePath_cons_inj {r : List Char} {a b : List (List Char)} (goodA : ∀ s ∈ a, IsStem s)
    (goodB : ∀ s ∈ b, IsStem s) (same : filePath (r :: a) = filePath (r :: b)) : a = b := by
  by_cases noA : a = []
  · by_cases noB : b = []
    · rw [noA, noB]
    · rw [noA] at same
      exact absurd same (filePath_root_ne r noB goodB)
  · by_cases noB : b = []
    · rw [noB] at same
      exact absurd same.symm (filePath_root_ne r noA goodA)
    · rw [filePath_cons r noA goodA, filePath_cons r noB goodB] at same
      have names := List.append_cancel_left (congrArg Path.names same)
      exact eq_of_fileNames_begin noA (fun s member => dot_notMem_of_isStem (goodB s member))
        (names ▸ List.prefix_rfl)

theorem filesEach_eq (o : FileOptions) (above : List (List Char)) (package : List Segment)
    (cs : List PackageTree) :
    filesEach o above package cs = cs.flatMap fun c => filesAt o above package c := by
  induction cs with
  | nil => rfl
  | cons c rest ih => rw [filesEach, ih, List.flatMap_cons]

theorem fileStem_spelledChild (c : PackageTree) : (spelledChild c).fileStem = stem c.segment := by
  rw [fileStem, identifierOrEmpty, identifier_spelledChild, Option.getD_some, stem]

theorem filesAt_eq (o : FileOptions) (above : List (List Char)) (package : List Segment)
    (t : PackageTree) :
    filesAt o above package t =
      ⟨Path.ofTexts (above ++ [t.fileStem ++ ending]), t.moduleText o, package ++ [t.segment]⟩
        :: t.children.flatMap fun c =>
          filesAt o (above ++ [t.fileStem]) (package ++ [t.segment]) c := by
  cases t with
  | node s us i cs => rw [filesAt, filesEach_eq]; rfl

theorem path_of_mem_filesAt {o : FileOptions} {above : List (List Char)} {package : List Segment}
    {c : PackageTree} {f : EmittedFile} (member : f ∈ filesAt o above package (spelledChild c)) :
    ∃ rest, f.package = package ++ c.segment :: rest ∧
      f.path = filePath (above ++ stem c.segment :: rest.map stem) := by
  induction c generalizing above package with
  | node s us i cs ih =>
    rw [filesAt_eq, children_spelledChild, segment_spelledChild, fileStem_spelledChild,
      List.mem_cons, List.mem_flatMap] at member
    rcases member with rfl | ⟨d, child, below⟩
    · exact ⟨[], rfl, by rw [List.map_nil, filePath, fileNames_concat]⟩
    · obtain ⟨c, member, rfl⟩ := List.mem_map.1 child
      obtain ⟨rest, package, path⟩ := ih c member below
      exact ⟨c.segment :: rest, by simp [package], by simp [path]⟩

variable {t : PackageTree} {name : List Char} {o : FileOptions} {f g : EmittedFile}

theorem path_of_mem_files (member : f ∈ (t.named name).files o) :
    f.path = filePath (Identifier.fileStem name :: f.package.map stem) := by
  have own : (t.named name).fileStem = Identifier.fileStem name := by
    cases t; rfl
  rw [files, own, filesEach_eq, children_named, List.mem_cons, List.mem_flatMap] at member
  rcases member with rfl | ⟨d, child, below⟩
  · rfl
  · obtain ⟨c, child, rfl⟩ := List.mem_map.1 child
    obtain ⟨rest, package, path⟩ := path_of_mem_filesAt below
    rw [path, package]
    rfl

theorem mem_files_named (apart : t.Apart) :
    f ∈ (t.named name).files o ↔
      ∃ n, (t.named name).get? f.package = some n ∧ f.content = n.textAt o f.package ∧
        f.path = filePath (Identifier.fileStem name :: f.package.map stem) := by
  have distinct := (apart.named name).distinct
  constructor
  · intro member
    have written : contentOf f ∈ (nodesAt [] (t.named name)).map (textOf o) := by
      rw [← contentOf_files]
      exact List.mem_map_of_mem member
    obtain ⟨⟨p, n⟩, node, same⟩ := List.mem_map.1 written
    obtain ⟨rfl, text⟩ := Prod.mk.inj same
    obtain ⟨p, own, found⟩ := (mem_nodesAt distinct).1 node
    exact ⟨n, own ▸ found, text.symm, path_of_mem_files member⟩
  · rintro ⟨n, found, text, path⟩
    have node : (f.package, n) ∈ nodesAt [] (t.named name) :=
      (mem_nodesAt distinct).2 ⟨f.package, rfl, found⟩
    have written : textOf o (f.package, n) ∈ ((t.named name).files o).map contentOf := by
      rw [contentOf_files]
      exact List.mem_map_of_mem node
    obtain ⟨g, member, same⟩ := List.mem_map.1 written
    obtain ⟨package, content⟩ := Prod.mk.inj same
    have twin : g = f := by
      have place := path_of_mem_files member
      rw [package, ← path] at place
      cases f
      cases g
      simp_all
    exact twin ▸ member

theorem exists_file_iff (apart : t.Apart) (name : List Char) (o : FileOptions)
    (p : List Segment) :
    (∃ f ∈ (t.named name).files o, f.package = p) ↔ (t.get? p).isSome := by
  obtain ⟨identifier, same⟩ := get?_named p name t
  constructor
  · rintro ⟨f, member, rfl⟩
    obtain ⟨m, found, -, -⟩ := (mem_files_named apart).1 member
    rw [same] at found
    exact Option.isSome_map.symm.trans (by rw [found]; rfl)
  · intro present
    obtain ⟨n, found⟩ := Option.isSome_iff_exists.1 present
    rw [found, Option.map_some] at same
    let f : EmittedFile := ⟨filePath (Identifier.fileStem name :: p.map stem),
      (n.named identifier).textAt o p, p⟩
    exact ⟨f, (mem_files_named apart).2 ⟨n.named identifier, same, rfl, rfl⟩, rfl⟩

theorem nodup_stems_files (apart : t.Apart) :
    (((t.named name).files o).map fun f => f.package.map stem).Nodup := by
  have packages : ((t.named name).files o).map (fun f => f.package.map stem) =
      (nodesAt [] (t.named name)).map fun item => item.1.map stem := by
    have first := congrArg (List.map fun item => item.1.map stem) (contentOf_files o (t.named name))
    rw [List.map_map, List.map_map] at first
    exact first
  rw [packages]
  exact (apart.named name).nodup_stems []

theorem eq_of_stems (apart : t.Apart) (first : f ∈ (t.named name).files o)
    (second : g ∈ (t.named name).files o) (same : f.package.map stem = g.package.map stem) :
    f = g :=
  List.inj_on_of_nodup_map (nodup_stems_files apart) first second same

theorem isStem_of_mem_map_stem {p : List Segment} : ∀ s ∈ p.map stem, IsStem s := by
  intro s member
  obtain ⟨segment, -, rfl⟩ := List.mem_map.1 member
  exact isStem_stem segment

theorem eq_of_path (apart : t.Apart) (first : f ∈ (t.named name).files o)
    (second : g ∈ (t.named name).files o) (same : f.path = g.path) : f = g := by
  rw [path_of_mem_files first, path_of_mem_files second] at same
  exact eq_of_stems apart first second
    (filePath_cons_inj isStem_of_mem_map_stem isStem_of_mem_map_stem same)

theorem nodup_paths (apart : t.Apart) : (((t.named name).files o).map (·.path)).Nodup := by
  have once : ((t.named name).files o).Nodup := List.Nodup.of_map _ (nodup_stems_files apart)
  exact once.map_on fun f first g second same => eq_of_path apart first second same

theorem isPart_of_mem_stems {root : List Char} (part : Path.IsPart root) (p : List Segment) :
    ∀ s ∈ root :: p.map stem, Path.IsPart s :=
  List.forall_mem_cons.2 ⟨part, fun s member => isPart_of_isStem (isStem_of_mem_map_stem s member)⟩

theorem path_eq (part : Path.IsPart (Identifier.fileStem name))
    (member : f ∈ (t.named name).files o) :
    f.path = ⟨[], fileNames (Identifier.fileStem name :: f.package.map stem)⟩ := by
  rw [path_of_mem_files member, filePath_parts (isPart_of_mem_stems part _)]

theorem eq_of_path_begin (apart : t.Apart) (part : Path.IsPart (Identifier.fileStem name))
    (first : f ∈ (t.named name).files o) (second : g ∈ (t.named name).files o)
    (begins : f.path.names <+: g.path.names) : f = g := by
  rw [path_eq part first, path_eq part second] at begins
  refine eq_of_stems apart first second (eq_of_rooted_begin (fun s member => ?_) begins)
  exact dot_notMem_of_isStem (isStem_of_mem_map_stem s member)

/-- The files of a tree that is named without a collision, below a root that is one part of a path:
there is one for each package that has a node, no path is a beginning of another one, a path has one
name more than its package has segments, and below the root there are only stems. -/
theorem paths_of_resolve (o : FileOptions) {t : PackageTree} {root : Option (List Char)}
    (free : (t.resolve root).2 = none)
    (part : Path.IsPart (Identifier.fileStem (root.getD t.segment))) :
    ∃ fs, (t.resolve root).1.files? o = .ok fs ∧
      (∀ p, (∃ f ∈ fs, f.package = p) ↔ (t.get? p).isSome) ∧
      (fs.map (·.path)).Nodup ∧
      (∀ f ∈ fs, ∀ g ∈ fs, f.path.names <+: g.path.names → f = g) ∧
      ∀ f ∈ fs, f.path.root = [] ∧ f.path.names.length = f.package.length + 1 ∧
        ∃ below : List (List Char), (∀ s ∈ below, IsStem s) ∧
          f.path.names = fileNames (Identifier.fileStem (root.getD t.segment) :: below) := by
  have apart := apart_of_resolve free
  refine ⟨_, files?_resolve free o, exists_file_iff apart _ o, nodup_paths apart,
    fun f first g second begins => eq_of_path_begin apart part first second begins,
    fun f member => ?_⟩
  rw [path_eq part member]
  exact ⟨rfl, by simp, _, isStem_of_mem_map_stem, rfl⟩

def hostile : List GeneratedUnit :=
  [⟨[['.'], ['/']], ['x'], [], ""⟩, ⟨[['t', 'y', 'p', 'e'], []], ['y'], [], ""⟩,
    ⟨[['a', '/']], ['z'], [], ""⟩]

theorem paths_of_hostile :
    ((ofUnits [] hostile).resolve (some ['g', 'e', 'n'])).2 = none ∧
    Path.IsPart (Identifier.fileStem ['g', 'e', 'n']) ∧
    ∃ fs, ((ofUnits [] hostile).resolve (some ['g', 'e', 'n'])).1.files? {} = .ok fs ∧
      (∀ p, (∃ f ∈ fs, f.package = p) ↔ ((ofUnits [] hostile).get? p).isSome) ∧
      (fs.map (·.path)).Nodup ∧
      (∀ f ∈ fs, ∀ g ∈ fs, f.path.names <+: g.path.names → f = g) ∧
      ∀ f ∈ fs, f.path.root = [] ∧ f.path.names.length = f.package.length + 1 ∧
        ∃ below : List (List Char), (∀ s ∈ below, IsStem s) ∧
          f.path.names = fileNames (Identifier.fileStem ['g', 'e', 'n'] :: below) := by
  have free : ((ofUnits [] hostile).resolve (some ['g', 'e', 'n'])).2 = none := by decide +kernel
  have part : Path.IsPart (Identifier.fileStem ['g', 'e', 'n']) :=
    ⟨by decide, by decide, by decide⟩
  exact ⟨free, part, paths_of_resolve {} free part⟩

theorem not_deeper_of_dot_root :
    ¬ ∀ (o : FileOptions) (t : PackageTree) (root : List Char),
      (t.resolve (some root)).2 = none →
      Identifier.fileStem root ≠ [] → '/' ∉ Identifier.fileStem root →
      ∃ fs, (t.resolve (some root)).1.files? o = .ok fs ∧
        ∀ f ∈ fs, f.path.names.length = f.package.length + 1 := by
  intro deeper
  let foo : PackageTree := ofUnits [] [⟨[['f', 'o', 'o']], ['a', '\n'], [], ""⟩]
  have free : (foo.resolve (some ['.'])).2 = none := by decide +kernel
  obtain ⟨fs, made, lengths⟩ := deeper {} foo ['.'] free (by decide) (by decide)
  rw [files?_resolve free] at made
  obtain rfl := Except.ok.inj made
  have flat : ((foo.named ['.']).files {}).any (fun f =>
      f.path.names.length != f.package.length + 1) = true := by decide +kernel
  obtain ⟨f, member, short⟩ := List.any_eq_true.1 flat
  simp [lengths f member] at short

end ProtoModules.PackageTree
