import ProtoModules.Proofs.PackageTree.FilePaths

/-! Files below any root. A root without a stem, or with a single dot for one, is dropped from the paths of
the files below it, and still no path is the beginning of another one; the paths go up nowhere
unless the stem is the step up itself. -/

namespace ProtoModules.PackageTree
open Source Disk
open Identifier (stem IsStem)

variable {r name : List Char} {t : PackageTree} {o : FileOptions} {f g : EmittedFile}

theorem isPart_or_dropped (whole : '/' ∉ r) :
    Path.IsPart r ∨ Path.namesOf r = [] ∧ (r = [] ∨ r = ['.']) := by
  by_cases none : r = []
  · exact .inr ⟨by rw [none]; decide, .inl none⟩
  · by_cases dot : r = ['.']
    · exact .inr ⟨by rw [dot]; decide, .inr dot⟩
    · exact .inl ⟨none, dot, whole⟩

section whole

variable (whole : '/' ∉ Identifier.fileStem name)

include whole

theorem path_eq_root (member : f ∈ (t.named name).files o) (top : f.package = []) :
    f.path = ⟨[], fileNames [Identifier.fileStem name]⟩ := by
  rw [path_of_mem_files member, top, List.map_nil, filePath_singleton,
    (isPart_append_ending whole).parse]
  rfl

theorem path_eq_below (member : f ∈ (t.named name).files o) (nested : f.package ≠ []) :
    f.path = ⟨[], Path.namesOf (Identifier.fileStem name) ++ fileNames (f.package.map stem)⟩ := by
  have present : f.package.map stem ≠ [] := by simpa using nested
  rw [path_of_mem_files member, filePath_cons _ present isStem_of_mem_map_stem,
    Path.parse_of_notMem whole]

theorem relative_of_level (level : Identifier.fileStem name ≠ Path.upward)
    (member : f ∈ (t.named name).files o) : f.path.Relative := by
  by_cases top : f.package = []
  · rw [path_eq_root whole member top]
    refine ⟨rfl, fun s listed => ?_⟩
    rw [List.mem_singleton.1 listed]
    exact isName_append_ending whole
  · rw [path_eq_below whole member top]
    refine ⟨rfl, fun s listed => ?_⟩
    rcases List.mem_append.1 listed with root | below
    · rcases isPart_or_dropped whole with part | ⟨none, -⟩
      · rw [part.namesOf_eq, List.mem_singleton] at root
        rw [root]
        exact Path.isName_iff.2 ⟨part, level⟩
      · simp [none] at root
    · refine forall_mem_fileNames (P := fun s => Path.isName s = true) ?_ ?_ s below
      · exact fun s listed => isName_of_isStem (isStem_of_mem_map_stem s listed)
      · exact fun s listed =>
          isName_append_ending (isPart_of_isStem (isStem_of_mem_map_stem s listed)).whole

omit whole in
theorem fileNames_root_apart (dropped : r = [] ∨ r = ['.']) {stems : List (List Char)}
    (present : stems ≠ []) (good : ∀ s ∈ stems, IsStem s) :
    ¬ fileNames [r] <+: fileNames stems ∧ ¬ fileNames stems <+: fileNames [r] := by
  obtain ⟨s, rest, rfl⟩ := List.exists_cons_of_ne_nil present
  have own : IsStem s := good s List.mem_cons_self
  have differ : r ≠ s := by
    rintro rfl
    rcases dropped with none | dot
    · exact own.present none
    · exact dot_notMem_of_isStem own (by simp [dot])
  constructor
  · intro begins
    rcases fileNames_prefix_cases begins with ⟨same, -⟩ | file
    · exact differ same
    · exact ne_append_ending (dot_notMem_of_isStem own) file
  · intro begins
    rcases fileNames_prefix_cases begins with ⟨same, -⟩ | file
    · exact differ same.symm
    · rcases dropped with rfl | rfl
      · simp [ending] at file
      · have long := congrArg List.length file
        simp [ending] at long

theorem eq_of_begin_of_whole (apart : t.Apart) (first : f ∈ (t.named name).files o)
    (second : g ∈ (t.named name).files o) (begins : f.path.names <+: g.path.names) : f = g := by
  rcases isPart_or_dropped whole with part | ⟨none, dropped⟩
  · exact eq_of_path_begin apart part first second begins
  · have packages : ∀ f : EmittedFile, f.package ≠ [] → f.package.map stem ≠ [] := by
      intro f nested
      simpa using nested
    by_cases top : f.package = []
    · by_cases top' : g.package = []
      · exact eq_of_stems apart first second (by rw [top, top'])
      · rw [path_eq_root whole first top, path_eq_below whole second top', none] at begins
        exact absurd begins
          (fileNames_root_apart dropped (packages g top') isStem_of_mem_map_stem).1
    · by_cases top' : g.package = []
      · rw [path_eq_below whole first top, path_eq_root whole second top', none] at begins
        exact absurd begins
          (fileNames_root_apart dropped (packages f top) isStem_of_mem_map_stem).2
      · rw [path_eq_below whole first top, path_eq_below whole second top', none] at begins
        refine eq_of_stems apart first second (eq_of_fileNames_begin (packages f top) ?_ begins)
        exact fun s listed => dot_notMem_of_isStem (isStem_of_mem_map_stem s listed)

end whole

end ProtoModules.PackageTree
