import ProtoModules.Pipeline
import ProtoModules.Proofs.Output.Replace
import ProtoModules.Proofs.PackageTree.FilePaths
import ProtoModules.Proofs.Tool.Action

/-! Where the files of a build lie. They are all in the output directory, but for the root module beside
it, if the directory is called by its own name in the tree; a name with the mark of a raw
identifier is not, and then the files go to a directory without the mark. -/

namespace ProtoModules
open Disk Source Tool

namespace PackageTree
open Identifier (stem)

variable {t : PackageTree} {name : List Char} {o : FileOptions} {f : EmittedFile}
  (named : Path.isName name = true) (ordinary : ¬ Identifier.rawMark <+: name)

include named ordinary

theorem isPart_of_ordinary : Path.IsPart (Identifier.fileStem name) := by
  rw [Identifier.fileStem_of_ordinary ordinary]
  exact Path.isPart_of_isName named

theorem path_eq_of_ordinary (member : f ∈ (t.named name).files o) :
    f.path = ⟨[], fileNames (name :: f.package.map stem)⟩ := by
  rw [path_eq (isPart_of_ordinary named ordinary) member, Identifier.fileStem_of_ordinary ordinary]

theorem path_eq_of_top (member : f ∈ (t.named name).files o) (top : f.package = []) :
    f.path = ⟨[], [name ++ ending]⟩ := by
  rw [path_eq_of_ordinary named ordinary member, top]
  rfl

theorem path_eq_of_nested (member : f ∈ (t.named name).files o) (nested : f.package ≠ []) :
    ∃ rest, rest ≠ [] ∧ f.path = ⟨[], name :: rest⟩ := by
  have present : f.package.map stem ≠ [] := by simpa using nested
  refine ⟨fileNames (f.package.map stem), fun none => ?_, ?_⟩
  · have length := congrArg List.length none
    rw [length_fileNames] at length
    exact present (List.length_eq_zero_iff.1 length)
  · rw [path_eq_of_ordinary named ordinary member, fileNames_cons _ present]

theorem relative_path (member : f ∈ (t.named name).files o) : f.path.Relative := by
  rw [path_eq_of_ordinary named ordinary member]
  have names : ∀ s ∈ name :: f.package.map stem, Path.isName s = true :=
    List.forall_mem_cons.2
      ⟨named, fun s listed => isName_of_isStem (isStem_of_mem_map_stem s listed)⟩
  exact ⟨rfl, forall_mem_fileNames names fun s listed =>
    isName_append_ending (Path.isPart_of_isName (names s listed)).whole⟩

end PackageTree

namespace OutputDirectory
open PackageTree

variable {d : OutputDirectory} {t : PackageTree} {o : FileOptions} {f : EmittedFile}

theorem fits_files (named : Path.isName d.path.name = true)
    (ordinary : ¬ Identifier.rawMark <+: d.path.name) (apart : t.Apart) :
    d.Fits ((t.named d.path.name).files o) where
  relative f member := relative_path named ordinary member
  inside f member := by
    by_cases top : f.package = []
    · exact .inl (path_eq_of_top named ordinary member top)
    · exact .inr (path_eq_of_nested named ordinary member top)
  distinct := nodup_paths apart
  apart f first g second begins := by
    rw [eq_of_path_begin apart (isPart_of_ordinary named ordinary) first second begins]

theorem not_inFootprint_of_raw {w : List Char} (raw : d.path.name = Identifier.rawMark ++ w)
    (named : Path.isName d.path.name = true) (member : f ∈ (t.named d.path.name).files o)
    (top : f.package = []) : ¬ d.InFootprint f.path := by
  have whole : '/' ∉ w := fun within =>
    (Path.isPart_of_isName named).whole (raw ▸ List.mem_append_right _ within)
  rw [path_of_mem_files member, top, raw, Identifier.fileStem_rawMark, List.map_nil,
    filePath_singleton, (isPart_append_ending whole).parse, InFootprint, raw]
  rintro (same | ⟨rest, some, same⟩)
  · have lengths := congrArg (fun p : Path => (p.names.map List.length).sum) same
    simp [Identifier.rawMark] at lengths
    omega
  · have none := (List.cons.inj (congrArg Path.names same)).2
    exact some none.symm

end OutputDirectory

namespace Tool.Formatter

theorem path_formatFiles {tools : Toolchain} {f : Formatter} {files out : List EmittedFile}
    {s s' : Session} (ran : (f.formatFiles tools files).run s = (.ok out, s')) :
    out.map (·.path) = files.map (·.path) := by
  induction files generalizing s out with
  | nil =>
    cases ran
    rfl
  | cons file rest ih =>
    rw [formatFiles, List.mapM_cons] at ran
    obtain ⟨first, mid, wrote, ran⟩ := Action.bind_eq_ok_iff.1 ran
    obtain ⟨later, last, ranRest, ended⟩ := Action.bind_eq_ok_iff.1 ran
    obtain ⟨text, between, -, kept⟩ := Action.bind_eq_ok_iff.1 wrote
    cases kept
    cases ended
    rw [List.map_cons, List.map_cons, ih ranRest]

end Tool.Formatter

namespace Pipeline

variable {tools : Toolchain} {p : Pipeline} {s s' : Session} {files : List EmittedFile}

def unitTree (p : Pipeline) (us : List GeneratedUnit) : PackageTree :=
  PackageTree.ofUnits [] (us.map (GeneratedUnit.sanitize p.patterns))

theorem tree_eq_named {us : List GeneratedUnit} {tree : PackageTree} (made : p.tree us = .ok tree) :
    ((p.unitTree us).resolve (some p.output.path.name)).2 = none ∧
      tree = (p.unitTree us).named p.output.path.name := by
  rw [Pipeline.tree] at made
  split at made
  · rename_i named free
    have whole := PackageTree.resolve_eq (congrArg Prod.snd free)
    rw [free] at whole
    refine ⟨congrArg Prod.snd free, ?_⟩
    rw [← Except.ok.inj made, PackageTree.named]
    exact whole
  · cases made

theorem tree_eq_ok {us : List GeneratedUnit} {tree : PackageTree} (made : p.tree us = .ok tree) :
    ∃ t : PackageTree, t.Apart ∧ tree = t.named p.output.path.name :=
  have ⟨free, same⟩ := tree_eq_named made
  ⟨_, PackageTree.apart_of_resolve free, same⟩

theorem exists_tree_of_build (ran : (p.build tools).run s = (.ok files, s')) :
    ∃ (t : PackageTree) (o : FileOptions), t.Apart ∧
      files.map (·.path) = ((t.named p.output.path.name).files o).map (·.path) := by
  rw [build] at ran
  obtain ⟨us, mid, -, ran⟩ := Action.bind_eq_ok_iff.1 ran
  split at ran
  · cases ran
  · rename_i tree made
    obtain ⟨t, apart, rfl⟩ := tree_eq_ok made
    obtain ⟨version, between, -, ran⟩ := Action.bind_eq_ok_iff.1 ran
    refine ⟨t, p.options version, apart, ?_⟩
    split at ran
    · exact Formatter.path_formatFiles ran
    · cases ran
      rfl

theorem build_given {us : List GeneratedUnit} {version : Option String}
    (given : p.generator = .given us version) (bare : p.settings.format = false) :
    (p.build tools).run s = (match p.tree us with
      | .ok tree => .ok (tree.files (p.options version))
      | .error collision => .error (.error (.ofCollision collision)), s) := by
  have units : p.units tools = pure us := by rw [Pipeline.units, given]
  have version : p.generatorVersion tools = pure version := by rw [generatorVersion, given]
  have unformatted : p.formatter = none := by rw [formatter, bare]; rfl
  rw [build, units, version, unformatted, Action.bind_run, Action.pure_run]
  dsimp only
  cases p.tree us <;> rfl

/-- The files of a build all lie in the output directory or are the root module beside it, exactly if
the name of the directory does not have the mark of a raw identifier. -/
theorem inFootprint_of_build_iff (named : Path.isName p.output.path.name = true)
    (ran : (p.build tools).run s = (.ok files, s')) :
    (∀ f ∈ files, p.output.InFootprint f.path) ↔ ¬ Identifier.rawMark <+: p.output.path.name := by
  obtain ⟨t, o, apart, places⟩ := exists_tree_of_build ran
  have same : (∀ f ∈ files, p.output.InFootprint f.path) ↔
      ∀ f ∈ (t.named p.output.path.name).files o, p.output.InFootprint f.path := by
    simpa using congrArg (fun paths => ∀ path ∈ paths, p.output.InFootprint path) places
  rw [same]
  constructor
  · rintro inside ⟨w, raw⟩
    obtain ⟨f, member, top⟩ := (PackageTree.exists_file_iff apart _ o []).2 rfl
    exact OutputDirectory.not_inFootprint_of_raw raw.symm named member top (inside f member)
  · exact fun ordinary => (OutputDirectory.fits_files named ordinary apart).inside

def sampleUnits : List GeneratedUnit := [⟨[['f', 'o', 'o']], ['a', '\n'], [], ""⟩]

def sample (name : String) : Pipeline where
  settings := { workspaces := [] }
  workspace := { protoFiles := [], outputDir := name }
  generator := .given sampleUnits none
  scratch := Path.working

def bareTools : Toolchain where
  compile _ _ := ⟨.notStarted "", []⟩
  version _ := .notStarted ""
  format _ _ := .notStarted ""

def sampleFiles (name : String) : List EmittedFile :=
  match (sample name).tree sampleUnits with
  | .ok tree => tree.files ((sample name).options none)
  | .error _ => []

theorem build_sample (name : String) (free : ((sample name).tree sampleUnits).isOk = true)
    (s : Session) : ((sample name).build bareTools).run s = (.ok (sampleFiles name), s) := by
  rw [build_given rfl rfl, sampleFiles]
  cases made : (sample name).tree sampleUnits with
  | ok tree => rfl
  | error collision =>
    rw [made] at free
    cases free

theorem inFootprint_of_sample :
    Path.isName (sample "out").output.path.name = true ∧
    ((sample "out").build bareTools).run ⟨Disk.empty, []⟩ =
      (.ok (sampleFiles "out"), ⟨Disk.empty, []⟩) ∧
    ((∀ f ∈ sampleFiles "out", (sample "out").output.InFootprint f.path) ↔
      ¬ Identifier.rawMark <+: (sample "out").output.path.name) := by
  have named : Path.isName (sample "out").output.path.name = true := by decide +kernel
  have ran := build_sample "out" (by decide +kernel) ⟨Disk.empty, []⟩
  exact ⟨named, ran, inFootprint_of_build_iff named ran⟩

theorem not_inFootprint_of_raw_directory :
    ¬ ∀ (tools : Toolchain) (p : Pipeline) (s s' : Session) (files : List EmittedFile),
      Path.isName p.output.path.name = true → (p.build tools).run s = (.ok files, s') →
      ∀ f ∈ files, p.output.InFootprint f.path := by
  intro inside
  have named : Path.isName (sample "r#gen").output.path.name = true := by decide +kernel
  have ran := build_sample "r#gen" (by decide +kernel) ⟨Disk.empty, []⟩
  have aside : (sampleFiles "r#gen").any (fun f =>
      f.path = ⟨[], [['g', 'e', 'n', '.', 'r', 's']]⟩) = true := by decide +kernel
  have called : (sample "r#gen").output.path.name = ['r', '#', 'g', 'e', 'n'] := by decide +kernel
  obtain ⟨f, member, path⟩ := List.any_eq_true.1 aside
  have within := inside _ _ _ _ _ named ran f member
  rw [of_decide_eq_true path, OutputDirectory.InFootprint, called] at within
  rcases within with same | ⟨rest, some, same⟩
  · simp [PackageTree.ending] at same
  · simp at same

end Pipeline

end ProtoModules
