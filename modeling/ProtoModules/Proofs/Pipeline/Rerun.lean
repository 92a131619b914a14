import ProtoModules.Proofs.Output.Compare
import ProtoModules.Proofs.Output.Finished
import ProtoModules.Proofs.Pipeline.Footprint

/-! Generating twice. Whatever is on the disk before, once the files have been generated the output
directory holds just the files of the packages, with the root module beside it; from then on
nothing differs, and neither comparing nor generating changes the disk. -/

namespace ProtoModules
open Disk Source Tool

namespace OutputDirectory

/-- The files in the directory are those of the packages, and the one of the root lies beside it. -/
structure Shows (o : OutputDirectory) (files : List EmittedFile) (d : Disk) : Prop where
  inside : ∀ place content,
    (o.path.names <+: place ∧ place ≠ o.path.names ∧ d.get? place = some (.file content)) ↔
      ∃ f ∈ files, f.package ≠ [] ∧ place = (o.target f).names ∧ content = encoded f
  beside : ∃ f ∈ files, f.package = [] ∧
    (o.target f).names = o.path.names.dropLast ++ [o.path.name ++ PackageTree.ending] ∧
    d.get? (o.target f).names = some (.file (encoded f))

variable {o : OutputDirectory} {d : Disk} {t : PackageTree} {options : FileOptions}

theorem Holds.shows (present : o.path.names ≠ []) (named : Path.isName o.path.name = true)
    (ordinary : ¬ Identifier.rawMark <+: o.path.name) (apart : t.Apart)
    (holds : o.Holds ((t.named o.path.name).files options) d) :
    o.Shows ((t.named o.path.name).files options) d := by
  refine ⟨fun place content => ⟨?_, ?_⟩, ?_⟩
  · rintro ⟨⟨rest, rfl⟩, strict, found⟩
    have some : rest ≠ [] := by simpa using strict
    obtain ⟨f, member, same⟩ := List.mem_map.1 (holds.only rest content some found)
    have target := names_target_of_eq present same
    have below : f.package ≠ [] := by
      intro top
      rw [PackageTree.path_eq_of_top named ordinary member top] at same
      exact some (List.cons.inj (congrArg Path.names same)).2.symm
    have written := holds.written f member
    rw [target, found] at written
    exact ⟨f, member, below, target.symm, Entry.file.inj (Option.some.inj written)⟩
  · rintro ⟨f, member, below, rfl, rfl⟩
    obtain ⟨rest, some, path⟩ := PackageTree.path_eq_of_nested named ordinary member below
    rw [names_target_of_eq present path]
    refine ⟨List.prefix_append _ _, by simpa using some, ?_⟩
    rw [← names_target_of_eq present path, holds.written f member]
  · obtain ⟨f, member, top⟩ := (PackageTree.exists_file_iff apart _ options []).2 rfl
    refine ⟨f, member, top, ?_, holds.written f member⟩
    rw [target, PackageTree.path_eq_of_top named ordinary member top, Path.join_of_free _ rfl]
    rfl

end OutputDirectory

namespace Pipeline

variable {tools : Toolchain} {p : Pipeline} {s s' built : Session} {files : List EmittedFile}
  {report : Report}

theorem compare_eq_ok_iff :
    (p.compare files).run s = (.ok report, s') ↔
      p.output.diff s.disk files = .ok report ∧ s' = s := by
  rw [compare]
  constructor
  · intro ran
    obtain ⟨disk, mid, look, compared⟩ := Action.bind_eq_ok_iff.1 ran
    cases look
    split at compared
    · rename_i found
      cases compared
      exact ⟨found, rfl⟩
    · cases compared
  · rintro ⟨found, rfl⟩
    refine Action.bind_eq_ok_iff.2 ⟨s'.disk, s', rfl, ?_⟩
    rw [found]
    rfl

theorem generate_eq_ok_iff :
    (p.generate tools).run s = (.ok report, s') ↔
      ∃ files built, (p.build tools).run s = (.ok files, built) ∧
        p.output.diff built.disk files = .ok report ∧
        (report.isEmpty = true ∧ s' = built ∨
          report.isEmpty = false ∧ ∃ paths left, p.output.write built.disk files = (.ok paths, left) ∧
            s' = { built with disk := left }) := by
  rw [generate]
  constructor
  · intro ran
    obtain ⟨files, built, build, afterBuild⟩ := Action.bind_eq_ok_iff.1 ran
    obtain ⟨found, compared, compare, afterCompare⟩ := Action.bind_eq_ok_iff.1 afterBuild
    obtain ⟨diff, rfl⟩ := compare_eq_ok_iff.1 compare
    refine ⟨files, compared, build, ?_⟩
    split at afterCompare
    · rename_i empty
      cases afterCompare
      exact ⟨diff, .inl ⟨empty, rfl⟩⟩
    · rename_i some
      obtain ⟨disk, looked, look, write⟩ := Action.bind_eq_ok_iff.1 afterCompare
      cases look
      obtain ⟨⟨⟩, set, setDisk, afterWrite⟩ := Action.bind_eq_ok_iff.1 write
      cases setDisk
      split at afterWrite
      · rename_i paths wrote
        cases afterWrite
        exact ⟨diff, .inr ⟨by simpa using some, paths, _, Prod.ext wrote rfl, rfl⟩⟩
      · cases afterWrite
      · cases afterWrite
  · rintro ⟨files, built, build, diff, outcome⟩
    refine Action.bind_eq_ok_iff.2 ⟨files, built, build, ?_⟩
    refine Action.bind_eq_ok_iff.2 ⟨report, built, compare_eq_ok_iff.2 ⟨diff, rfl⟩, ?_⟩
    rcases outcome with ⟨empty, rfl⟩ | ⟨some, paths, left, wrote, rfl⟩
    · rw [if_pos empty]
      rfl
    · rw [if_neg (by simp [some])]
      refine Action.bind_eq_ok_iff.2 ⟨built.disk, built, rfl, ?_⟩
      rw [wrote]
      exact Action.bind_eq_ok_iff.2 ⟨(), _, rfl, rfl⟩

theorem generate_of_same (build : (p.build tools).run s = (.ok files, built))
    (same : p.output.diff built.disk files = .ok {}) :
    (p.generate tools).run s = (.ok {}, built) :=
  generate_eq_ok_iff.2 ⟨files, built, build, same, .inl ⟨rfl, rfl⟩⟩

theorem validate_of_same (build : (p.build tools).run s = (.ok files, built))
    (same : p.output.diff built.disk files = .ok {}) :
    (p.validate tools).run s = (.ok {}, built) := by
  rw [validate]
  refine Action.bind_eq_ok_iff.2 ⟨files, built, build, ?_⟩
  exact Action.bind_eq_ok_iff.2 ⟨{}, built, compare_eq_ok_iff.2 ⟨same, rfl⟩, rfl⟩

theorem files_of_given {us : List GeneratedUnit} {version : Option String}
    (given : p.generator = .given us version) (bare : p.settings.format = false)
    (ran : (p.build tools).run s = (.ok files, built)) :
    ∃ t : PackageTree, t.Apart ∧
      files = (t.named p.output.path.name).files (p.options version) ∧
      ∀ (later : Toolchain) (s : Session), (p.build later).run s = (.ok files, s) := by
  have always := fun later s => @build_given later p s us version given bare
  cases made : p.tree us with
  | error collision =>
    rw [always, made] at ran
    cases ran
  | ok tree =>
    simp only [made] at always
    rw [always] at ran
    cases ran
    obtain ⟨t, apart, rfl⟩ := tree_eq_ok made
    exact ⟨t, apart, rfl, always⟩

theorem isName_output (level : Path.upward ∉ p.output.path.names)
    (present : p.output.path.names ≠ []) : Path.isName p.output.path.name = true := by
  have last := Path.name_mem present
  exact Path.isName_iff.2 ⟨Path.isPart_of_mem_namesOf last, fun up => level (up ▸ last)⟩

theorem diff_of_generate (level : Path.upward ∉ p.output.path.names)
    (present : p.output.path.names ≠ []) (fits : p.output.Fits files) (first : files ≠ [])
    (diff : p.output.diff built.disk files = .ok report)
    (outcome : report.isEmpty = true ∧ s' = built ∨
      report.isEmpty = false ∧ ∃ paths left, p.output.write built.disk files = (.ok paths, left) ∧
        s' = { built with disk := left }) :
    p.output.diff s'.disk files = .ok {} := by
  rcases outcome with ⟨empty, rfl⟩ | ⟨-, paths, left, wrote, rfl⟩
  · rwa [OutputDirectory.isEmpty_iff.1 empty] at diff
  · obtain ⟨f, member⟩ := List.exists_mem_of_ne_nil files first
    exact OutputDirectory.diff_of_write (Path.plain_parse level) present fits member wrote

/-- Units that are given and not formatted, for an output directory without steps up in its path and
without the mark of a raw identifier in its name. Once a run has answered a report, the directory
shows the files of the units, and both comparing and generating again find nothing different and
change nothing. -/
theorem rerun_of_generate {us : List GeneratedUnit} {version : Option String}
    (given : p.generator = .given us version) (bare : p.settings.format = false)
    (level : Path.upward ∉ p.output.path.names) (present : p.output.path.names ≠ [])
    (ordinary : ¬ Identifier.rawMark <+: p.output.path.name)
    (ran : (p.generate tools).run s = (.ok report, s')) :
    ∃ files, (p.build tools).run s = (.ok files, s) ∧ p.output.Shows files s'.disk ∧
      ∀ (later : Toolchain) (commands : List Command),
        (p.validate later).run ⟨s'.disk, commands⟩ = (.ok {}, ⟨s'.disk, commands⟩) ∧
        (p.generate later).run ⟨s'.disk, commands⟩ = (.ok {}, ⟨s'.disk, commands⟩) := by
  obtain ⟨files, built, build, diff, outcome⟩ := generate_eq_ok_iff.1 ran
  obtain ⟨t, apart, rfl, always⟩ := files_of_given given bare build
  have named := isName_output level present
  have fits := OutputDirectory.fits_files (o := p.options version) named ordinary apart
  obtain ⟨f, member, top⟩ := (PackageTree.exists_file_iff apart p.output.path.name
    (p.options version) []).2 rfl
  have same := diff_of_generate level present fits (List.ne_nil_of_mem member) diff outcome
  have plain : p.output.path.Plain := Path.plain_parse level
  have holds := ((OutputDirectory.diff_eq_ok_empty_iff plain present fits.relative).1 same).2
  refine ⟨_, always tools s, holds.shows present named ordinary apart, fun later commands => ?_⟩
  have again := always later ⟨s'.disk, commands⟩
  exact ⟨validate_of_same again same, generate_of_same again same⟩

def littered : Disk :=
  [("out/gone/old.rs", "x"), ("out/foo.rs", "edited")].foldl
    (fun d item => d.store (Path.ofString item.1) (.file item.2.toUTF8)) Disk.empty

theorem stale_littered : (sample "out").output.stale littered (sampleFiles "out") =
    [Path.ofString "out/gone/old.rs"] := by
  have old : ((sample "out").output.existing littered).filter (fun path =>
      !((sampleFiles "out").map (·.path)).contains path) = [Path.ofString "out/gone/old.rs"] := by
    decide +kernel
  rw [OutputDirectory.stale, old, List.mergeSort_singleton]

theorem generate_littered : ∃ report s',
    ((sample "out").generate bareTools).run ⟨littered, []⟩ = (.ok report, s') := by
  let o := (sample "out").output
  let files := sampleFiles "out"
  have plain : o.path.Plain := by decide +kernel
  have free : o.conflict? littered files = none := by decide +kernel
  have wrote : (o.writeFiles littered files).2 = none := by decide +kernel
  obtain ⟨left, replaced⟩ :=
    OutputDirectory.write_of_written plain.proper (Prod.ext rfl wrote) plain.direct free
  have built := build_sample "out" (by decide +kernel) ⟨littered, []⟩
  have compared := OutputDirectory.diff_eq_ok_iff.2 ⟨free, rfl⟩
  refine ⟨_, _, generate_eq_ok_iff.2 ⟨files, _, built, compared, .inr ⟨?_, _, _, replaced, rfl⟩⟩⟩
  rw [stale_littered]
  simp [Report.isEmpty, Report.count]

theorem rerun_of_sample : ∃ report s',
    (sample "out").generator = .given sampleUnits none ∧ (sample "out").settings.format = false ∧
    Path.upward ∉ (sample "out").output.path.names ∧ (sample "out").output.path.names ≠ [] ∧
    ¬ Identifier.rawMark <+: (sample "out").output.path.name ∧
    ((sample "out").generate bareTools).run ⟨littered, []⟩ = (.ok report, s') ∧
    ∃ files, ((sample "out").build bareTools).run ⟨littered, []⟩ = (.ok files, ⟨littered, []⟩) ∧
      (sample "out").output.Shows files s'.disk ∧
      ∀ (later : Toolchain) (commands : List Command),
        ((sample "out").validate later).run ⟨s'.disk, commands⟩ =
          (.ok {}, ⟨s'.disk, commands⟩) ∧
        ((sample "out").generate later).run ⟨s'.disk, commands⟩ =
          (.ok {}, ⟨s'.disk, commands⟩) := by
  have level : Path.upward ∉ (sample "out").output.path.names := by decide +kernel
  have present : (sample "out").output.path.names ≠ [] := by decide +kernel
  have ordinary : ¬ Identifier.rawMark <+: (sample "out").output.path.name := by decide +kernel
  obtain ⟨report, s', ran⟩ := generate_littered
  exact ⟨report, s', rfl, rfl, level, present, ordinary, ran,
    rerun_of_generate rfl rfl level present ordinary ran⟩

end Pipeline

end ProtoModules
