import ProtoModules.Proofs.Output.Granted
import ProtoModules.Proofs.PackageTree.RootStem
import ProtoModules.Proofs.Pipeline.Rerun
import ProtoModules.Proofs.Tool.Frame

/-! Runs that fail. Up to the comparison nothing is touched but the work directory of the generator, and
once nothing is in the way of the files, all of them are written; so a run that fails has written
none. The exception is an output directory whose name is a step up behind the mark of a raw
identifier. -/

namespace ProtoModules
open Disk Source Tool ProtoModules.Action

namespace Pipeline

variable {tools : Toolchain} {p : Pipeline} {s s' built : Session} {files : List EmittedFile}

/-- The directory that the generator keeps its output in, if there is one. -/
def workDirectory? (p : Pipeline) : Option Path :=
  match p.generator with
  | .protoc g => g.workDir
  | .given _ _ => none

theorem relates_units (contained : tools.Contained) (p : Pipeline) :
    Relates (Spares p.workDirectory?) (p.units tools) := by
  rw [units, workDirectory?]
  cases p.generator with
  | protoc g => exact Protoc.relates_generate contained g _ _ _
  | given us version => exact relates_pure Spares.refl us

theorem relates_generatorVersion (tools : Toolchain) (p : Pipeline) :
    Relates (Spares p.workDirectory?) (p.generatorVersion tools) := by
  rw [generatorVersion]
  cases p.generator with
  | protoc g =>
    apply Relates.bind Spares.trans (Protoc.relates_version Spares.refl Spares.trans tools g)
    exact fun _ => relates_pure Spares.refl _
  | given us version => exact relates_pure Spares.refl version

theorem relates_build (contained : tools.Contained) (p : Pipeline) :
    Relates (Spares p.workDirectory?) (p.build tools) := by
  rw [build]
  apply Relates.bind Spares.trans (relates_units contained p)
  intro us
  split
  · exact relates_report Spares.refl _
  · apply Relates.bind Spares.trans (relates_generatorVersion tools p)
    intro version
    dsimp only
    split
    · exact Formatter.relates_formatFiles Spares.refl Spares.trans tools _ _
    · exact relates_pure Spares.refl _

theorem relates_compare (p : Pipeline) (files : List EmittedFile) :
    Relates (Spares p.workDirectory?) (p.compare files) := by
  rw [compare]
  apply Relates.bind Spares.trans (relates_disk Spares.refl)
  intro d
  split
  · exact relates_pure Spares.refl _
  · exact relates_report Spares.refl _

theorem relates_validate (contained : tools.Contained) (p : Pipeline) :
    Relates (Spares p.workDirectory?) (p.validate tools) := by
  rw [validate]
  apply Relates.bind Spares.trans (relates_build contained p)
  intro files
  apply Relates.bind Spares.trans (relates_compare p files)
  intro report
  split
  · exact relates_pure Spares.refl _
  · exact relates_report Spares.refl _

theorem slash_notMem_name (p : Pipeline) : '/' ∉ p.output.path.name := by
  by_cases present : p.output.path.names = []
  · simp [Path.name, present]
  · exact (Path.isPart_of_mem_namesOf (Path.name_mem present)).whole

theorem slash_notMem_fileStem {name : List Char} (whole : '/' ∉ name) :
    '/' ∉ Identifier.fileStem name := by
  by_cases raw : Identifier.rawMark <+: name
  · obtain ⟨rest, rfl⟩ := raw
    rw [Identifier.fileStem_rawMark]
    exact fun member => whole (List.mem_append_right _ member)
  · rwa [Identifier.fileStem_of_ordinary raw]

theorem sideBySide_of_build (ordinary : Identifier.fileStem p.output.path.name ≠ Path.upward)
    (ran : (p.build tools).run s = (.ok files, s')) :
    OutputDirectory.SideBySide (files.map (·.path)) := by
  obtain ⟨t, o, apart, places⟩ := exists_tree_of_build ran
  have whole := slash_notMem_fileStem p.slash_notMem_name
  rw [places]
  constructor
  · intro path member
    obtain ⟨f, listed, rfl⟩ := List.mem_map.1 member
    exact PackageTree.relative_of_level whole ordinary listed
  · exact PackageTree.nodup_paths apart
  · intro a first b second begins
    obtain ⟨f, listed, rfl⟩ := List.mem_map.1 first
    obtain ⟨g, listed', rfl⟩ := List.mem_map.1 second
    rw [PackageTree.eq_of_begin_of_whole whole apart listed listed' begins]

theorem compare_run (p : Pipeline) (files : List EmittedFile) (s : Session) :
    (p.compare files).run s = (match p.output.diff s.disk files with
      | .ok report => .ok report
      | .error conflict => .error (.error (.ofConflict conflict)), s) := by
  rw [compare, bind_run, disk_run]
  dsimp only
  cases p.output.diff s.disk files <;> rfl

theorem generate_run (build : (p.build tools).run s = (.ok files, built)) :
    (p.generate tools).run s = match p.output.diff built.disk files with
      | .error conflict => (.error (.error (.ofConflict conflict)), built)
      | .ok report =>
        if report.isEmpty then (.ok report, built)
        else
          (match (p.output.write built.disk files).1 with
            | .ok _ => .ok report
            | .error (.conflict conflict) => .error (.error (.ofConflict conflict))
            | .error (.refused e) =>
              .error (.error (.output p.output.path.toString (some e.message))),
            { built with disk := (p.output.write built.disk files).2 }) := by
  rw [generate, bind_run, build]
  dsimp only
  rw [bind_run, compare_run]
  cases p.output.diff built.disk files with
  | error conflict => rfl
  | ok report =>
    dsimp only
    by_cases empty : report.isEmpty = true
    · rw [if_pos empty, if_pos empty, pure_run]
    · rw [if_neg empty, if_neg empty, bind_run, disk_run]
      dsimp only
      rw [bind_run, setDisk_run]
      dsimp only
      cases (p.output.write built.disk files).1 with
      | ok paths => rfl
      | error refusal => cases refusal <;> rfl

theorem disk_of_failed_generate (level : Path.upward ∉ p.output.path.names)
    (ordinary : Identifier.fileStem p.output.path.name ≠ Path.upward)
    (build : (p.build tools).run s = (.ok files, built)) {e : Failure}
    (ran : (p.generate tools).run s = (.error e, s')) : s'.disk = built.disk := by
  have apart := sideBySide_of_build ordinary build
  rw [generate_run build] at ran
  cases compared : p.output.diff built.disk files with
  | error conflict =>
    rw [compared] at ran
    cases ran
    rfl
  | ok report =>
    rw [compared] at ran
    dsimp only at ran
    by_cases empty : report.isEmpty = true
    · rw [if_pos empty] at ran
      cases ran
    · rw [if_neg empty] at ran
      have plain : p.output.path.Plain := Path.plain_parse level
      have free := (OutputDirectory.diff_eq_ok_iff.1 compared).1
      obtain ⟨left, wrote⟩ := OutputDirectory.write_of_free plain apart free
      rw [wrote] at ran
      cases ran

/-- A run that fails, and every comparison, leaves all but the work directory of the generator as it was,
as long as the name of the output directory is no step up behind the mark of a raw identifier. -/
theorem spares_of_failure (contained : tools.Contained) (level : Path.upward ∉ p.output.path.names)
    (ordinary : Identifier.fileStem p.output.path.name ≠ Path.upward) (s : Session) :
    (∀ e s', (p.generate tools).run s = (.error e, s') →
      Spares p.workDirectory? s.disk s'.disk) ∧
    Spares p.workDirectory? s.disk ((p.validate tools).run s).2.disk := by
  refine ⟨fun e s' ran => ?_, relates_validate contained p s⟩
  have kept := relates_build contained p s
  cases build : (p.build tools).run s with
  | mk result built =>
    rw [build] at kept
    cases result with
    | ok files =>
      rw [disk_of_failed_generate level ordinary build ran]
      exact kept
    | error f =>
      rw [generate, bind_run, build] at ran
      cases ran
      exact kept

def blocked : Disk := Disk.empty.store (Path.ofString "out") (.file "x".toUTF8)

theorem spares_of_blocked : ∃ e s',
    bareTools.Contained ∧ Path.upward ∉ (sample "out").output.path.names ∧
    Identifier.fileStem (sample "out").output.path.name ≠ Path.upward ∧
    ((sample "out").generate bareTools).run ⟨blocked, []⟩ = (.error e, s') ∧
    Spares (sample "out").workDirectory? blocked s'.disk ∧
    Spares (sample "out").workDirectory? blocked
      (((sample "out").validate bareTools).run ⟨blocked, []⟩).2.disk := by
  have contained : bareTools.Contained := by
    intro command d item member
    cases member
  have level : Path.upward ∉ (sample "out").output.path.names := by decide +kernel
  have ordinary : Identifier.fileStem (sample "out").output.path.name ≠ Path.upward := by
    decide +kernel
  have built := build_sample "out" (by decide +kernel) ⟨blocked, []⟩
  have standing : ((sample "out").output.conflict? blocked (sampleFiles "out")).isSome = true := by
    decide +kernel
  obtain ⟨conflict, found⟩ := Option.isSome_iff_exists.1 standing
  have ran : ((sample "out").generate bareTools).run ⟨blocked, []⟩ =
      (.error (.error (.ofConflict conflict)), ⟨blocked, []⟩) := by
    rw [generate_run built, OutputDirectory.diff, found]
  obtain ⟨failed, compared⟩ := spares_of_failure contained level ordinary ⟨blocked, []⟩
  exact ⟨_, _, contained, level, ordinary, ran, failed _ _ ran, compared⟩

def crossed : Disk := Disk.empty.store (Path.ofString "foo.rs") .directory

/-- The file of the sample's package is written a level too high, behind the look for conflicts. -/
theorem not_spares_of_upward_stem :
    ¬ ∀ (tools : Toolchain) (p : Pipeline) (s s' : Session) (e : Failure),
      tools.Contained → Path.upward ∉ p.output.path.names →
      (p.generate tools).run s = (.error e, s') → Spares p.workDirectory? s.disk s'.disk := by
  intro spares
  let p := sample "a/r#.."
  let files := sampleFiles "a/r#.."
  have contained : bareTools.Contained := by
    intro command d item member
    cases member
  have level : Path.upward ∉ p.output.path.names := by decide +kernel
  have built := build_sample "a/r#.." (by decide +kernel) ⟨crossed, []⟩
  have free : p.output.conflict? crossed files = none := by decide +kernel
  have new : files.any (fun f => !crossed.hasEntry (p.output.target f)) = true := by decide +kernel
  have refused : (p.output.writeFiles crossed files).2.isSome = true := by decide +kernel
  have left : (p.output.writeFiles crossed files).1.get? [['a']] = some .directory := by
    decide +kernel
  have before : crossed.get? [['a']] = none := by decide +kernel
  obtain ⟨fault, refused⟩ := Option.isSome_iff_exists.1 refused
  have wrote : p.output.write crossed files =
      (.error (.refused fault), (p.output.writeFiles crossed files).1) := by
    rw [OutputDirectory.write, free]
    cases ran : p.output.writeFiles crossed files with
    | mk written refusal =>
      rw [ran] at refused
      subst refused
      rfl
  have ran : ∃ e s', (p.generate bareTools).run ⟨crossed, []⟩ = (.error e, s') ∧
      s'.disk = (p.output.writeFiles crossed files).1 := by
    have some : (files.filter fun f => !crossed.hasEntry (p.output.target f)) ≠ [] := by
      simpa using new
    rw [generate_run built, OutputDirectory.diff_eq_ok_iff.2 ⟨free, rfl⟩]
    dsimp only
    rw [if_neg, wrote]
    · exact ⟨_, _, rfl, rfl⟩
    · intro empty
      have none := congrArg Report.added (OutputDirectory.isEmpty_iff.1 empty)
      exact some (List.map_eq_nil_iff.1 none)
  obtain ⟨e, s', ran, disk⟩ := ran
  -- the first directory has been made when the second file is refused, and it stays
  have same := (spares bareTools p _ s' e contained level ran).get?_eq [['a']]
  rw [disk, left] at same
  exact absurd (same.trans before) (by simp)

end Pipeline

end ProtoModules
