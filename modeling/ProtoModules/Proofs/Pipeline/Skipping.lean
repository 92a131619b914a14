import ProtoModules.Proofs.Output.Standing
import ProtoModules.Proofs.Pipeline.Rerun
import ProtoModules.Proofs.Tool.Detached

/-! Writing that is skipped. A run writes nothing if nothing differs; the disk is then as it would be
after writing, except that directories below the output directory that no file lies in are still
there. -/

namespace ProtoModules.Pipeline
open Disk Source Tool ProtoModules.Action

variable {tools : Toolchain} {p : Pipeline} {s s' built : Session} {files : List EmittedFile}
  {report : Report}

theorem detached_build (tools : Toolchain) {us : List GeneratedUnit} {version : Option String}
    (given : p.generator = .given us version) : Detached (p.build tools) := by
  have units : p.units tools = pure us := by rw [Pipeline.units, given]
  have version : p.generatorVersion tools = pure version := by rw [generatorVersion, given]
  rw [build, units, version]
  apply (detached_pure us).bind
  intro us
  split
  · exact detached_report _
  · apply (detached_pure _).bind
    intro version
    dsimp only
    split
    · exact Formatter.detached_formatFiles tools _ _
    · exact detached_pure _

theorem disk_of_build {us : List GeneratedUnit} {version : Option String}
    (given : p.generator = .given us version) (ran : (p.build tools).run s = (.ok files, built)) :
    built.disk = s.disk := by
  obtain ⟨result, commands, always⟩ := detached_build tools given
  rw [always] at ran
  cases ran
  rfl

/-- Whatever the disk is, a run that answers a report leaves in every place what writing the files of
its build would leave. If nothing differs, places below the output directory are excepted where
there is a directory that no file lies in: the run leaves it and writing would not. The path of
the output directory may not lead through such places then, as writing would take away its way. -/
theorem tree_of_generate (direct : report = {} → p.output.path.Direct)
    (ran : (p.generate tools).run s = (.ok report, s')) :
    ∃ files built paths left, (p.build tools).run s = (.ok files, built) ∧
      (∀ us version, p.generator = .given us version → built.disk = s.disk) ∧
      p.output.write built.disk files = (.ok paths, left) ∧
      (∀ q, ¬ (report = {} ∧ p.output.IsLeftover s'.disk q) → s'.disk.get? q = left.get? q) ∧
      ∀ q, report = {} ∧ p.output.IsLeftover s'.disk q →
        s'.disk.get? q = some .directory ∧ left.get? q = none := by
  obtain ⟨files, built, build, diff, outcome⟩ := generate_eq_ok_iff.1 ran
  have still := fun us version (given : p.generator = .given us version) =>
    disk_of_build given build
  rcases outcome with ⟨empty, rfl⟩ | ⟨some, paths, left, wrote, rfl⟩
  · rw [OutputDirectory.isEmpty_iff] at empty
    subst empty
    obtain ⟨paths, left, wrote, gone, kept⟩ := OutputDirectory.write_of_same (direct rfl) diff
    refine ⟨files, _, paths, left, build, still, wrote, fun q used => ?_, fun q leftover => ?_⟩
    · exact (kept q fun leftover => used ⟨rfl, leftover⟩).symm
    · obtain ⟨-, out, found, hollow⟩ := leftover
      exact ⟨(isHollow_iff.1 hollow).2.2.1, gone q ⟨out, found, hollow⟩⟩
  · have differs : report ≠ {} := by
      rintro rfl
      cases some
    exact ⟨files, built, paths, left, build, still, wrote, fun q _ => rfl,
      fun q leftover => absurd leftover.1 differs⟩

def settled : Disk :=
  ((sampleFiles "out").foldl
    (fun d f => d.store ((sample "out").output.target f) (.file (OutputDirectory.encoded f)))
    Disk.empty).store (Path.ofString "out/old") .directory

theorem diff_settled : (sample "out").output.diff settled (sampleFiles "out") = .ok {} := by
  let o := (sample "out").output
  let files := sampleFiles "out"
  have free : o.conflict? settled files = none := by decide +kernel
  have added : (files.filter fun f => !settled.hasEntry (o.target f)) = [] := by decide +kernel
  have changed : ((files.filter fun f => settled.hasEntry (o.target f)).filter
      (o.isChanged settled)) = [] := by decide +kernel
  have old : ((o.existing settled).filter fun path => !(files.map (·.path)).contains path) = [] := by
    decide +kernel
  have stale : o.stale settled files = [] := by rw [OutputDirectory.stale, old, List.mergeSort_nil]
  refine OutputDirectory.diff_eq_ok_iff.2 ⟨free, ?_⟩
  rw [added, changed, stale]
  rfl

theorem generate_settled :
    ((sample "out").generate bareTools).run ⟨settled, []⟩ = (.ok {}, ⟨settled, []⟩) :=
  generate_of_same (build_sample "out" (by decide +kernel) _) diff_settled

theorem direct_sample : (sample "out").output.path.Direct := by decide +kernel

theorem tree_of_settled :
    (({} : Report) = {} → (sample "out").output.path.Direct) ∧
    ((sample "out").generate bareTools).run ⟨settled, []⟩ = (.ok {}, ⟨settled, []⟩) ∧
    ∃ files built paths left,
      ((sample "out").build bareTools).run ⟨settled, []⟩ = (.ok files, built) ∧
      (∀ us version, (sample "out").generator = .given us version → built.disk = settled) ∧
      (sample "out").output.write built.disk files = (.ok paths, left) ∧
      (∀ q, ¬ (({} : Report) = {} ∧ (sample "out").output.IsLeftover settled q) →
        settled.get? q = left.get? q) ∧
      ∀ q, ({} : Report) = {} ∧ (sample "out").output.IsLeftover settled q →
        settled.get? q = some .directory ∧ left.get? q = none :=
  ⟨fun _ => direct_sample, generate_settled, tree_of_generate (fun _ => direct_sample) generate_settled⟩

theorem not_tree_of_leftover :
    ¬ ∀ (tools : Toolchain) (p : Pipeline) (us : List GeneratedUnit) (version : Option String)
      (s s' built : Session) (files : List EmittedFile) (report : Report),
      p.generator = .given us version → (p.generate tools).run s = (.ok report, s') →
      (p.build tools).run s = (.ok files, built) →
      ∀ q, s'.disk.get? q = (p.output.write s.disk files).2.get? q := by
  intro unobservable
  let old : Place := [['o', 'u', 't'], ['o', 'l', 'd']]
  have out : settled.locate (sample "out").output.path = .ok [['o', 'u', 't']] := by decide +kernel
  have hollow : settled.isHollow [['o', 'u', 't']] old = true := by decide +kernel
  have here : settled.get? old = some .directory := by decide +kernel
  obtain ⟨paths, left, wrote, gone, -⟩ := OutputDirectory.write_of_same direct_sample diff_settled
  have built := build_sample "out" (by decide +kernel) ⟨settled, []⟩
  have same := unobservable bareTools (sample "out") sampleUnits none _ _ _ _ _ rfl generate_settled
    built old
  rw [wrote, here, gone old ⟨_, out, hollow⟩] at same
  cases same

end ProtoModules.Pipeline
