import ProtoModules.Proofs.Tool.Action
import ProtoModules.Tool.Protoc

/-! What a run of the generator comes to. It reports what is missing before anything is run; then the
compiler runs once, and how that run ended, with what it wrote, is all that the result depends on. -/

namespace ProtoModules.Tool
open Disk ProtoModules.Action

namespace Protoc

variable {tools : Toolchain} {g : Protoc} {scratch directory : Path} {files includes : List Path}
  {definitions searched : List String} {s : Session}

/-- What is reported before anything is run: no files, or the first file or directory that is missing. -/
def refusal? (d : Disk) (files includes : List Path) : Option Error :=
  if files.isEmpty then some (.configuration .noDefinitionFiles none none)
  else
    match files.find? fun path => !d.hasFile path with
    | some path => some (.generation .fileNotFound (some path.toString) none)
    | none =>
      match includes.find? fun path => !d.hasDirectory path with
      | some path => some (.generation .includeNotFound (some path.toString) none)
      | none => none

theorem refusal?_eq_none_iff {d : Disk} :
    refusal? d files includes = none ↔ files ≠ [] ∧ (∀ path ∈ files, d.hasFile path = true) ∧
      ∀ path ∈ includes, d.hasDirectory path = true := by
  rw [refusal?]
  by_cases bare : files = []
  · simp [bare]
  · rw [if_neg (by simpa using bare)]
    cases lost : files.find? fun path => !d.hasFile path with
    | some path =>
      have missing := List.find?_some lost
      have member := List.mem_of_find?_eq_some lost
      simp only [reduceCtorEq, false_iff, not_and]
      intro _ there
      simp [there path member] at missing
    | none =>
      have there : ∀ path ∈ files, d.hasFile path = true := by simpa using lost
      cases astray : includes.find? fun path => !d.hasDirectory path with
      | some path =>
        have missing := List.find?_some astray
        have member := List.mem_of_find?_eq_some astray
        simp only [reduceCtorEq, false_iff, not_and]
        intro _ _ there
        simp [there path member] at missing
      | none => exact ⟨fun _ => ⟨bare, there, by simpa using astray⟩, fun _ => rfl⟩

theorem generate_run :
    (g.generate tools scratch definitions searched).run s =
      match refusal? s.disk (Path.sorted (definitions.map Path.ofString))
          (Path.sorted (searched.map Path.ofString)) with
      | some e => (.error (.error e), s)
      | none =>
        (match g.workDir with
          | some directory => g.runIn tools directory (Path.sorted (definitions.map Path.ofString))
              (Path.sorted (searched.map Path.ofString))
          | none => g.runAside tools scratch (Path.sorted (definitions.map Path.ofString))
              (Path.sorted (searched.map Path.ofString))).run s := by
  rw [generate, refusal?]
  dsimp only
  split
  · rfl
  · rw [bind_run, disk_run]
    dsimp only
    cases (Path.sorted (definitions.map Path.ofString)).find? fun path => !s.disk.hasFile path with
    | some path => rfl
    | none =>
      cases (Path.sorted (searched.map Path.ofString)).find? fun path =>
          !s.disk.hasDirectory path with
      | some path => rfl
      | none => cases g.workDir <;> rfl

theorem runAside_run :
    ((g.runAside tools scratch files includes).run s).1 =
      let run := tools.compile (g.command scratch files includes) s.disk
      g.unitsOf files (storeOutputs Disk.empty Path.working run.outputs) Path.working run.exit := by
  rw [runAside, bind_run, record_run]
  dsimp only
  rw [bind_run, disk_run]
  dsimp only
  split
  · rename_i units ran
    exact ran.symm
  · rename_i f ran
    exact ran.symm

theorem runIn_run {ready : Disk} (prepared : prepare s.disk directory = (ready, none)) :
    ((g.runIn tools directory files includes).run s).1 =
      let run := tools.compile (g.command directory files includes) ready
      g.unitsOf files (storeOutputs ready directory run.outputs) directory run.exit := by
  rw [runIn, bind_run, disk_run]
  dsimp only
  rw [prepared, bind_run, setDisk_run]
  dsimp only
  rw [bind_run, record_run]
  dsimp only
  rw [bind_run, setDisk_run]
  dsimp only
  split
  · rename_i units ran
    exact ran.symm
  · rename_i f ran
    exact ran.symm

section ready

variable (ready : refusal? s.disk (Path.sorted (definitions.map Path.ofString))
  (Path.sorted (searched.map Path.ofString)) = none)

include ready

theorem generate_aside (work : g.workDir = none) :
    (g.generate tools scratch definitions searched).run s =
      (g.runAside tools scratch (Path.sorted (definitions.map Path.ofString))
        (Path.sorted (searched.map Path.ofString))).run s := by
  rw [generate_run, ready, work]

theorem generate_in (work : g.workDir = some directory) :
    (g.generate tools scratch definitions searched).run s =
      (g.runIn tools directory (Path.sorted (definitions.map Path.ofString))
        (Path.sorted (searched.map Path.ofString))).run s := by
  rw [generate_run, ready, work]

end ready

def compilation? (tools : Toolchain) (g : Protoc) (scratch : Path) (d : Disk)
    (files includes : List Path) : Option Compilation :=
  match g.workDir with
  | none => some (tools.compile (g.command scratch files includes) d)
  | some directory =>
    match prepare d directory with
    | (ready, none) => some (tools.compile (g.command directory files includes) ready)
    | (_, some _) => none

theorem unitsOf_of_failed {d : Disk} {out : Path} {status : Int} {output errors : String}
    (failed : status ≠ 0) :
    g.unitsOf files d out (.exited status output errors) =
      .error (.error (.generation (.exited g.executable status)
        ((offending? files errors).map Path.toString) (some errors))) := by
  rw [unitsOf, if_neg failed]

theorem generate_of_failed {run : Compilation} {status : Int} {output errors : String}
    (ready : refusal? s.disk (Path.sorted (definitions.map Path.ofString))
      (Path.sorted (searched.map Path.ofString)) = none)
    (ran : g.compilation? tools scratch s.disk (Path.sorted (definitions.map Path.ofString))
      (Path.sorted (searched.map Path.ofString)) = some run)
    (exit : run.exit = .exited status output errors) (failed : status ≠ 0) :
    ((g.generate tools scratch definitions searched).run s).1 =
      .error (.error (.generation (.exited g.executable status)
        ((offending? (Path.sorted (definitions.map Path.ofString)) errors).map Path.toString)
        (some errors))) := by
  rw [compilation?] at ran
  split at ran
  · rename_i work
    obtain rfl := Option.some.inj ran
    rw [generate_aside ready work, runAside_run]
    dsimp only
    rw [exit, unitsOf_of_failed failed]
  · rename_i directory work
    split at ran
    · rename_i made prepared
      obtain rfl := Option.some.inj ran
      rw [generate_in ready work, runIn_run prepared]
      dsimp only
      rw [exit, unitsOf_of_failed failed]
    · cases ran

theorem runIn_refused {left : Disk} {e : DiskError}
    (prepared : prepare s.disk directory = (left, some e)) :
    ((g.runIn tools directory files includes).run s).1 = .error (.disk e) := by
  rw [runIn, bind_run, disk_run]
  dsimp only
  rw [prepared, bind_run, setDisk_run]
  rfl

end Protoc

end ProtoModules.Tool
