import ProtoModules.Proofs.Disk.Sorted
import ProtoModules.Proofs.Tool.Offender

/-! Definition files and include directories that are listed in different ways. The generator works on
the paths in their one order, and what it misses first is looked for in this order too, so what it
runs, what it leaves and how it ends depend on nothing but which paths are meant. -/

namespace ProtoModules.Tool
open Disk Disk.Path

namespace Protoc

variable {definitions definitions' searched searched' : List String} {files directories : List Path}

theorem generate_run_of_listed (tools : Toolchain) (g : Protoc) (scratch : Path) (s : Session)
    (listed : Listed definitions files) (found : Listed searched directories) :
    (g.generate tools scratch definitions searched).run s =
      match refusal? s.disk files directories with
      | some e => (.error (.error e), s)
      | none =>
        (match g.workDir with
          | some directory => g.runIn tools directory files directories
          | none => g.runAside tools scratch files directories).run s := by
  rw [listed.eq_sorted, found.eq_sorted]
  exact generate_run

/-- However the same paths are listed, the same is run and left on the disk, with the same units or the
same error: the paths are taken once each and in the order of their keys. -/
theorem generate_of_samePaths (tools : Toolchain) (g : Protoc) (scratch : Path) (s : Session)
    (same : SamePaths definitions definitions') (same' : SamePaths searched searched') :
    (g.generate tools scratch definitions searched).run s =
        (g.generate tools scratch definitions' searched').run s ∧
      ∃ files directories, Listed definitions files ∧ Listed searched directories ∧
        (g.generate tools scratch definitions searched).run s =
          match refusal? s.disk files directories with
          | some e => (.error (.error e), s)
          | none =>
            (match g.workDir with
              | some directory => g.runIn tools directory files directories
              | none => g.runAside tools scratch files directories).run s := by
  have files := listed_sorted definitions
  have directories := listed_sorted searched
  have result := generate_run_of_listed tools g scratch s files directories
  have result' := generate_run_of_listed tools g scratch s (files.congr same) (directories.congr same')
  exact ⟨result.trans result'.symm, _, _, files, directories, result⟩

end Protoc

theorem generate_of_spelled :
    SamePaths ["c.proto", "./a//b.proto"] ["a/b.proto", "c.proto", "./c.proto"] ∧
    SamePaths ["."] ["", "./"] ∧
    (Protoc.generate (failing "") {} (ofString "aside") ["c.proto", "./a//b.proto"] ["."]).run
        ⟨paired "a/b.proto" "c.proto", []⟩ =
      (Protoc.generate (failing "") {} (ofString "aside") ["a/b.proto", "c.proto", "./c.proto"]
        ["", "./"]).run ⟨paired "a/b.proto" "c.proto", []⟩ ∧
    ((Protoc.generate (failing "") {} (ofString "aside") ["c.proto", "./a//b.proto"] ["."]).run
        ⟨paired "a/b.proto" "c.proto", []⟩).2.commands =
      [["protoc", "--prost_out=aside", "-I.", "a/b.proto", "c.proto"]] := by
  have same : SamePaths ["c.proto", "./a//b.proto"] ["a/b.proto", "c.proto", "./c.proto"] := by
    decide +kernel
  have same' : SamePaths ["."] ["", "./"] := by decide +kernel
  refine ⟨same, same', (Protoc.generate_of_samePaths _ _ _ _ same same').1, ?_⟩
  have files : Listed ["c.proto", "./a//b.proto"] [ofString "a/b.proto", ofString "c.proto"] :=
    ⟨forall_mem_iff_iff.2 (by decide +kernel), by decide +kernel⟩
  have directories : Listed ["."] [working] :=
    ⟨forall_mem_iff_iff.2 (by decide +kernel), by decide +kernel⟩
  rw [Protoc.generate_run_of_listed _ _ _ _ files directories]
  decide +kernel

end ProtoModules.Tool
