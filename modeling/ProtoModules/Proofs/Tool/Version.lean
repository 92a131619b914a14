import ProtoModules.Proofs.PackageTree.Header
import ProtoModules.Proofs.Tool.Action
import ProtoModules.Tool.Protoc

/-! The version of the compiler in the header of the files. It is what the version query writes, without
the blanks around it. Line breaks inside it are kept, and then what follows the first of them stands
in every file as code. -/

namespace ProtoModules.Tool
open Text PackageTree ProtoModules.Action

namespace Protoc

variable {tools : Toolchain} {g g' : Protoc} {s s' : Session} {known : Option String}

def versionQuery (g : Protoc) : Command := [g.executable, "--version"]

def toldBy (exit : Exit) : Option String :=
  let told := match exit with
    | .exited 0 output _ => String.ofList (trim output.toList)
    | _ => ""
  if told.isEmpty then none else some told

theorem version_run (fresh : g.knownVersion = none) :
    (g.version tools).run s =
      (.ok (toldBy (tools.version g.versionQuery),
          { g with knownVersion := some (toldBy (tools.version g.versionQuery)) }),
        { s with commands := s.commands ++ [g.versionQuery] }) := by
  rw [version, fresh]
  rfl

theorem oneLine_toldBy_iff {exit : Exit} :
    (∀ version ∈ toldBy exit, '\n' ∉ version.toList) ↔
      ∀ output errors, exit = .exited 0 output errors → '\n' ∉ trim output.toList := by
  cases exit with
  | notStarted reason => simp [toldBy]
  | exited status output errors =>
    by_cases good : status = 0
    · subst good
      by_cases bare : trim output.toList = []
      · simp [toldBy, bare]
      · simp [toldBy, bare]
    · simp [toldBy, good]

theorem known_eq_of_version (fresh : g.knownVersion = none)
    (told : (g.version tools).run s = (.ok (known, g'), s')) :
    known = toldBy (tools.version g.versionQuery) := by
  have whole := told.symm.trans (version_run fresh)
  exact congrArg Prod.fst (Except.ok.inj (Prod.mk.inj whole).1)

/-- The files of a tree with names, with the header and without it, for the version that a generator tells
when it is asked. They are the same but for the header before each content, and this is one more
line in each file just if the output of the version query has no line break inside. -/
theorem header_of_version (fresh : g.knownVersion = none)
    (told : (g.version tools).run s = (.ok (known, g'), s')) {tool : String}
    (clean : '\n' ∉ tool.toList) (toplevel : Option String) {t : PackageTree}
    (named : t.missingName? = none) :
    ∃ fs gs, t.files? ⟨false, toplevel, tool, known⟩ = .ok fs ∧
      t.files? ⟨true, toplevel, tool, known⟩ = .ok gs ∧
      gs = fs.map (EmittedFile.under (header tool known)) ∧
      (List.Forall₂ ExtraLine fs gs ↔
        ∀ output errors, tools.version g.versionQuery = .exited 0 output errors →
          '\n' ∉ trim output.toList) := by
  have bare : t.files? ⟨false, toplevel, tool, known⟩ = .ok (t.files ⟨false, toplevel, tool, known⟩) := by
    rw [files?, named]
  have headed := files?_header ⟨true, toplevel, tool, known⟩ t
  rw [bare] at headed
  refine ⟨_, _, bare, headed, rfl, ?_⟩
  rw [forall₂_extraLine_iff clean bare headed, known_eq_of_version fresh told, oneLine_toldBy_iff]

def reporting (output : String) : Toolchain where
  compile _ _ := ⟨.exited 0 "" "", []⟩
  version _ := .exited 0 output ""
  format _ input := .exited 0 input ""

def namedSample : PackageTree :=
  .node [] [] (some ['g', 'e', 'n']) [.node ['f'] [⟨[['f']], ['a', '\n'], [], ""⟩] (some ['f']) []]

theorem header_of_one_line :
    ({} : Protoc).knownVersion = none ∧
    ((version (reporting "libprotoc 25.1\n") {}).run ⟨Disk.empty, []⟩ =
      (.ok (some "libprotoc 25.1", { knownVersion := some (some "libprotoc 25.1") }),
        ⟨Disk.empty, [["protoc", "--version"]]⟩)) ∧
    '\n' ∉ "0.1.0".toList ∧ namedSample.missingName? = none ∧
    ∃ fs gs, namedSample.files? ⟨false, none, "0.1.0", some "libprotoc 25.1"⟩ = .ok fs ∧
      namedSample.files? ⟨true, none, "0.1.0", some "libprotoc 25.1"⟩ = .ok gs ∧
      List.Forall₂ ExtraLine fs gs := by
  have known : toldBy (.exited 0 "libprotoc 25.1\n" "") = some "libprotoc 25.1" := by decide +kernel
  have told : (version (reporting "libprotoc 25.1\n") {}).run ⟨Disk.empty, []⟩ =
      (.ok (some "libprotoc 25.1", { knownVersion := some (some "libprotoc 25.1") }),
        ⟨Disk.empty, [["protoc", "--version"]]⟩) := by
    rw [version_run rfl, reporting, known]
    rfl
  have clean : '\n' ∉ "0.1.0".toList := by decide
  have named : namedSample.missingName? = none := by decide
  obtain ⟨fs, gs, bare, headed, -, extra⟩ := header_of_version rfl told clean none named
  refine ⟨rfl, told, clean, named, fs, gs, bare, headed, extra.2 fun output errors ended => ?_⟩
  cases ended
  decide +kernel

theorem not_extraLine_of_two_lines :
    ¬ ∀ (tools : Toolchain) (g g' : Protoc) (s s' : Session) (known : Option String) (tool : String)
        (toplevel : Option String) (t : PackageTree), g.knownVersion = none →
      (g.version tools).run s = (.ok (known, g'), s') → '\n' ∉ tool.toList → t.missingName? = none →
      ∃ fs gs, t.files? ⟨false, toplevel, tool, known⟩ = .ok fs ∧
        t.files? ⟨true, toplevel, tool, known⟩ = .ok gs ∧ List.Forall₂ ExtraLine fs gs := by
  intro claimed
  have clean : '\n' ∉ "0.1.0".toList := by decide
  have named : namedSample.missingName? = none := by decide
  obtain ⟨fs, gs, bare, headed, extra⟩ :=
    claimed (reporting "libprotoc 25.1\nwarning: x\n") {} _ ⟨Disk.empty, []⟩ _ _ "0.1.0" none
      namedSample rfl (version_run rfl) clean named
  have short := oneLine_toldBy_iff.1 ((forall₂_extraLine_iff clean bare headed).1 extra)
  have newline : '\n' ∈ trim "libprotoc 25.1\nwarning: x\n".toList := by decide +kernel
  exact short "libprotoc 25.1\nwarning: x\n" "" rfl newline

end Protoc

end ProtoModules.Tool
