import ProtoModules.Proofs.Disk.Arrival
import ProtoModules.Proofs.Tool.Compilation
import ProtoModules.Proofs.Tool.Mirror

/-! Compiling with a work directory. It is made and cleared of source files before the compiler runs, so
what is read afterwards is what this run wrote, as it would be from a directory of its own. -/

namespace ProtoModules

open Disk in
/-- What the compiler does depends neither on where its output goes nor on what lies there. -/
def Toolchain.Aloof (tools : Toolchain) (g : Tool.Protoc) (directory scratch : Path) : Prop :=
  ∀ files includes d d', Keeps (Tool.Within directory) (OnWay directory) d d' →
    tools.compile (g.command directory files includes) d' =
      tools.compile (g.command scratch files includes) d

namespace Tool
open Disk Disk.Path

variable {directory : Path} {p q : Place} {d made : Disk} {names : List Name}
  {name : Name}

/-- The work directory is there, and no directory in it is called like a source file. -/
structure Standing (d : Disk) (directory : Path) : Prop where
  there : d.hasDirectory directory = true
  bare : ∀ p name, d.locate directory = .ok p → sourceEnding <:+ name →
    d.get? (p ++ [name]) ≠ some .directory

/-- Nothing is at the path of the work directory, and no file stands on the way there. -/
structure Absent (d : Disk) (directory : Path) : Prop where
  missing : d.hasEntry directory = false
  clear : ClearWay d directory

/-- No directory is called like a source file where the work directory is to be, whether it is there
already or lies on the way and has to be made. -/
def Straight (d : Disk) (directory : Path) : Prop :=
  ∀ name, sourceEnding <:+ name → d.get? (directory.place ++ [name]) ≠ some .directory ∧
    ¬ OnWay directory (directory.place ++ [name])

theorem Standing.clearWay (standing : Standing d directory) : ClearWay d directory := by
  obtain ⟨p, found, here⟩ := hasDirectory_eq_true_iff.1 standing.there
  intro q content way file
  rw [directory_of_onWay found here way] at file
  cases file

theorem Standing.straight (standing : Standing d directory) : Straight d directory := by
  obtain ⟨p, found, here⟩ := hasDirectory_eq_true_iff.1 standing.there
  intro name ending
  rw [place_of_locate found]
  have bare := standing.bare p name found ending
  exact ⟨bare, fun way => bare (directory_of_onWay found here way)⟩

/-- Only a path with steps up can lead to a missing directory that is not straight. -/
theorem Absent.straight (absent : Absent d directory) (plain : directory.Plain) :
    Straight d directory := by
  intro name ending
  rw [plain.place_eq]
  constructor
  · intro inside
    have there : d.get? directory.names = some .directory := directory_of_directory inside (by simp)
    have missing := absent.missing
    rw [hasEntry_eq plain, there] at missing
    cases missing
  · intro way
    have short := (plain.prefix_of_onWay way).length_le
    rw [List.length_append, List.length_singleton] at short
    omega

theorem append_singleton_ne_of_notMem (p : Place) {rest : List Name} {other : Name}
    (fresh : name ∉ rest) (member : other ∈ rest) : p ++ [other] ≠ p ++ [name] := by
  intro same
  obtain rfl : other = name := by simpa using same
  exact fresh member

theorem exists_removed (found : d.locate directory = .ok p) (level : name ≠ upward)
    {content : ByteArray} (here : d.get? (p ++ [name]) = some (.file content)) :
    ∃ removed, d.removeFile ⟨directory.root, directory.names ++ [name]⟩ = .ok removed ∧
      removed.locate directory = .ok p ∧
      ∀ q, removed.get? q = if q = p ++ [name] then none else d.get? q := by
  obtain ⟨removed, ran, result⟩ := exists_removeFile (locate_member found level) here
  refine ⟨removed, ran, locate_of_directories (fun begun _ directory => ?_) found, result⟩
  rw [result, if_neg, directory]
  intro same
  rw [same, here] at directory
  cases directory

theorem exists_cleared (found : d.locate directory = .ok p)
    (files : ∀ name ∈ names, name ≠ upward ∧ ∃ content, d.get? (p ++ [name]) = some (.file content))
    (once : names.Nodup) :
    ∃ cleared, Protoc.clearSources d directory names = (cleared, none) ∧
      cleared.locate directory = .ok p ∧
      ∀ q, cleared.get? q = if ∃ name ∈ names, q = p ++ [name] then none else d.get? q := by
  induction names generalizing d with
  | nil => exact ⟨d, rfl, found, by simp⟩
  | cons name rest ih =>
    obtain ⟨fresh, once⟩ := List.nodup_cons.1 once
    obtain ⟨level, content, here⟩ := files name List.mem_cons_self
    obtain ⟨removed, ran, still, result⟩ := exists_removed found level here
    have later : ∀ other ∈ rest, other ≠ upward ∧
        ∃ content, removed.get? (p ++ [other]) = some (.file content) := by
      intro other member
      rw [result, if_neg (append_singleton_ne_of_notMem p fresh member)]
      exact files other (List.mem_cons_of_mem _ member)
    obtain ⟨cleared, ranRest, locate, after⟩ := ih still later once
    refine ⟨cleared, by rw [Protoc.clearSources, ran]; exact ranRest, locate, fun q => ?_⟩
    rw [after, result]
    by_cases own : q = p ++ [name]
    · simp [own]
    · simp [own]

theorem removeFile_of_directory {path : Path} (found : d.locate path = .ok p)
    (here : d.get? p = some .directory) : d.removeFile path = .error ⟨.isDirectory, path⟩ := by
  have refused : d.removeFileAt p = .error .isDirectory := by
    unfold removeFileAt
    split
    · rename_i none
      rw [here] at none
      cases none
    · rfl
    · rename_i file
      rw [here] at file
      cases file
  simp [removeFile, found, refused, bind, Except.bind, Except.mapError]

theorem exists_refused (found : d.locate directory = .ok p)
    (each : ∀ name ∈ names, name ≠ upward ∧ d.get? (p ++ [name]) ≠ none) (once : names.Nodup)
    (taken : ∃ name ∈ names, d.get? (p ++ [name]) = some .directory) :
    ∃ left, ∃ name ∈ names, Protoc.clearSources d directory names =
      (left, some ⟨.isDirectory, ⟨directory.root, directory.names ++ [name]⟩⟩) := by
  induction names generalizing d with
  | nil => simp at taken
  | cons name rest ih =>
    obtain ⟨fresh, once⟩ := List.nodup_cons.1 once
    obtain ⟨level, there⟩ := each name List.mem_cons_self
    obtain ⟨e, here⟩ := Option.ne_none_iff_exists'.1 there
    cases e with
    | directory =>
      refine ⟨d, name, List.mem_cons_self, ?_⟩
      rw [Protoc.clearSources, removeFile_of_directory (locate_member found level) here]
    | file content =>
      obtain ⟨removed, ran, still, result⟩ := exists_removed found level here
      have same : ∀ other ∈ rest, removed.get? (p ++ [other]) = d.get? (p ++ [other]) := by
        intro other member
        rw [result, if_neg (append_singleton_ne_of_notMem p fresh member)]
      have later : ∀ other ∈ rest, other ≠ upward ∧ removed.get? (p ++ [other]) ≠ none :=
        fun other member => same other member ▸ each other (List.mem_cons_of_mem _ member)
      have behind : ∃ other ∈ rest, removed.get? (p ++ [other]) = some .directory := by
        obtain ⟨other, member, directory⟩ := taken
        rcases List.mem_cons.1 member with rfl | member
        · rw [here] at directory
          cases directory
        · exact ⟨other, member, same other member ▸ directory⟩
      obtain ⟨left, other, member, ranRest⟩ := ih still later once behind
      refine ⟨left, other, List.mem_cons_of_mem _ member, ?_⟩
      rw [Protoc.clearSources, ran]
      exact ranRest

theorem prepare_eq (ran : d.makeDirs directory = (made, none)) (found : made.locate directory = .ok p) :
    Protoc.prepare d directory = Protoc.clearSources made directory (sourceNames made p) := by
  rw [Protoc.prepare, ran]
  dsimp only
  rw [found]

theorem Straight.files (straight : Straight d directory)
    (ran : d.makeDirs directory = (made, none)) (found : made.locate directory = .ok p) :
    ∀ name ∈ sourceNames made p, name ≠ upward ∧
      ∃ content, made.get? (p ++ [name]) = some (.file content) := by
  intro name listed
  obtain ⟨ending, some⟩ := mem_sourceNames_iff.1 listed
  obtain ⟨bare, apart⟩ := straight name ending
  rw [place_of_locate found] at bare apart
  refine ⟨ne_upward_of_mem_sourceNames listed, ?_⟩
  obtain ⟨e, here⟩ := Option.ne_none_iff_exists'.1 some
  cases e with
  | file content => exact ⟨content, here⟩
  | directory =>
    -- it was there before, or it has been made on the way
    have keeps := keeps_makeDirs d directory
    rw [ran] at keeps
    rcases keeps (p ++ [name]) with same | none | ⟨way, -⟩
    · exact absurd (same ▸ here) bare
    · exact none.elim
    · exact absurd way apart

section prepare

variable (proper : directory.Proper) (clear : ClearWay d directory)

include proper clear

theorem exists_prepare (straight : Straight d directory) :
    ∃ ready p, Protoc.prepare d directory = (ready, none) ∧ Mirrors directory p ready Disk.empty := by
  obtain ⟨made, ran, there⟩ := makeDirs_of_clear proper clear
  obtain ⟨p, found, here⟩ := hasDirectory_eq_true_iff.1 there
  obtain ⟨ready, cleared, locate, result⟩ :=
    exists_cleared found (straight.files ran found) (nodup_sourceNames made p)
  refine ⟨ready, p, (prepare_eq ran found).trans cleared, locate, ?_, ?_⟩
  · rw [result, if_neg (by simp), here]
  · intro name behind ending
    have gone : ready.get? (p ++ [name]) = none := by
      rw [result]
      split
      · rfl
      · rename_i kept
        by_contra there
        exact kept ⟨name, mem_sourceNames_iff.2 ⟨ending, there⟩, rfl⟩
    have aside : Disk.empty.get? (name :: behind) = none := by simp [Disk.get?, Disk.empty]
    rw [aside]
    exact get?_eq_none_of_above gone (by simp)

theorem exists_refusal (crooked : ¬ Straight d directory) :
    ∃ left name, sourceEnding <:+ name ∧ Protoc.prepare d directory =
      (left, some ⟨.isDirectory, ⟨directory.root, directory.names ++ [name]⟩⟩) := by
  obtain ⟨made, ran, there⟩ := makeDirs_of_clear proper clear
  obtain ⟨p, found, here⟩ := hasDirectory_eq_true_iff.1 there
  have grows : Grows d made := grows_makeDirs ran
  have taken : ∃ name ∈ sourceNames made p, made.get? (p ++ [name]) = some .directory := by
    simp only [Straight, not_forall] at crooked
    obtain ⟨name, ending, met⟩ := crooked
    rw [place_of_locate found] at met
    have directory : made.get? (p ++ [name]) = some .directory := by
      by_cases way : OnWay directory (p ++ [name])
      · exact directory_of_onWay found here way
      · exact grows.directory _ (by simpa [way] using met)
    exact ⟨name, mem_sourceNames_iff.2 ⟨ending, by simp [directory]⟩, directory⟩
  obtain ⟨left, name, listed, refused⟩ := exists_refused found
    (fun name listed => ⟨ne_upward_of_mem_sourceNames listed, (mem_sourceNames_iff.1 listed).2⟩)
    (nodup_sourceNames made p) taken
  exact ⟨left, name, (mem_sourceNames_iff.1 listed).1, (prepare_eq ran found).trans refused⟩

end prepare

/-- A run with a work directory gives the units or the failure of a run without one, only that what the
disk refuses is called by its path in the work directory. -/
theorem Protoc.generate_workDir_eq {tools : Toolchain} (contained : tools.Contained) (g : Protoc)
    (scratch : Path) (proper : directory.Proper) (aloof : tools.Aloof g directory scratch)
    (definitions searched : List String) (s : Session)
    (ready : Standing s.disk directory ∨ Absent s.disk directory ∧ Straight s.disk directory) :
    (({ g with workDir := some directory }.generate tools scratch definitions searched).run s).1 =
      (({ g with workDir := none }.generate tools scratch definitions searched).run s).1.mapError
        (Failure.behind directory) := by
  have way : ClearWay s.disk directory ∧ Straight s.disk directory := by
    rcases ready with standing | ⟨absent, straight⟩
    · exact ⟨standing.clearWay, standing.straight⟩
    · exact ⟨absent.clear, straight⟩
  obtain ⟨made, p, prepared, mirrors⟩ := exists_prepare proper way.1 way.2
  have keeps := keeps_prepare s.disk directory
  rw [prepared] at keeps
  cases refused : refusal? s.disk (sorted (definitions.map Path.ofString))
      (sorted (searched.map Path.ofString)) with
  | some e =>
    rw [generate_run, generate_run, refused]
    rfl
  | none =>
    have same := aloof (sorted (definitions.map Path.ofString)) (sorted (searched.map Path.ofString))
      s.disk made keeps
    rw [generate_in refused rfl, generate_aside refused rfl, runIn_run prepared, runAside_run]
    change unitsOf _ _ (storeOutputs made directory (tools.compile (g.command directory _ _) made).outputs)
      directory (tools.compile (g.command directory _ _) made).exit = _
    rw [same]
    exact (mirrors.storeOutputs (contained _ _)).unitsOf_eq g _ _

def writer : Toolchain where
  compile _ _ := ⟨.exited 0 "" "", [(Path.ofString "my.rs", .file "pub struct A {}\n".toUTF8)]⟩
  version _ := .exited 0 "" ""
  format _ input := .exited 0 input ""

theorem contained_writer : writer.Contained := by
  intro command d item member
  obtain rfl := List.mem_singleton.1 member
  exact ⟨by decide, by decide⟩

theorem aloof_writer (g : Protoc) (directory scratch : Path) : writer.Aloof g directory scratch :=
  fun _ _ _ _ _ => rfl

theorem refusal?_of_file {d : Disk} {file : String} (there : d.hasFile (Path.ofString file) = true) :
    Protoc.refusal? d (Path.sorted ([file].map Path.ofString))
      (Path.sorted (([] : List String).map Path.ofString)) = none := by
  refine Protoc.refusal?_eq_none_iff.2 ⟨?_, ?_, ?_⟩
  · exact List.ne_nil_of_mem (mem_sorted_iff.2 List.mem_cons_self)
  · intro path member
    obtain rfl := List.mem_singleton.1 (mem_sorted_iff.1 member)
    exact there
  · intro path member
    cases mem_sorted_iff.1 member

theorem exists_units_of_writer {s : Session} {file : String} (scratch : Path)
    (there : s.disk.hasFile (Path.ofString file) = true) :
    ∃ us, ((Protoc.generate writer {} scratch [file] []).run s).1 = .ok us := by
  have readable : IsReadable
      (Protoc.storeOutputs Disk.empty working (writer.compile [] s.disk).outputs) [] := by
    change IsReadable (Protoc.storeOutputs Disk.empty working
      [(Path.ofString "my.rs", .file "pub struct A {}\n".toUTF8)]) []
    decide +kernel
  rw [Protoc.generate_aside (refusal?_of_file there) rfl, Protoc.runAside_run]
  exact ⟨_, readUnits_eq rfl (get?_nil _) readable none⟩

def littered : Disk :=
  [("a.proto", "x"), ("work/old.rs", "pub struct B {}\n"), ("work/notes", "n")].foldl
    (fun d item => d.store (Path.ofString item.1) (.file item.2.toUTF8)) Disk.empty

theorem standing_littered : Standing littered (Path.ofString "work") where
  there := by decide +kernel
  bare := by
    intro p name found ending inside
    obtain rfl : p = ["work".toList] := by
      have known : littered.locate (Path.ofString "work") = .ok ["work".toList] := by decide +kernel
      exact Except.ok.inj (found.symm.trans known)
    have files : ∀ name ∈ littered.members ["work".toList],
        littered.get? (["work".toList] ++ [name]) ≠ some .directory := by decide +kernel
    exact files name (mem_members_iff.2 (by rw [inside]; simp)) inside

theorem generate_littered_eq :
    writer.Contained ∧ (Path.ofString "work").Proper ∧
    writer.Aloof {} (Path.ofString "work") (Path.ofString "aside") ∧
    Standing littered (Path.ofString "work") ∧
    (∃ us, ((Protoc.generate writer {} (Path.ofString "aside") ["a.proto"] []).run ⟨littered, []⟩).1 =
      .ok us) ∧
    ((Protoc.generate writer { workDir := some (Path.ofString "work") } (Path.ofString "aside")
        ["a.proto"] []).run ⟨littered, []⟩).1 =
      ((Protoc.generate writer {} (Path.ofString "aside") ["a.proto"] []).run ⟨littered, []⟩).1.mapError
        (Failure.behind (Path.ofString "work")) :=
  ⟨contained_writer, proper_parse _, aloof_writer _ _ _, standing_littered,
    exists_units_of_writer _ (by decide +kernel),
    Protoc.generate_workDir_eq contained_writer {} _ (proper_parse _) (aloof_writer _ _ _) _ _ _
      (.inl standing_littered)⟩

/-- The path of a work directory that leads through a directory that is called like a source file, to step
up from there again. -/
def winding : Path := Path.ofString "w/x.rs/.."

def lone : Disk := Disk.empty.store (Path.ofString "a.proto") (.file "x".toUTF8)

theorem absent_winding : Absent lone winding where
  missing := by decide +kernel
  clear := by
    rintro q content ⟨begun, within, place⟩ file
    have clear : ∀ n ≤ winding.names.length,
        lone.get? (placeFrom [] (winding.names.take n)) = some .directory ∨
          lone.get? (placeFrom [] (winding.names.take n)) = none := by decide +kernel
    rw [List.prefix_iff_eq_take.1 within] at place
    rw [← place] at file
    rcases clear begun.length within.length_le with here | here
    · rw [here] at file
      cases file
    · rw [here] at file
      cases file

theorem not_straight_winding : ¬ Straight lone winding := by
  intro straight
  refine (straight "x.rs".toList (by decide)).2 ?_
  exact ⟨["w".toList, "x.rs".toList], by decide, by decide⟩

/-- Making such a work directory makes the directory that it steps up from, which cannot be cleared. -/
theorem not_same_of_winding :
    ¬ ∀ (tools : Toolchain) (g : Protoc) (scratch directory : Path) (definitions searched : List String)
        (s : Session), tools.Contained → directory.Proper → tools.Aloof g directory scratch →
      (Standing s.disk directory ∨ Absent s.disk directory) →
      ((Protoc.generate tools { g with workDir := some directory } scratch definitions searched).run
          s).1 =
        ((Protoc.generate tools { g with workDir := none } scratch definitions searched).run
          s).1.mapError (Failure.behind directory) := by
  intro same
  have proper : winding.Proper := proper_parse _
  have there : lone.hasFile (Path.ofString "a.proto") = true := by decide +kernel
  obtain ⟨us, units⟩ := exists_units_of_writer (s := ⟨lone, []⟩) (Path.ofString "aside") there
  obtain ⟨left, name, -, refused⟩ :=
    exists_refusal proper absent_winding.clear not_straight_winding
  have known := same writer {} (Path.ofString "aside") winding ["a.proto"] [] ⟨lone, []⟩
    contained_writer proper (aloof_writer _ _ _) (.inr absent_winding)
  rw [units, Protoc.generate_in (refusal?_of_file there) rfl, Protoc.runIn_refused refused] at known
  cases known

end Tool

end ProtoModules
