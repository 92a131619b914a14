import ProtoModules.Proofs.Disk.Accept
import ProtoModules.Proofs.Disk.Alike
import ProtoModules.Proofs.Disk.Growth
import ProtoModules.Proofs.Tool.Frame

/-! An output directory beside one that nothing else lies in. Only its source files are read, and what is
stored under a name that is no source file's does not meet them; so storing the same outputs in
both leaves the same source files, whatever else the first one holds. -/

namespace ProtoModules.Tool
open Disk Disk.Path

variable {directory path : Path} {p : Place} {d d' made made' : Disk} {names : List Name} {name : Name}

/-- No names at all, or such that begin with the name of a source file. -/
def Sourced (names : List Name) : Prop := ∀ name ∈ names.head?, sourceEnding <:+ name

theorem Sourced.above {above : List Name} (sourced : Sourced names) (within : above <+: names) :
    Sourced above := by
  cases above with
  | nil => exact fun _ none => nomatch none
  | cons name rest =>
    obtain ⟨behind, rfl⟩ := within
    exact sourced

/-- The directory at a place holds the same source files as the second disk does at its top. -/
structure Mirrors (directory : Path) (p : Place) (d d' : Disk) : Prop where
  found : d.locate directory = .ok p
  here : d.get? p = some .directory
  same : ∀ name behind, sourceEnding <:+ name →
    d.get? (p ++ name :: behind) = d'.get? (name :: behind)

inductive Both (R : Disk → Disk → Prop) : Except Fault Disk → Except Fault Disk → Prop where
  | ok {d d' : Disk} (related : R d d') : Both R (.ok d) (.ok d')
  | error (fault : Fault) : Both R (.error fault) (.error fault)

namespace Mirrors

section look

variable (mirrors : Mirrors directory p d d')

include mirrors

theorem get?_eq (sourced : Sourced names) : d.get? (p ++ names) = d'.get? names := by
  cases names with
  | nil => rw [List.append_nil, mirrors.here, get?_nil]
  | cons name behind => exact mirrors.same name behind (sourced name rfl)

theorem absence_eq (sourced : Sourced names) : d.absence (p ++ names) = d'.absence names := by
  apply absence_congr
  constructor
  · rintro ⟨n, short, content, file⟩
    by_cases outside : n ≤ p.length
    · -- above the directory there are directories only
      rw [List.take_append_of_le_length outside] at file
      exact absurd file (not_file_of_directory mirrors.here (List.take_prefix n p) content)
    · rw [List.length_append] at short
      rw [List.take_append, List.take_of_length_le (by omega),
        mirrors.get?_eq (sourced.above (List.take_prefix _ names))] at file
      exact ⟨n - p.length, by omega, content, file⟩
  · rintro ⟨n, short, content, file⟩
    refine ⟨p.length + n, by rw [List.length_append]; omega, content, ?_⟩
    rw [List.take_length_add_append, mirrors.get?_eq (sourced.above (List.take_prefix _ names)), file]

theorem locate_eq (level : upward ∉ names) :
    d.locate ⟨directory.root, directory.names ++ names⟩ = .ok (p ++ names) :=
  locate_append level mirrors.found

theorem access_eq (sourced : Sourced names) (level : upward ∉ names) :
    d.access ⟨directory.root, directory.names ++ names⟩ = d'.access ⟨[], names⟩ := by
  rw [access, access, mirrors.locate_eq level, Disk.locate_eq level]
  simp only [bind, Except.bind, mirrors.get?_eq sourced, mirrors.absence_eq sourced]

theorem hasDirectory_eq (sourced : Sourced names) (level : upward ∉ names) :
    d.hasDirectory ⟨directory.root, directory.names ++ names⟩ = d'.hasDirectory ⟨[], names⟩ := by
  rw [hasDirectory, hasDirectory, mirrors.access_eq sourced level]

end look

theorem put (mirrors : Mirrors directory p d d') (present : names ≠ [])
    (free : d.get? (p ++ names) ≠ some .directory) {e : Entry}
    (first : ∀ q, made.get? q = if q = p ++ names then some e else d.get? q)
    (second : ∀ q, made'.get? q = if q = names then some e else d'.get? q) :
    Mirrors directory p made made' where
  found := by
    refine locate_of_directories (fun begun _ still => ?_) mirrors.found
    rw [first, if_neg, still]
    intro same
    exact free (same ▸ still)
  here := by
    rw [first, if_neg, mirrors.here]
    simpa using present
  same name behind source := by
    rw [first, second, mirrors.same name behind source]
    simp only [List.append_right_inj]

theorem makeDirAt (mirrors : Mirrors directory p d d') (sourced : Sourced names) :
    Both (Mirrors directory p) (d.makeDirAt (p ++ names)) (d'.makeDirAt names) := by
  have there := mirrors.get?_eq sourced
  cases here : d'.get? names with
  | some e =>
    rw [here] at there
    simp only [Disk.makeDirAt, here, there, Option.isSome_some, dite_true]
    exact .error _
  | none =>
    rw [here] at there
    obtain ⟨above, name, rfl⟩ : ∃ above name, names = above ++ [name] := by
      refine (List.eq_nil_or_concat' names).resolve_left ?_
      rintro rfl
      rw [get?_nil] at here
      cases here
    have parents := mirrors.get?_eq (sourced.above (List.prefix_append above [name]))
    have lacks := mirrors.absence_eq sourced
    rw [← List.append_assoc] at there lacks ⊢
    by_cases parent : d'.get? above = some .directory
    · rw [parent] at parents
      by_cases named : isName name = true
      · obtain ⟨made, ran⟩ := exists_makeDirAt there parents named
        obtain ⟨made', ran'⟩ := exists_makeDirAt here parent named
        rw [ran, ran']
        have result := (get?_of_makeDirAt ran).2.2
        rw [List.append_assoc] at there result
        exact .ok (mirrors.put (by simp) (by simp [there]) result (get?_of_makeDirAt ran').2.2)
      · simp only [Disk.makeDirAt, here, there, List.dropLast_concat, parent, parents,
          List.getLast_append_singleton, named, Option.isSome_none, dite_true, dite_false,
          Bool.false_eq_true]
        exact .error _
    · rw [← parents] at parent
      have parent' := parents ▸ parent
      simp only [Disk.makeDirAt, here, there, List.dropLast_concat, parent, parent', lacks,
        Option.isSome_none, dite_false, Bool.false_eq_true]
      exact .error _

theorem makeDir (mirrors : Mirrors directory p d d') (sourced : Sourced names)
    (level : upward ∉ names) :
    Both (Mirrors directory p) (d.makeDir ⟨directory.root, directory.names ++ names⟩)
      (d'.makeDir ⟨[], names⟩) := by
  rw [Disk.makeDir, Disk.makeDir, mirrors.locate_eq level, Disk.locate_eq level]
  exact mirrors.makeDirAt sourced

theorem ensureDir (mirrors : Mirrors directory p d d') (sourced : Sourced names)
    (level : upward ∉ names) :
    let ran := d.ensureDir ⟨directory.root, directory.names ++ names⟩
    let ran' := d'.ensureDir ⟨[], names⟩
    Mirrors directory p ran.1 ran'.1 ∧ ran.2 = ran'.2 := by
  have both := mirrors.makeDir sourced level
  simp only [Disk.ensureDir, mirrors.hasDirectory_eq sourced level]
  generalize d.makeDir ⟨directory.root, directory.names ++ names⟩ = first at both
  generalize d'.makeDir ⟨[], names⟩ = second at both
  cases both with
  | ok related => exact ⟨related, rfl⟩
  | error fault =>
    dsimp only
    split
    · exact ⟨mirrors, rfl⟩
    · exact ⟨mirrors, rfl⟩

theorem makeDirsUp (mirrors : Mirrors directory p d d') (up : List Name)
    (sourced : Sourced up.reverse) (level : upward ∉ up) :
    let ran := d.makeDirsUp directory.root (up ++ directory.names.reverse)
    let ran' := d'.makeDirsUp [] up
    Mirrors directory p ran.1 ran'.1 ∧ ran.2 = ran'.2 := by
  induction up with
  | nil =>
    -- the work directory is there, and so is the top of the other disk: nothing is made
    have there : d.hasDirectory directory = true :=
      hasDirectory_eq_true_iff.2 ⟨p, mirrors.found, mirrors.here⟩
    have stays : d.makeDirsUp directory.root directory.names.reverse = (d, none) :=
      makeDirs_of_directory there
    have beside : d'.hasDirectory working = true :=
      hasDirectory_eq_true_iff.2 ⟨[], rfl, get?_nil d'⟩
    have top : d'.makeDirsUp [] [] = (d', none) := makeDirs_of_directory beside
    rw [List.nil_append, stays, top]
    exact ⟨mirrors, rfl⟩
  | cons name up ih =>
    have whole : (name :: (up ++ directory.names.reverse)).reverse =
        directory.names ++ (name :: up).reverse := by simp
    have level' : upward ∉ (name :: up).reverse := fun member => level (List.mem_reverse.1 member)
    have short : Sourced up.reverse := sourced.above (by simp)
    obtain ⟨related, faults⟩ := ih short fun member => level (List.mem_cons_of_mem _ member)
    rw [List.cons_append]
    simp only [Disk.makeDirsUp, whole]
    have both := mirrors.makeDir sourced level'
    have looks := mirrors.hasDirectory_eq sourced level'
    generalize d.makeDir ⟨directory.root, directory.names ++ (name :: up).reverse⟩ = first at both
    generalize d'.makeDir ⟨[], (name :: up).reverse⟩ = second at both
    cases both with
    | ok related => exact ⟨related, rfl⟩
    | error fault =>
      -- what the directory is to lie in is missing in both, and is made first
      by_cases missing : fault = .missing
      · subst missing
        dsimp only
        cases ran : d.makeDirsUp directory.root (up ++ directory.names.reverse) with
        | mk below fault =>
          cases ran' : d'.makeDirsUp [] up with
          | mk below' fault' =>
            rw [ran, ran'] at related faults
            obtain rfl : fault = fault' := faults
            cases fault with
            | none => exact related.ensureDir sourced level'
            | some fault => exact ⟨related, rfl⟩
      · cases fault
        · exact absurd rfl missing
        all_goals
          dsimp only
          rw [looks]
          split
          · exact ⟨mirrors, rfl⟩
          · exact ⟨mirrors, rfl⟩

theorem makeDirs (mirrors : Mirrors directory p d d') (sourced : Sourced names)
    (level : upward ∉ names) :
    Mirrors directory p (d.makeDirs ⟨directory.root, directory.names ++ names⟩).1
      (d'.makeDirs ⟨[], names⟩).1 := by
  have both := mirrors.makeDirsUp names.reverse (by rwa [List.reverse_reverse]) (by simpa using level)
  simp only [Disk.makeDirs, List.reverse_append]
  exact both.1

theorem writeAt (mirrors : Mirrors directory p d d') (sourced : Sourced names) (present : names ≠ [])
    (content : ByteArray) :
    Both (Mirrors directory p) (d.writeAt (p ++ names) content) (d'.writeAt names content) := by
  have there := mirrors.get?_eq sourced
  have lacks := mirrors.absence_eq sourced
  obtain ⟨above, name, rfl⟩ := (List.eq_nil_or_concat' names).resolve_left present
  have parents := mirrors.get?_eq (sourced.above (List.prefix_append above [name]))
  rw [← List.append_assoc] at there lacks ⊢
  by_cases taken : d'.get? (above ++ [name]) = some .directory
  · rw [taken] at there
    simp only [Disk.writeAt, List.append_eq_nil_iff, List.cons_ne_nil, and_false, taken, there,
      dite_true, dite_false]
    exact .error _
  · by_cases parent : d'.get? above = some .directory
    · by_cases named : isName name = true
      · obtain ⟨made, ran⟩ := exists_writeAt (there ▸ taken) (parents ▸ parent) named content
        obtain ⟨made', ran'⟩ := exists_writeAt taken parent named content
        rw [ran, ran']
        have result := (get?_of_writeAt ran).2
        rw [← there, List.append_assoc] at taken
        rw [List.append_assoc] at result
        exact .ok (mirrors.put present taken result (get?_of_writeAt ran').2)
      · simp only [Disk.writeAt, List.append_eq_nil_iff, List.cons_ne_nil, and_false, taken, there,
          List.dropLast_concat, parent, parents, List.getLast_append_singleton, named, dite_true,
          dite_false, Bool.false_eq_true]
        exact .error _
    · simp only [Disk.writeAt, List.append_eq_nil_iff, List.cons_ne_nil, and_false, taken, there,
        List.dropLast_concat, parent, parents, lacks, dite_false]
      exact .error _

theorem store_sourced (mirrors : Mirrors directory p d d') (sourced : Sourced names)
    (present : names ≠ []) (level : upward ∉ names) (e : Entry) :
    Mirrors directory p (d.store ⟨directory.root, directory.names ++ names⟩ e)
      (d'.store ⟨[], names⟩ e) := by
  cases e with
  | directory => exact mirrors.makeDirs sourced level
  | file content =>
    have dirs := mirrors.makeDirs (sourced.above (List.dropLast_prefix names))
      fun member => level ((List.dropLast_prefix names).subset member)
    have both := dirs.writeAt sourced present content
    have beside : ∀ d : Disk, d.locate ⟨[], names⟩ = .ok names := fun d =>
      Disk.locate_eq level
    simp only [Disk.store, Disk.write, Path.parent, List.dropLast_append_of_ne_nil present,
      dirs.locate_eq level, beside]
    generalize (d.makeDirs ⟨directory.root, directory.names ++ names.dropLast⟩).1 = made at *
    generalize (d'.makeDirs ⟨[], names.dropLast⟩).1 = made' at *
    simp only [bind, Except.bind]
    generalize made.writeAt (p ++ names) content = first at both
    generalize made'.writeAt names content = second at both
    cases both with
    | ok related => exact related
    | error fault => exact dirs

end Mirrors

theorem get?_store_of_other (found : d.locate directory = .ok p) (here : d.get? p = some .directory)
    (inward : path.Inward) (e : Entry) (behind : List Name) (other : path.names.head? ≠ some name) :
    (d.store (directory.join path) e).get? (p ++ name :: behind) = d.get? (p ++ name :: behind) := by
  have begins : ∀ rest, rest <+: path.names → p ++ rest ≠ p ++ name :: behind := by
    intro rest within same
    rw [List.append_right_inj] at same
    subst same
    obtain ⟨later, whole⟩ := within
    exact other (by rw [← whole]; rfl)
  have place : ∀ rest, rest <+: path.names →
      placeFrom [] (directory.names ++ rest) = p ++ rest := by
    intro rest within
    rw [placeFrom_append, placeFrom_of_level fun member => inward.level (within.subset member)]
    exact congrArg (· ++ rest) (place_of_locate found)
  rw [join_of_free _ inward.free]
  rcases keeps_store d ⟨directory.root, directory.names ++ path.names⟩ e (p ++ name :: behind)
    with same | own | ⟨⟨begun, within, way⟩, none, -⟩
  · exact same
  · exact absurd ((place _ List.prefix_rfl).symm.trans own) (begins _ List.prefix_rfl)
  · rcases prefix_append_cases within with above | ⟨rest, short, rfl⟩
    · rw [directory_of_onWay found here ⟨begun, above, way⟩] at none
      cases none
    · exact absurd ((place _ short).symm.trans way) (begins rest short)

namespace Mirrors

theorem store (mirrors : Mirrors directory p d d') (inward : path.Inward) (e : Entry) :
    Mirrors directory p (d.store (directory.join path) e) (d'.store path e) := by
  by_cases source : path.names ≠ [] ∧ Sourced path.names
  · obtain ⟨root, names⟩ := path
    obtain rfl : root = [] := inward.free
    exact mirrors.store_sourced source.2 source.1 inward.level e
  · have grows := grows_store d (directory.join path) e
    refine ⟨grows.locate mirrors.found, grows.directory p mirrors.here, fun name behind ending => ?_⟩
    have other : path.names.head? ≠ some name := by
      intro head
      refine source ⟨?_, ?_⟩
      · rintro none
        simp [none] at head
      · intro first member
        rw [head, Option.mem_some_iff] at member
        exact member ▸ ending
    have top : d'.locate working = .ok [] := rfl
    have beside := get?_store_of_other top (get?_nil d') inward e behind other
    rw [working_join] at beside
    rw [get?_store_of_other mirrors.found mirrors.here inward e behind other,
      mirrors.same name behind ending]
    exact beside.symm

theorem storeOutputs (mirrors : Mirrors directory p d d') {outputs : List (Path × Entry)}
    (inward : ∀ item ∈ outputs, item.1.Inward) :
    Mirrors directory p (Protoc.storeOutputs d directory outputs)
      (Protoc.storeOutputs d' working outputs) := by
  induction outputs generalizing d d' with
  | nil => exact mirrors
  | cons item rest ih =>
    have first := mirrors.store (inward item List.mem_cons_self) item.2
    have later := ih first fun other member => inward other (List.mem_cons_of_mem _ member)
    simpa only [Protoc.storeOutputs, List.foldl_cons, working_join] using later

end Mirrors

end ProtoModules.Tool

namespace ProtoModules
open Disk Disk.Path

/-- The failure as it is called behind a directory. -/
def Failure.behind (directory : Path) : Failure → Failure
  | .disk e => .disk ⟨e.fault, directory.join e.path⟩
  | f => f

namespace Tool

variable {directory : Path} {p : Place} {d d' : Disk} {name : Name}

theorem mapM_mapError {α β : Type} {xs : List α} {f g : α → Except Failure β}
    {change : Failure → Failure} (each : ∀ x ∈ xs, f x = (g x).mapError change) :
    xs.mapM f = (xs.mapM g).mapError change := by
  induction xs with
  | nil => rfl
  | cons x rest ih =>
    have later := ih fun y member => each y (List.mem_cons_of_mem x member)
    rw [List.mapM_cons, List.mapM_cons, each x List.mem_cons_self, later]
    cases g x with
    | error e => rfl
    | ok b => cases rest.mapM g <;> rfl

namespace Mirrors

variable (mirrors : Mirrors directory p d d')

include mirrors

theorem sourceNames_eq : sourceNames d p = sourceNames d' [] :=
  sourceNames_congr fun name ending => mirrors.same name [] ending

theorem readText_eq (ending : sourceEnding <:+ name) (level : name ≠ upward) :
    readText d ⟨directory.root, directory.names ++ [name]⟩ =
      (readText d' ⟨working.root, working.names ++ [name]⟩).mapError (Failure.behind directory) := by
  have sourced : Sourced [name] := fun _ member => (Option.mem_some_iff.1 member) ▸ ending
  have there := mirrors.access_eq sourced (by simpa [eq_comm] using level)
  change _ = (readText d' ⟨[], [name]⟩).mapError (Failure.behind directory)
  rw [readText, readText, Disk.read, Disk.read, there]
  cases d'.access ⟨[], [name]⟩ with
  | error fault => rfl
  | ok e =>
    cases e with
    | directory => rfl
    | file content =>
      simp only [Except.mapError, bind, Except.bind]
      cases Text.decode content <;> rfl

theorem sourceTexts_eq :
    sourceTexts d directory = (sourceTexts d' working).mapError (Failure.behind directory) := by
  have aside : d'.locate working = .ok [] := rfl
  rw [sourceTexts, sourceTexts, mirrors.found, aside]
  dsimp only
  rw [if_pos (by simp [isDirectory, mirrors.here]), if_pos (by simp [isDirectory]),
    mirrors.sourceNames_eq]
  apply mapM_mapError
  intro name listed
  rw [mirrors.readText_eq (mem_sourceNames_iff.1 listed).1 (ne_upward_of_mem_sourceNames listed)]
  cases readText d' ⟨working.root, working.names ++ [name]⟩ with
  | error e => rfl
  | ok text => rfl

theorem readUnits_eq (service : Option (List Char)) :
    readUnits d directory service =
      (readUnits d' working service).mapError (Failure.behind directory) := by
  rw [readUnits, readUnits, mirrors.sourceTexts_eq]
  cases sourceTexts d' working with
  | error e => rfl
  | ok texts => rfl

theorem unitsOf_eq (g : Protoc) (files : List Path) (exit : Exit) :
    g.unitsOf files d directory exit =
      (g.unitsOf files d' working exit).mapError (Failure.behind directory) := by
  cases exit with
  | notStarted reason => rfl
  | exited status output errors =>
    rw [Protoc.unitsOf, Protoc.unitsOf]
    split
    · exact mirrors.readUnits_eq g.suffix
    · rfl

end Mirrors

end Tool

end ProtoModules
