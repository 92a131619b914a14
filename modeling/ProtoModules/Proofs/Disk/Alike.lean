import ProtoModules.Proofs.Disk.Effect

/-! Disks with the same tree. Every look at a disk goes through its places, so disks that hold the same at
every place cannot be told apart. Making a directory that is there and writing a file that is
there with its content leave such a disk, for any path that leads there. -/

namespace ProtoModules.Disk
open Disk.Path

/-- The same tree: the same files and directories, whatever the order they were made in. -/
def Alike (d d' : Disk) : Prop := ∀ q, d.get? q = d'.get? q

variable {d d' made : Disk} {path : Path} {p q : Place} {content : ByteArray}

namespace Alike

theorem refl (d : Disk) : Alike d d := fun _ => rfl

theorem symm (same : Alike d d') : Alike d' d := fun q => (same q).symm

theorem trans {d'' : Disk} (first : Alike d d') (second : Alike d' d'') : Alike d d'' :=
  fun q => (first q).trans (second q)

theorem absence_eq (same : Alike d d') (p : Place) : d.absence p = d'.absence p := by
  simp only [absence, same _]

theorem follow_eq (same : Alike d d') (here : Place) (names : List Name) :
    d.follow here names = d'.follow here names := by
  induction names generalizing here with
  | nil => rfl
  | cons name rest ih => simp only [follow, ih, same _, same.absence_eq]

theorem locate_eq (same : Alike d d') (path : Path) : d.locate path = d'.locate path := by
  rw [locate, locate, same.follow_eq]

theorem access_eq (same : Alike d d') (path : Path) : d.access path = d'.access path := by
  simp only [access, same.locate_eq, same _, same.absence_eq]

theorem isHollow_eq (same : Alike d d') (out p : Place) : d.isHollow out p = d'.isHollow out p := by
  rw [Bool.eq_iff_iff, isHollow_iff, isHollow_iff]
  simp only [same _]

end Alike

theorem hasDirectory_eq_true_iff :
    d.hasDirectory path = true ↔ ∃ p, d.locate path = .ok p ∧ d.get? p = some .directory := by
  rw [← access_eq_ok_iff, hasDirectory]
  split
  · simp_all
  · rename_i other
    simp only [Bool.false_eq_true, false_iff]
    exact other

theorem hasDirectory_parent (file : d.access path = .ok (.file content)) :
    d.hasDirectory path.parent = true := by
  obtain ⟨p, found, here⟩ := access_eq_ok_iff.1 file
  obtain ⟨root, names⟩ := path
  rw [hasDirectory_eq_true_iff]
  rw [locate] at found
  dsimp only at found
  rcases List.eq_nil_or_concat' names with rfl | ⟨above, name, rfl⟩
  · cases found
    rw [get?_nil] at here
    cases here
  · rw [follow_append] at found
    cases way : d.follow [] above with
    | error fault =>
      rw [way] at found
      cases found
    | ok mid =>
      refine ⟨mid, by simp [parent, locate, way], ?_⟩
      rw [way] at found
      simp only [bind, Except.bind, follow] at found
      split at found
      · -- a step up leads to a directory, not to a file
        split at found
        · rename_i directory
          cases found
          exact directory
        · cases found
        · cases found
      · cases found
        simpa using get?_dropLast here (by simp)

theorem makeDir_of_directory (there : d.hasDirectory path = true) :
    d.makeDir path = .error .alreadyThere := by
  obtain ⟨p, found, here⟩ := hasDirectory_eq_true_iff.1 there
  rw [makeDir, found]
  simp [bind, Except.bind, makeDirAt, here]

theorem makeDirs_of_directory (there : d.hasDirectory path = true) :
    d.makeDirs path = (d, none) := by
  obtain ⟨root, names⟩ := path
  have refused := makeDir_of_directory there
  rw [makeDirs]
  cases up : names.reverse with
  | nil =>
    obtain rfl : names = [] := List.reverse_eq_nil_iff.1 up
    rw [makeDirsUp, ensureDir, refused]
    simp [there]
  | cons name above =>
    obtain rfl : names = (name :: above).reverse := by rw [← up, List.reverse_reverse]
    rw [makeDirsUp, refused]
    simp only [there, if_true]

theorem write_of_file (file : d.access path = .ok (.file content)) :
    ∃ written, d.write path content = .ok written ∧ Alike written d := by
  obtain ⟨p, found, here⟩ := access_eq_ok_iff.1 file
  have below : p ≠ [] := by
    rintro rfl
    rw [get?_nil] at here
    cases here
  have parent : d.get? p.dropLast = some .directory := get?_dropLast here below
  have named : isName (p.getLast below) = true := isName_of_get? here _ (List.getLast_mem below)
  have written : ∃ written, d.writeAt p content = .ok written := by
    simp [writeAt, below, here, parent, named]
  obtain ⟨written, new⟩ := written
  refine ⟨written, bind_mapError_eq_ok_iff.2 ⟨p, found, new⟩, fun q => ?_⟩
  rw [(get?_of_writeAt new).2]
  split
  · rename_i same
    rw [same, here]
  · rfl

end ProtoModules.Disk
