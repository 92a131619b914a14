import ProtoModules.Proofs.Disk.Frame

/-! Growing disks. Making directories and writing files takes nothing away: a directory stays a directory and
a file stays a file, though perhaps with other content. So a path that leads somewhere still
leads there afterwards. -/

namespace ProtoModules.Disk
open Disk.Path

/-- What is on the first disk is on the second one, as the same kind of thing. -/
structure Grows (d d' : Disk) : Prop where
  directory : ∀ q, d.get? q = some .directory → d'.get? q = some .directory
  file : ∀ q content, d.get? q = some (.file content) → ∃ now, d'.get? q = some (.file now)

variable {d d' made written : Disk} {path : Path} {p : Place} {content : ByteArray}

namespace Grows

theorem refl (d : Disk) : Grows d d := ⟨fun _ here => here, fun _ content here => ⟨content, here⟩⟩

theorem trans {d'' : Disk} (first : Grows d d') (second : Grows d' d'') : Grows d d'' where
  directory q here := second.directory q (first.directory q here)
  file q content here :=
    have ⟨now, still⟩ := first.file q content here
    second.file q now still

theorem locate (grows : Grows d d') (found : d.locate path = .ok p) : d'.locate path = .ok p :=
  locate_of_directories (fun begun _ => grows.directory (placeFrom [] begun)) found

end Grows

theorem grows_of_keeps {added : Place → Prop} (keeps : Keeps Nowhere added d d') : Grows d d' where
  directory _ here := keeps.get?_eq_some here id
  file _ content here := ⟨content, keeps.get?_eq_some here id⟩

theorem grows_makeDirs (ran : d.makeDirs path = (made, none)) : Grows d made := by
  have keeps := grows_of_keeps (keeps_makeDirs d path)
  rwa [ran] at keeps

theorem free_of_writeAt (ran : d.writeAt p content = .ok written) : d.get? p ≠ some .directory := by
  intro directory
  simp only [writeAt, directory] at ran
  split at ran <;> cases ran

theorem exists_place_of_write (ran : d.write path content = .ok written) :
    ∃ p, d.locate path = .ok p ∧ d.get? p ≠ some .directory ∧
      ∀ q, written.get? q = if q = p then some (.file content) else d.get? q := by
  obtain ⟨p, found, new⟩ := bind_mapError_eq_ok_iff.1 ran
  exact ⟨p, found, free_of_writeAt new, (get?_of_writeAt new).2⟩

theorem grows_write (ran : d.write path content = .ok written) : Grows d written := by
  obtain ⟨p, -, free, result⟩ := exists_place_of_write ran
  constructor
  · intro q here
    have differ : q ≠ p := by
      rintro rfl
      exact free here
    rw [result, if_neg differ, here]
  · intro q old here
    by_cases same : q = p
    · exact ⟨content, by rw [result, if_pos same]⟩
    · exact ⟨old, by rw [result, if_neg same, here]⟩

theorem grows_store (d : Disk) (path : Path) (e : Entry) : Grows d (d.store path e) := by
  cases e with
  | directory => exact grows_of_keeps (keeps_makeDirs d path)
  | file content =>
    have dirs : Grows d (d.makeDirs path.parent).1 := grows_of_keeps (keeps_makeDirs d path.parent)
    rw [store]
    split
    · rename_i written new
      exact dirs.trans (grows_write new)
    · exact dirs

theorem read_of_write (ran : d.write path content = .ok written) :
    written.read path = .ok content := by
  obtain ⟨p, found, -, result⟩ := exists_place_of_write ran
  have there : written.access path = .ok (.file content) :=
    access_eq_ok_iff.2 ⟨p, (grows_write ran).locate found, by rw [result, if_pos rfl]⟩
  rw [Disk.read, there]

end ProtoModules.Disk
