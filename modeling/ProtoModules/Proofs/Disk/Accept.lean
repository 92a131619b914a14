import ProtoModules.Proofs.Disk.Effect

/-! What the disk does not refuse. A directory can be made where nothing is, and a file can be written
where no directory is, in a directory that is there; and a file that is there can be removed. -/

namespace ProtoModules.Disk
open Disk.Path

variable {d : Disk} {path : Path} {p : Place}

/-- No file stands on the way to a place. -/
def Open (d : Disk) (p : Place) : Prop := ∀ q content, q <+: p → d.get? q ≠ some (.file content)

theorem absence_of_open (free : d.Open p) : d.absence p = .missing := by
  rcases absence_cases d p with ⟨-, n, -, content, file⟩ | ⟨missing, -⟩
  · exact absurd file (free _ content (List.take_prefix n p))
  · exact missing

theorem exists_makeDirAt {name : Name} (none : d.get? (p ++ [name]) = none)
    (parent : d.get? p = some .directory) (named : isName name = true) :
    ∃ made, d.makeDirAt (p ++ [name]) = .ok made := by
  simp only [makeDirAt, none, List.dropLast_concat, parent, List.getLast_append_singleton, named,
    Option.isSome_none, Bool.false_eq_true, dite_false, dite_true]
  exact ⟨_, rfl⟩

theorem exists_writeAt {name : Name} (free : d.get? (p ++ [name]) ≠ some .directory)
    (parent : d.get? p = some .directory) (named : isName name = true) (content : ByteArray) :
    ∃ written, d.writeAt (p ++ [name]) content = .ok written := by
  simp only [writeAt, List.append_eq_nil_iff, List.cons_ne_nil, and_false, free,
    List.dropLast_concat, parent, List.getLast_append_singleton, named, dite_false, dite_true]
  exact ⟨_, rfl⟩

theorem exists_write (plain : path.Plain) (parent : d.get? path.names.dropLast = some .directory)
    (free : d.get? path.names ≠ some .directory) (content : ByteArray) :
    ∃ written, d.write path content = .ok written := by
  have below : path.names ≠ [] := by
    intro top
    rw [top, get?_nil] at free
    exact free rfl
  have named : isName (path.names.getLast below) = true := plain _ (List.getLast_mem below)
  rw [write, plain.locate]
  simp [bind, Except.bind, writeAt, below, free, parent, named, Except.mapError]

theorem exists_removeFile {content : ByteArray} (found : d.locate path = .ok p)
    (here : d.get? p = some (.file content)) :
    ∃ removed, d.removeFile path = .ok removed ∧
      ∀ q, removed.get? q = if q = p then none else d.get? q := by
  have gone : ∃ removed, d.removeFileAt p = .ok removed := by
    unfold removeFileAt
    split
    · rename_i none
      rw [here] at none
      cases none
    · rename_i directory
      rw [here] at directory
      cases directory
    · exact ⟨_, rfl⟩
  obtain ⟨removed, gone⟩ := gone
  exact ⟨removed, bind_mapError_eq_ok_iff.2 ⟨p, found, gone⟩, get?_of_removeFileAt gone⟩

end ProtoModules.Disk
