import ProtoModules.Proofs.Disk.Alike
import ProtoModules.Proofs.Output.Compare

/-! Writing files that are all there. If nothing differs, for whatever path the output directory has, writing
is granted and leaves every file and every directory as it is, but for the directories below the
output directory that hold no file: these are left over from before and are taken away. -/

namespace ProtoModules.OutputDirectory
open Disk Disk.Path

variable {o : OutputDirectory} {d : Disk} {files : List EmittedFile} {f : EmittedFile}

theorem access_of_same (same : o.diff d files = .ok {}) (member : f ∈ files) :
    d.access (o.target f) = .ok (.file (encoded f)) := by
  obtain ⟨free, empty⟩ := diff_eq_ok_iff.1 same
  have there : d.hasEntry (o.target f) = true := by
    have added : ∀ f ∈ files, d.hasEntry (o.target f) = true := by
      simpa using congrArg Report.added empty
    exact added f member
  have unchanged : o.isChanged d f = false := by
    have changed : ∀ f ∈ files, o.isChanged d f = true → d.hasEntry (o.target f) = false := by
      simpa using congrArg Report.changed empty
    by_contra differs
    rw [Bool.not_eq_false] at differs
    rw [changed f member differs] at there
    cases there
  have file : d.hasFile (o.target f) = true := by
    have open? := (conflict?_none_iff.1 free).2 f member
    by_contra other
    rw [Bool.not_eq_true] at other
    rw [fileConflict?, if_pos (by rw [there, other]; rfl)] at open?
    cases open?
  rw [hasFile] at file
  split at file
  · rename_i content found
    simp only [isChanged, Disk.read, found, bytes_bne_eq_false_iff] at unchanged
    rw [found, unchanged]
  · cases file

theorem writeFiles_of_standing
    (standing : ∀ f ∈ files, d.access (o.target f) = .ok (.file (encoded f))) :
    ∃ written, o.writeFiles d files = (written, none) ∧ Alike written d := by
  induction files generalizing d with
  | nil => exact ⟨d, rfl, .refl d⟩
  | cons f rest ih =>
    have file := standing f List.mem_cons_self
    have dirs := makeDirs_of_directory (hasDirectory_parent file)
    obtain ⟨next, wrote, alike⟩ := write_of_file file
    have still : ∀ g ∈ rest, next.access (o.target g) = .ok (.file (encoded g)) := by
      intro g member
      rw [alike.access_eq, standing g (List.mem_cons_of_mem _ member)]
    obtain ⟨written, ran, same⟩ := ih still
    refine ⟨written, ?_, same.trans alike⟩
    simp only [writeFiles, dirs, wrote, ran]

theorem IsLeftover.of_alike {d' : Disk} (alike : Alike d d') {q : Place}
    (leftover : o.IsLeftover d q) : o.IsLeftover d' q := by
  obtain ⟨out, found, hollow⟩ := leftover
  exact ⟨out, by rw [← alike.locate_eq, found], by rw [← alike.isHollow_eq, hollow]⟩

theorem write_of_same (direct : o.path.Direct) (same : o.diff d files = .ok {}) :
    ∃ paths left, o.write d files = (.ok paths, left) ∧
      (∀ q, o.IsLeftover d q → left.get? q = none) ∧
      ∀ q, ¬ o.IsLeftover d q → left.get? q = d.get? q := by
  obtain ⟨free, empty⟩ := diff_eq_ok_iff.1 same
  have noneStale : o.stale d files = [] := by simpa using congrArg Report.removed empty
  obtain ⟨written, wrote, alike⟩ := writeFiles_of_standing fun f member =>
    access_of_same same member
  obtain ⟨left, pruned, gone, kept⟩ := exists_pruned direct written
  refine ⟨_, left,
    write_eq_ok_iff.2 ⟨free, written, written, wrote, by rw [noneStale]; rfl, pruned, rfl⟩,
    fun q leftover => gone q (leftover.of_alike alike.symm), fun q used => ?_⟩
  rw [kept q fun leftover => used (leftover.of_alike alike), alike q]

end ProtoModules.OutputDirectory
