import ProtoModules.Proofs.Output.Finished
import ProtoModules.Proofs.Output.Separate

/-! The look for conflicts is exact. It finds something exactly if a directory stands where a file is to go
or a file where a directory is needed; then nothing is touched, and otherwise nothing that is done
afterwards is refused. -/

namespace ProtoModules

structure Disk.IsNearest (d : Disk) (p q : Place) : Prop where
  above : q <+: p
  strict : q ≠ p
  there : d.get? q ≠ none
  last : ∀ r, r <+: p → r ≠ p → d.get? r ≠ none → r <+: q

/-- What stands at the path of a conflict is not of the kind that is expected there. -/
def Conflict.Stands (c : Conflict) (d : Disk) : Prop :=
  match c.expected with
  | .file => d.get? c.path.names = some .directory
  | .directory => ∃ content, d.get? c.path.names = some (.file content)

namespace OutputDirectory
open Disk Disk.Path

inductive Obstructed (o : OutputDirectory) (files : List EmittedFile) (d : Disk) : Prop where
  | target (f : EmittedFile) (member : f ∈ files) (here : d.get? (o.target f).names = some .directory)
  | above (f : EmittedFile) (member : f ∈ files) (q : Place) (content : ByteArray)
      (within : q <+: (o.target f).names) (strict : q ≠ (o.target f).names)
      (file : d.get? q = some (.file content))
  | output (content : ByteArray) (file : d.get? o.path.names = some (.file content))
  | ancestor (q : Place) (content : ByteArray) (nearest : d.IsNearest o.path.names q)
      (file : d.get? q = some (.file content))

variable {o : OutputDirectory} {d left : Disk} {files : List EmittedFile} {f : EmittedFile}
  {path : Path} {q : Place} {c : Conflict} {content : ByteArray}

theorem isNearest_of_file {p : Place} (above : q <+: p) (strict : q ≠ p)
    (file : d.get? q = some (.file content)) : d.IsNearest p q := by
  refine ⟨above, strict, by simp [file], fun r within _ there => ?_⟩
  rcases List.prefix_or_prefix_of_prefix within above with short | long
  · exact short
  · by_cases same : q = r
    · exact same ▸ List.prefix_rfl
    · obtain ⟨e, found⟩ := Option.ne_none_iff_exists'.1 there
      rw [directory_of_above found long same] at file
      cases file

section plain

variable (plain : o.path.Plain) (good : ∀ f ∈ files, f.path.Relative)

include plain good

theorem conflict?_eq_none_of_unobstructed (free : ¬ o.Obstructed files d) :
    o.conflict? d files = none := by
  refine (conflict?_eq_none_iff plain).2 ⟨fun q content within file => ?_, fun f member => ?_⟩
  · by_cases here : q = o.path.names
    · exact free (.output content (here ▸ file))
    · exact free (.ancestor q content (isNearest_of_file within here file) file)
  · refine (fileConflict?_eq_none_iff plain (good f member)).2
      ⟨fun here => free (.target f member here), fun names within strict _ content file => ?_⟩
    refine free (.above f member _ content ?_ ?_ file)
    · rw [names_target (good f member), List.prefix_append_right_inj]
      exact within
    · rw [names_target (good f member), ne_eq, List.append_cancel_left_eq]
      exact strict

theorem not_obstructed_of_free (free : o.conflict? d files = none) : ¬ o.Obstructed files d := by
  obtain ⟨outside, -⟩ := (conflict?_eq_none_iff plain).1 free
  rintro (⟨f, member, here⟩ | ⟨f, member, q, content, within, strict, file⟩ | ⟨content, file⟩ |
    ⟨q, content, nearest, file⟩)
  · exact (clear_target plain (good f member) free member).free here
  · exact (clear_target plain (good f member) free member).way q content within strict file
  · exact outside _ content List.prefix_rfl file
  · exact outside q content nearest.above file

theorem exists_conflict_iff : (∃ c, o.conflict? d files = some c) ↔ o.Obstructed files d := by
  constructor
  · rintro ⟨c, found⟩
    by_contra free
    rw [conflict?_eq_none_of_unobstructed plain good free] at found
    cases found
  · intro obstructed
    cases found : o.conflict? d files with
    | none => exact absurd obstructed (not_obstructed_of_free plain good found)
    | some c => exact ⟨c, rfl⟩

omit plain good in
theorem stands_of_ancestorConflict? {paths : List Path} (each : ∀ path ∈ paths, path.Plain)
    (found : ancestorConflict? d paths = some c) : c.Stands d := by
  induction paths with
  | nil => cases found
  | cons path rest ih =>
    rw [ancestorConflict?_cons (each path List.mem_cons_self)] at found
    split at found
    · exact ih (fun other member => each other (List.mem_cons_of_mem _ member)) found
    · cases found
    · rename_i content file
      cases found
      exact ⟨content, file⟩

theorem stands_of_fileConflict? (member : f ∈ files) (found : o.fileConflict? d f = some c) :
    c.Stands d := by
  have target := plain_target plain (good f member)
  rw [fileConflict?] at found
  split at found
  · rename_i blocked
    cases found
    exact (standsDirectory_iff target).1 blocked
  · obtain ⟨directory, listed, blocked⟩ := List.exists_of_findSome?_eq_some found
    obtain ⟨parent, kept, rfl⟩ := List.mem_map.1 listed
    obtain ⟨names, within, -, rfl⟩ := mem_parents_iff.1 (List.mem_filter.1 kept).1
    split at blocked
    · rename_i stands
      cases blocked
      exact (standsFile_iff ((plain_base plain).join ((good f member).of_above within).plain)).1 stands
    · cases blocked

theorem stands_of_conflict? (found : o.conflict? d files = some c) : c.Stands d := by
  rw [conflict?] at found
  cases outside : ancestorConflict? d (o.path :: o.path.parents) with
  | some other =>
    rw [outside] at found
    cases found
    refine stands_of_ancestorConflict? (List.forall_mem_cons.2 ⟨plain, fun path member => ?_⟩) outside
    obtain ⟨names, within, -, rfl⟩ := mem_parents_iff.1 member
    exact plain.of_above within
  | none =>
    rw [outside] at found
    obtain ⟨f, member, found⟩ := List.exists_of_findSome?_eq_some found
    exact stands_of_fileConflict? plain good member found

end plain

theorem diff_eq_error_iff : o.diff d files = .error c ↔ o.conflict? d files = some c := by
  rw [diff]
  cases o.conflict? d files <;> simp

theorem write_eq_conflict_iff :
    o.write d files = (.error (.conflict c), left) ↔ o.conflict? d files = some c ∧ left = d := by
  rw [write]
  constructor
  · intro ran
    split at ran
    · rename_i found
      cases ran
      exact ⟨found, rfl⟩
    · split at ran
      · cases ran
      · split at ran
        · cases ran
        · split at ran <;> cases ran
  · rintro ⟨found, rfl⟩
    rw [found]

/-- Writing and comparing end in a conflict exactly if something of the wrong kind stands where the files
are to go. Then nothing is changed and the conflict names such a thing; otherwise writing succeeds. -/
theorem outcome_of_write (plain : o.path.Plain) (fits : o.Fits files) :
    ((∃ c left, o.write d files = (.error (.conflict c), left)) ↔ o.Obstructed files d) ∧
    ((∃ c, o.diff d files = .error c) ↔ o.Obstructed files d) ∧
    (∀ c left, o.write d files = (.error (.conflict c), left) →
      left = d ∧ o.diff d files = .error c ∧ c.Stands d) ∧
    (¬ o.Obstructed files d → ∃ left, o.write d files = (.ok (files.map o.target), left)) := by
  have conflict_iff := exists_conflict_iff (d := d) plain fits.relative
  refine ⟨?_, ?_, fun c left ran => ?_, fun free => ?_⟩
  · simpa only [write_eq_conflict_iff, exists_eq_right, exists_and_left] using conflict_iff
  · simpa only [diff_eq_error_iff] using conflict_iff
  · obtain ⟨found, same⟩ := write_eq_conflict_iff.1 ran
    exact ⟨same, diff_eq_error_iff.2 found, stands_of_conflict? plain fits.relative found⟩
  · exact write_of_free plain fits.sideBySide
      (conflict?_eq_none_of_unobstructed plain fits.relative free)

def blocked : Disk := holding ["src/gen/x", "src/gen/old.rs"]

theorem outcome_of_blocked : nested.path.Plain ∧ nested.Fits regrowth ∧
    ((∃ c left, nested.write blocked regrowth = (.error (.conflict c), left)) ↔
      nested.Obstructed regrowth blocked) ∧
    ((∃ c, nested.diff blocked regrowth = .error c) ↔ nested.Obstructed regrowth blocked) ∧
    (∀ c left, nested.write blocked regrowth = (.error (.conflict c), left) →
      left = blocked ∧ nested.diff blocked regrowth = .error c ∧ c.Stands blocked) ∧
    (¬ nested.Obstructed regrowth blocked →
      ∃ left, nested.write blocked regrowth = (.ok (regrowth.map nested.target), left)) := by
  have plain : nested.path.Plain := by decide +kernel
  have fits : nested.Fits regrowth := by decide +kernel
  exact ⟨plain, fits, outcome_of_write plain fits⟩

end OutputDirectory

end ProtoModules
