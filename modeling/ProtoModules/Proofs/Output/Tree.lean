import ProtoModules.Proofs.Output.Edit

/-! The tree after writing. In the output directory there are the files with the directories that they lie
in and nothing else, whatever was there before; outside of it nothing has changed but the root
module file and missing directories above the files. -/

namespace ProtoModules.OutputDirectory
open Disk Disk.Path

/-- The place of a directory that one of the files lies in, at any depth. -/
def IsAbove (o : OutputDirectory) (files : List EmittedFile) (q : Place) : Prop :=
  ∃ f ∈ files, q <+: (o.target f).names ∧ q ≠ (o.target f).names

variable {o : OutputDirectory} {d left : Disk} {files : List EmittedFile} {f : EmittedFile} {q : Place}
  {e : Entry} {paths : List Path}

theorem Replaced.get?_of_isAbove {before after : Disk} (replaced : o.Replaced files before after)
    (above : o.IsAbove files q) : after.get? q = some .directory := by
  obtain ⟨f, member, within, strict⟩ := above
  exact directory_of_above (replaced.written f member) within strict

theorem Replaced.get?_inside_iff {before after : Disk} (replaced : o.Replaced files before after)
    (inside : o.IsInside q) :
    after.get? q = some e ↔
      (∃ f ∈ files, q = (o.target f).names ∧ e = .file (encoded f)) ∨
        o.IsAbove files q ∧ e = .directory := by
  constructor
  · intro found
    by_cases above : ∃ f ∈ files, q <+: (o.target f).names
    · obtain ⟨f, member, within⟩ := above
      by_cases here : q = (o.target f).names
      · rw [here, replaced.written f member] at found
        exact .inl ⟨f, member, here, (Option.some.inj found).symm⟩
      · have within : o.IsAbove files q := ⟨f, member, within, here⟩
        rw [replaced.get?_of_isAbove within] at found
        exact .inr ⟨within, (Option.some.inj found).symm⟩
    · rw [replaced.emptied q inside.1 inside.2 (by simpa using above)] at found
      cases found
  · rintro (⟨f, member, rfl, rfl⟩ | ⟨above, rfl⟩)
    · exact replaced.written f member
    · exact replaced.get?_of_isAbove above

theorem keeps_of_write (plain : o.path.Plain) (present : o.path.names ≠ []) (fits : o.Fits files)
    (ran : o.write d files = (.ok paths, left)) :
    Keeps (fun q => o.IsInside q ∨ q = o.rootPlace ∧ o.rootPath ∈ files.map (·.path))
      (o.IsAbove files) d left := by
  have replaced := replaced_of_write plain present fits ran
  have clear : ∀ f ∈ files, d.Clear (o.target f).names := fun f member =>
    clear_target plain (fits.relative f member) (write_eq_ok_iff.1 ran).1 member
  have turns := turns_of_replaced replaced clear
  intro q
  rcases replacing_cases o files q with ⟨f, member, rfl, -⟩ | ⟨f, member, within, strict, edit⟩ |
    ⟨-, inside, -⟩ | ⟨-, -, edit⟩
  · rcases isInside_or_root present (fits.inside f member) with inside | root
    · exact .inr (.inl (.inl inside))
    · exact .inr (.inl (.inr ⟨names_target_of_root root, List.mem_map.2 ⟨f, member, root⟩⟩))
  · -- a directory that a file lies in is made if it is missing
    have directory := replaced.get?_of_isAbove ⟨f, member, within, strict⟩
    cases before : d.get? q with
    | none => exact .inr (.inr ⟨⟨f, member, within, strict⟩, rfl, directory⟩)
    | some e =>
      cases e with
      | directory => exact .inl directory
      | file content => exact absurd before ((clear f member).way q content within strict)
  · exact .inr (.inl (.inl inside))
  · exact .inl (by rw [turns.result q, edit, Option.getD_none])

/-- After writing, the directory holds the files with what they lie in and nothing else, the root module
file has its content, and all else is as before but for directories made above the files. -/
theorem tree_of_write (plain : o.path.Plain) (present : o.path.names ≠ []) (fits : o.Fits files)
    (ran : o.write d files = (.ok paths, left)) :
    (∀ q e, o.IsInside q → (left.get? q = some e ↔
      (∃ f ∈ files, q = (o.target f).names ∧ e = .file (encoded f)) ∨
        o.IsAbove files q ∧ e = .directory)) ∧
    (∀ f ∈ files, f.path = o.rootPath → left.get? o.rootPlace = some (.file (encoded f))) ∧
    (∀ q, o.IsAbove files q → left.get? q = some .directory) ∧
    Keeps (fun q => o.IsInside q ∨ q = o.rootPlace ∧ o.rootPath ∈ files.map (·.path))
      (o.IsAbove files) d left := by
  have replaced := replaced_of_write plain present fits ran
  refine ⟨fun q e => replaced.get?_inside_iff, fun f member root => ?_,
    fun q => replaced.get?_of_isAbove, keeps_of_write plain present fits ran⟩
  rw [← names_target_of_root root, replaced.written f member]

def overgrown : Disk := holding ["src/gen/x/y/z/old.rs", "src/gen/foo.rs", "src/lib.rs"]

theorem tree_of_overgrown : ∃ paths left,
    nested.path.Plain ∧ nested.path.names ≠ [] ∧ nested.Fits regrowth ∧
    nested.write overgrown regrowth = (.ok paths, left) ∧
    (∀ q e, nested.IsInside q → (left.get? q = some e ↔
      (∃ f ∈ regrowth, q = (nested.target f).names ∧ e = .file (encoded f)) ∨
        nested.IsAbove regrowth q ∧ e = .directory)) ∧
    (∀ f ∈ regrowth, f.path = nested.rootPath →
      left.get? nested.rootPlace = some (.file (encoded f))) ∧
    (∀ q, nested.IsAbove regrowth q → left.get? q = some .directory) ∧
    Keeps (fun q => nested.IsInside q ∨
        q = nested.rootPlace ∧ nested.rootPath ∈ regrowth.map (·.path))
      (nested.IsAbove regrowth) overgrown left := by
  have plain : nested.path.Plain := by decide +kernel
  have present : nested.path.names ≠ [] := by decide +kernel
  have fits : nested.Fits regrowth := by decide +kernel
  have free : nested.conflict? overgrown regrowth = none := by decide +kernel
  obtain ⟨left, ran⟩ := write_of_free plain fits.sideBySide free
  exact ⟨_, left, plain, present, fits, ran, tree_of_write plain present fits ran⟩

end ProtoModules.OutputDirectory
