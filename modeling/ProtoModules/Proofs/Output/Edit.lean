import ProtoModules.Proofs.Output.Separate

/-! Writing as an edit of the disk. An edit says of some places what becomes of them, whatever they hold.
Replacing the content of a directory is one: it says something about the directory, the root
module file and the directories on the way to them. Of the latter two edits for separate
directories say the same, so they can be made in either order. -/

namespace ProtoModules

namespace Disk

/-- What becomes of the places; nothing is said of those that stay as they are. -/
def Edit := Place → Option (Option Entry)

namespace Edit

def idle : Edit := fun _ => none

def Agree (e e' : Edit) : Prop := ∀ q, e q = none ∨ e' q = none ∨ e q = e' q

/-- The second disk is the first one edited, and no directory has come in place of a file. -/
structure Turns (e : Edit) (d d' : Disk) : Prop where
  result : ∀ q, d'.get? q = (e q).getD (d.get? q)
  noFile : ∀ q content, d.get? q = some (.file content) → e q ≠ some (some .directory)

variable {e e' : Edit} {d : Disk}

theorem turns_idle (d : Disk) : idle.Turns d d := ⟨fun _ => rfl, nofun⟩

theorem alike_of_agree (agree : e.Agree e') {d₁ d₂ d₁₂ d₂₁ : Disk} (first : e.Turns d d₁)
    (second : e'.Turns d₁ d₁₂) (other : e'.Turns d d₂) (last : e.Turns d₂ d₂₁) :
    Alike d₁₂ d₂₁ := by
  intro q
  rw [second.result, first.result, last.result, other.result]
  rcases agree q with none | none | same
  · rw [none, Option.getD_none, Option.getD_none]
  · rw [none, Option.getD_none, Option.getD_none]
  · rw [same]

end Edit

end Disk

namespace OutputDirectory
open Disk Disk.Path

def replacing (o : OutputDirectory) (files : List EmittedFile) : Edit := fun q =>
  match files.find? fun f => (o.target f).names = q with
  | some f => some (some (.file (encoded f)))
  | none =>
    if ∃ f ∈ files, q <+: (o.target f).names then some (some .directory)
    else if o.path.names <+: q ∧ q ≠ o.path.names then some none
    else none

variable {o o' : OutputDirectory} {d d' : Disk} {files files' : List EmittedFile} {q : Place}
  {e e' : Edit}

theorem replacing_cases (o : OutputDirectory) (files : List EmittedFile) (q : Place) :
    (∃ f ∈ files, q = (o.target f).names ∧
      o.replacing files q = some (some (.file (encoded f)))) ∨
    (∃ f ∈ files, q <+: (o.target f).names ∧ q ≠ (o.target f).names ∧
      o.replacing files q = some (some .directory)) ∨
    ((∀ f ∈ files, ¬ q <+: (o.target f).names) ∧ (o.path.names <+: q ∧ q ≠ o.path.names) ∧
      o.replacing files q = some none) ∨
    ((∀ f ∈ files, ¬ q <+: (o.target f).names) ∧ ¬ (o.path.names <+: q ∧ q ≠ o.path.names) ∧
      o.replacing files q = none) := by
  rw [replacing]
  cases found : files.find? fun f => (o.target f).names = q with
  | some f =>
    have here : (o.target f).names = q := by simpa using List.find?_some found
    exact .inl ⟨f, List.mem_of_find?_eq_some found, here.symm, rfl⟩
  | none =>
    have notHere : ∀ f ∈ files, (o.target f).names ≠ q := by
      simpa using List.find?_eq_none.1 found
    dsimp only
    by_cases above : ∃ f ∈ files, q <+: (o.target f).names
    · rw [if_pos above]
      obtain ⟨f, member, within⟩ := above
      exact .inr (.inl ⟨f, member, within, (notHere f member).symm, rfl⟩)
    · rw [if_neg above]
      have apart : ∀ f ∈ files, ¬ q <+: (o.target f).names := fun f member within =>
        above ⟨f, member, within⟩
      by_cases below : o.path.names <+: q ∧ q ≠ o.path.names
      · exact .inr (.inr (.inl ⟨apart, below, if_pos below⟩))
      · exact .inr (.inr (.inr ⟨apart, below, if_neg below⟩))

theorem turns_of_replaced (replaced : o.Replaced files d d')
    (clear : ∀ f ∈ files, d.Clear (o.target f).names) : (o.replacing files).Turns d d' := by
  constructor
  · intro q
    rcases replacing_cases o files q with ⟨f, member, rfl, edit⟩ | ⟨f, member, above, strict, edit⟩ |
      ⟨apart, below, edit⟩ | ⟨apart, outside, edit⟩
    · rw [edit, replaced.written f member, Option.getD_some]
    · rw [edit, directory_of_above (replaced.written f member) above strict, Option.getD_some]
    · rw [edit, replaced.emptied q below.1 below.2 apart, Option.getD_some]
    · rw [edit, replaced.kept q outside apart, Option.getD_none]
  · intro q content file directory
    rcases replacing_cases o files q with ⟨f, _, _, edit⟩ | ⟨f, member, above, strict, _⟩ |
      ⟨-, -, edit⟩ | ⟨-, -, edit⟩
    · cases edit.symm.trans directory
    · exact (clear f member).way q content above strict file
    · cases edit.symm.trans directory
    · cases edit.symm.trans directory

/-- Nothing is done, or files that fit the directory replace its content. -/
def Edits (o : OutputDirectory) (e : Edit) : Prop :=
  e = Edit.idle ∨ o.path.Plain ∧ ∃ files, o.Fits files ∧ e = o.replacing files

section owns

variable (present : o.path.names ≠ []) (fits : o.Fits files)

include present fits

theorem exists_owned (edited : o.replacing files q ≠ none) : ∃ names, o.Owns names ∧ q <+: names := by
  have owns : ∀ f ∈ files, o.Owns (o.target f).names := fun f member =>
    owns_target present (fits.relative f member) (fits.inside f member)
  rcases replacing_cases o files q with ⟨f, member, rfl, -⟩ | ⟨f, member, above, -, -⟩ |
    ⟨-, below, -⟩ | ⟨-, -, none⟩
  · exact ⟨_, owns f member, List.prefix_rfl⟩
  · exact ⟨_, owns f member, above⟩
  · exact ⟨q, .inl below.1, List.prefix_rfl⟩
  · exact absurd none edited

theorem replacing_of_not_owns (foreign : ¬ o.Owns q) :
    o.replacing files q = none ∨ o.replacing files q = some (some .directory) := by
  rcases replacing_cases o files q with ⟨f, member, rfl, -⟩ | ⟨f, member, -, -, edit⟩ |
    ⟨-, below, -⟩ | ⟨-, -, none⟩
  · exact absurd (owns_target present (fits.relative f member) (fits.inside f member)) foreign
  · exact .inr edit
  · exact absurd (.inl below.1) foreign
  · exact .inl none

end owns

theorem replacing_of_foreign (present : o.path.names ≠ []) (fits : o.Fits files)
    (apart : o'.Apart o) (foreign : o'.Owns q) :
    o.replacing files q = none := by
  by_contra edited
  obtain ⟨names, owned, within⟩ := exists_owned present fits edited
  exact (apart q names foreign owned).1 within

theorem agree_of_apart (present : o.path.names ≠ []) (present' : o'.path.names ≠ [])
    (apart : o.Apart o') (first : o.Edits e) (second : o'.Edits e') : e.Agree e' := by
  intro q
  rcases first with rfl | ⟨plain, files, fits, rfl⟩
  · exact .inl rfl
  rcases second with rfl | ⟨plain', files', fits', rfl⟩
  · exact .inr (.inl rfl)
  by_cases own : o.Owns q
  · exact .inr (.inl (replacing_of_foreign present' fits' apart own))
  by_cases own' : o'.Owns q
  · exact .inl (replacing_of_foreign present fits apart.symm own')
  rcases replacing_of_not_owns present fits own with none | directory
  · exact .inl none
  rcases replacing_of_not_owns present' fits' own' with none | directory'
  · exact .inr (.inl none)
  · exact .inr (.inr (directory.trans directory'.symm))

theorem undisturbed_of_apart (present' : o'.path.names ≠ [])
    (apart : o.Apart o') (edits : o'.Edits e) (turns : e.Turns d d') : o.Undisturbed d d' := by
  rcases edits with rfl | ⟨plain', files, fits, rfl⟩
  · exact ⟨fun q _ => turns.result q, fun q content _ => by rw [turns.result q]; rfl⟩
  constructor
  · intro q own
    rw [turns.result, replacing_of_foreign present' fits apart own, Option.getD_none]
  · intro q content above
    have foreign : ¬ o'.Owns q := fun own => (apart o.path.names q (.inl List.prefix_rfl) own).2 above
    rcases replacing_of_not_owns present' fits foreign with none | directory
    · rw [turns.result, none, Option.getD_none]
    · rw [turns.result, directory, Option.getD_some]
      exact iff_of_false (by simp) fun file => turns.noFile q content file directory

end OutputDirectory

end ProtoModules
