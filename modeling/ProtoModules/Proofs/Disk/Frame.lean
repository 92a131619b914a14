import ProtoModules.Proofs.Disk.Effect

/-! What the operations leave alone, for any path, also one with steps up in it. The place of such a path
can be told from its names; an operation changes nothing but the place of its path, and making
directories adds directories on the way there, whether it succeeds or not. -/

namespace ProtoModules.Disk
open Disk.Path

/-- The place that names lead to, if every directory that is stepped up from is there. -/
def placeFrom (here : Place) : List Name → Place
  | [] => here
  | name :: rest =>
    if name = upward then placeFrom here.dropLast rest else placeFrom (here ++ [name]) rest

def Path.place (path : Path) : Place := placeFrom [] path.names

variable {d made written removed : Disk} {path : Path} {p q : Place}

theorem placeFrom_append (here : Place) (first second : List Name) :
    placeFrom here (first ++ second) = placeFrom (placeFrom here first) second := by
  induction first generalizing here with
  | nil => rfl
  | cons name rest ih =>
    by_cases up : name = upward
    · simp [placeFrom, up, ih]
    · simp [placeFrom, up, ih]

theorem placeFrom_of_level {names : List Name} (level : upward ∉ names) (here : Place) :
    placeFrom here names = here ++ names := by
  induction names generalizing here with
  | nil => simp [placeFrom]
  | cons name rest ih =>
    simp only [List.mem_cons, not_or] at level
    simp [placeFrom, Ne.symm level.1, ih level.2]

theorem eq_placeFrom_of_follow {names : List Name} {here : Place}
    (found : d.follow here names = .ok p) : p = placeFrom here names := by
  induction names generalizing here with
  | nil => exact (Except.ok.inj found).symm
  | cons name rest ih =>
    rw [follow] at found
    by_cases up : name = upward
    · rw [if_pos up] at found
      rw [placeFrom, if_pos up]
      split at found
      · exact ih found
      · cases found
      · cases found
    · rw [if_neg up] at found
      rw [placeFrom, if_neg up]
      exact ih found

theorem place_of_locate (found : d.locate path = .ok p) : path.place = p :=
  (eq_placeFrom_of_follow found).symm

theorem Path.Plain.place_eq (plain : path.Plain) : path.place = path.names := by
  rw [Path.place, placeFrom_of_level plain.upward_notMem, List.nil_append]

theorem place_append {root : List Char} {names behind : List Name} (level : upward ∉ behind) :
    Path.place ⟨root, names ++ behind⟩ = Path.place ⟨root, names⟩ ++ behind := by
  simp only [Path.place, placeFrom_append, placeFrom_of_level level]

theorem follow_of_directories {d' : Disk} {names : List Name} {here : Place}
    (still : ∀ begun, begun <+: names → d.get? (placeFrom here begun) = some .directory →
      d'.get? (placeFrom here begun) = some .directory)
    (found : d.follow here names = .ok p) : d'.follow here names = .ok p := by
  induction names generalizing here with
  | nil => exact found
  | cons name rest ih =>
    have later : ∀ begun, begun <+: rest →
        d.get? (placeFrom here (name :: begun)) = some .directory →
        d'.get? (placeFrom here (name :: begun)) = some .directory :=
      fun begun within => still _ (List.cons_prefix_cons.2 ⟨rfl, within⟩)
    rw [follow] at found ⊢
    by_cases up : name = upward
    · simp only [placeFrom, if_pos up] at later
      rw [if_pos up] at found ⊢
      split at found
      · rename_i directory
        have here' : d'.get? here = some .directory := still [] List.nil_prefix directory
        rw [here']
        exact ih later found
      · cases found
      · cases found
    · simp only [placeFrom, if_neg up] at later
      rw [if_neg up] at found ⊢
      exact ih later found

theorem locate_of_directories {d' : Disk}
    (still : ∀ begun, begun <+: path.names → d.get? (placeFrom [] begun) = some .directory →
      d'.get? (placeFrom [] begun) = some .directory)
    (found : d.locate path = .ok p) : d'.locate path = .ok p :=
  follow_of_directories still found

theorem locate_append {root : List Char} {names behind : List Name} (level : upward ∉ behind)
    (found : d.locate ⟨root, names⟩ = .ok p) : d.locate ⟨root, names ++ behind⟩ = .ok (p ++ behind) := by
  rw [locate] at found ⊢
  dsimp only at found ⊢
  rw [follow_append, found]
  exact follow_eq level p

theorem directory_of_follow {names : List Name} {here : Place} (found : d.follow here names = .ok p)
    (last : d.get? p = some .directory) : d.get? here = some .directory := by
  induction names generalizing here with
  | nil =>
    obtain rfl := Except.ok.inj found
    exact last
  | cons name rest ih =>
    rw [follow] at found
    split at found
    · split at found
      · assumption
      · cases found
      · cases found
    · simpa using get?_dropLast (ih found) (by simp)

/-- All places are as they were but for those that are changed, and new directories among those that
are added. -/
def Keeps (changed added : Place → Prop) (before after : Disk) : Prop :=
  ∀ q, after.get? q = before.get? q ∨ changed q ∨
    (added q ∧ before.get? q = none ∧ after.get? q = some .directory)

namespace Keeps

variable {changed added : Place → Prop} {before mid after : Disk}

theorem refl (d : Disk) : Keeps changed added d d := fun _ => .inl rfl

theorem trans (first : Keeps changed added before mid) (second : Keeps changed added mid after) :
    Keeps changed added before after := by
  intro q
  rcases first q with same | own | ⟨new, none, directory⟩
  · rcases second q with later | own | ⟨new, none, directory⟩
    · exact .inl (later.trans same)
    · exact .inr (.inl own)
    · exact .inr (.inr ⟨new, same ▸ none, directory⟩)
  · exact .inr (.inl own)
  · rcases second q with later | own | ⟨-, again, -⟩
    · exact .inr (.inr ⟨new, none, later.trans directory⟩)
    · exact .inr (.inl own)
    · rw [directory] at again
      cases again

theorem mono {changed' added' : Place → Prop} (keeps : Keeps changed added before after)
    (changes : ∀ q, changed q → changed' q) (adds : ∀ q, added q → changed' q ∨ added' q) :
    Keeps changed' added' before after := by
  intro q
  rcases keeps q with same | own | ⟨new, none, directory⟩
  · exact .inl same
  · exact .inr (.inl (changes q own))
  · rcases adds q new with own | way
    · exact .inr (.inl own)
    · exact .inr (.inr ⟨way, none, directory⟩)

theorem get?_eq_some (keeps : Keeps changed added before after) {e : Entry}
    (here : before.get? q = some e) (apart : ¬ changed q) : after.get? q = some e := by
  rcases keeps q with same | own | ⟨-, none, -⟩
  · rw [same, here]
  · exact absurd own apart
  · rw [here] at none
    cases none

end Keeps

/-- The places of a path and of the paths that it begins with. -/
def OnWay (path : Path) (q : Place) : Prop :=
  ∃ names, names <+: path.names ∧ placeFrom [] names = q

theorem Path.Plain.prefix_of_onWay (plain : path.Plain) (way : OnWay path q) : q <+: path.names := by
  obtain ⟨begun, within, place⟩ := way
  have level : upward ∉ begun := fun member => plain.upward_notMem (within.subset member)
  rw [placeFrom_of_level level, List.nil_append] at place
  exact place ▸ within

def Nowhere (_ : Place) : Prop := False

theorem directory_of_onWay (found : d.locate path = .ok p) (last : d.get? p = some .directory)
    (way : OnWay path q) : d.get? q = some .directory := by
  obtain ⟨begun, ⟨rest, whole⟩, place⟩ := way
  rw [locate, ← whole, follow_append] at found
  cases first : d.follow [] begun with
  | error fault =>
    rw [first] at found
    cases found
  | ok mid =>
    rw [first] at found
    have mid_eq : mid = q := (eq_placeFrom_of_follow first).trans place
    exact mid_eq ▸ directory_of_follow found last

theorem keeps_makeDirAt (ran : d.makeDirAt p = .ok made) : Keeps Nowhere (· = p) d made := by
  obtain ⟨free, -, result⟩ := get?_of_makeDirAt ran
  intro q
  rw [result]
  by_cases here : q = p
  · subst here
    exact .inr (.inr ⟨rfl, free, if_pos rfl⟩)
  · exact .inl (if_neg here)

theorem keeps_makeDir (ran : d.makeDir path = .ok made) : Keeps Nowhere (OnWay path) d made := by
  rw [makeDir] at ran
  cases found : d.locate path with
  | error fault =>
    rw [found] at ran
    cases ran
  | ok p =>
    rw [found] at ran
    apply (keeps_makeDirAt ran).mono
    · exact fun q none => none
    · rintro q rfl
      exact .inr ⟨path.names, List.prefix_rfl, place_of_locate found⟩

theorem keeps_ensureDir (d : Disk) (path : Path) :
    Keeps Nowhere (OnWay path) d (d.ensureDir path).1 := by
  rw [ensureDir]
  split
  · rename_i new
    exact keeps_makeDir new
  · split
    · exact .refl d
    · exact .refl d

theorem keeps_makeDirsUp (d : Disk) (root : List Char) (up : List Name) :
    Keeps Nowhere (OnWay ⟨root, up.reverse⟩) d (d.makeDirsUp root up).1 := by
  induction up with
  | nil => exact keeps_ensureDir d _
  | cons name up ih =>
    have above : ∀ q, OnWay ⟨root, up.reverse⟩ q → OnWay ⟨root, (name :: up).reverse⟩ q := by
      rintro q ⟨names, within, place⟩
      exact ⟨names, within.trans (by simp), place⟩
    have longer : Keeps Nowhere (OnWay ⟨root, (name :: up).reverse⟩) d (d.makeDirsUp root up).1 :=
      ih.mono (fun q none => none) fun q way => .inr (above q way)
    rw [makeDirsUp]
    split
    · rename_i new
      exact keeps_makeDir new
    · split
      · rename_i below ranUp
        rw [ranUp] at longer
        exact longer.trans (keeps_ensureDir below _)
      · rename_i below fault ranUp
        rw [ranUp] at longer
        exact longer
    · split
      · exact .refl d
      · exact .refl d

theorem keeps_makeDirs (d : Disk) (path : Path) : Keeps Nowhere (OnWay path) d (d.makeDirs path).1 := by
  have keeps := keeps_makeDirsUp d path.root path.names.reverse
  rwa [List.reverse_reverse] at keeps

theorem keeps_of_locate {after : Disk} (found : d.locate path = .ok p)
    (aside : ∀ q, q ≠ p → after.get? q = d.get? q) :
    Keeps (fun q => path.place = q) Nowhere d after := by
  intro q
  by_cases here : q = p
  · subst here
    exact .inr (.inl (place_of_locate found))
  · exact .inl (aside q here)

theorem keeps_write {content : ByteArray} (ran : d.write path content = .ok written) :
    Keeps (fun q => path.place = q) Nowhere d written := by
  obtain ⟨p, found, new⟩ := bind_mapError_eq_ok_iff.1 ran
  apply keeps_of_locate found
  intro q other
  rw [(get?_of_writeAt new).2, if_neg other]

theorem keeps_removeFile (ran : d.removeFile path = .ok removed) :
    Keeps (fun q => path.place = q) Nowhere d removed := by
  obtain ⟨p, found, gone⟩ := bind_mapError_eq_ok_iff.1 ran
  apply keeps_of_locate found
  intro q other
  rw [get?_of_removeFileAt gone, if_neg other]

theorem keeps_store (d : Disk) (path : Path) (e : Entry) :
    Keeps (fun q => path.place = q) (OnWay path) d (d.store path e) := by
  cases e with
  | directory => exact (keeps_makeDirs d path).mono (fun q none => none.elim) fun q way => .inr way
  | file content =>
    have dirs : Keeps (fun q => path.place = q) (OnWay path) d
        (d.makeDirs path.parent).1 := by
      apply (keeps_makeDirs d path.parent).mono
      · exact fun q none => none.elim
      · rintro q ⟨names, above, place⟩
        exact .inr ⟨names, above.trans (List.dropLast_prefix _), place⟩
    rw [store]
    split
    · rename_i written new
      exact dirs.trans ((keeps_write new).mono (fun q place => place) fun q none => none.elim)
    · exact dirs

end ProtoModules.Disk
