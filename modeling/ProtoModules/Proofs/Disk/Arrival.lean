import ProtoModules.Proofs.Disk.Accept
import ProtoModules.Proofs.Disk.Alike
import ProtoModules.Proofs.Disk.Growth

/-! Making a directory at a path that may step up on its way. If no file stands on the way, everything
that is missing can be made, and the path leads to a directory afterwards. -/

namespace ProtoModules.Disk
open Disk.Path

variable {d made : Disk} {path : Path} {root : List Char} {names : List Name} {p q : Place}

/-- No file stands on the way of a path, nor at its end. -/
def ClearWay (d : Disk) (path : Path) : Prop :=
  ∀ q content, OnWay path q → d.get? q ≠ some (.file content)

theorem exists_begun (above : q <+: placeFrom [] names) :
    ∃ begun, begun <+: names ∧ placeFrom [] begun = q := by
  induction names using List.reverseRecOn generalizing q with
  | nil => exact ⟨[], List.prefix_rfl, (List.prefix_nil.1 above).symm⟩
  | append_singleton names name ih =>
    have longer : ∀ begun, begun <+: names → begun <+: names ++ [name] := fun begun within =>
      within.trans (List.prefix_append names [name])
    rw [placeFrom_append] at above
    by_cases up : name = upward
    · rw [placeFrom, if_pos up, placeFrom] at above
      obtain ⟨begun, within, place⟩ := ih (above.trans (List.dropLast_prefix _))
      exact ⟨begun, longer begun within, place⟩
    · rw [placeFrom, if_neg up, placeFrom] at above
      rcases List.prefix_concat_iff.1 above with same | short
      · refine ⟨names ++ [name], List.prefix_rfl, ?_⟩
        rw [placeFrom_append, placeFrom, if_neg up, placeFrom, same]
      · obtain ⟨begun, within, place⟩ := ih short
        exact ⟨begun, longer begun within, place⟩

theorem ClearWay.above {begun : List Name} (clear : ClearWay d ⟨root, names⟩)
    (within : begun <+: names) : ClearWay d ⟨root, begun⟩ := by
  rintro q content ⟨start, short, place⟩
  exact clear q content ⟨start, short.trans within, place⟩

theorem ClearWay.isOpen (clear : ClearWay d ⟨root, names⟩) : d.Open (placeFrom [] names) :=
  fun q content above => clear q content (exists_begun above)

theorem missing_of_follow (clear : ClearWay d ⟨root, names⟩) {fault : Fault}
    (refused : d.follow [] names = .error fault) : fault = .missing := by
  induction names using List.reverseRecOn generalizing fault with
  | nil => cases refused
  | append_singleton names name ih =>
    have short := clear.above (List.prefix_append names [name])
    rw [follow_append] at refused
    cases way : d.follow [] names with
    | error other =>
      rw [way] at refused
      exact (Except.error.inj refused) ▸ ih short way
    | ok mid =>
      have place := eq_placeFrom_of_follow way
      have free : d.Open mid := place ▸ short.isOpen
      rw [way] at refused
      simp only [bind, Except.bind, follow] at refused
      split at refused
      · split at refused
        · cases refused
        · rename_i content here
          exact absurd here (free mid content List.prefix_rfl)
        · rw [← Except.error.inj refused, absence_of_open free]
      · cases refused

theorem hasDirectory_of_makeDir (new : d.makeDir path = .ok made) : made.hasDirectory path = true := by
  have grows := grows_of_keeps (keeps_makeDir new)
  rw [makeDir] at new
  cases found : d.locate path with
  | error fault =>
    rw [found] at new
    cases new
  | ok p =>
    rw [found] at new
    have result := (get?_of_makeDirAt new).2.2 p
    rw [if_pos rfl] at result
    exact hasDirectory_eq_true_iff.2 ⟨p, grows.locate found, result⟩

theorem missing_or_there (clear : ClearWay d ⟨root, names⟩) {fault : Fault}
    (refused : d.makeDir ⟨root, names⟩ = .error fault) :
    fault = .missing ∨ d.hasDirectory ⟨root, names⟩ = true := by
  rw [makeDir] at refused
  cases found : d.locate ⟨root, names⟩ with
  | error other =>
    rw [found] at refused
    obtain rfl := Except.error.inj refused
    exact .inl (missing_of_follow clear found)
  | ok p =>
    have place : p = placeFrom [] names := eq_placeFrom_of_follow found
    have free : d.Open p := place ▸ clear.isOpen
    rw [found] at refused
    change d.makeDirAt p = _ at refused
    rw [makeDirAt] at refused
    cases here : d.get? p with
    | some e =>
      cases e with
      | file content => exact absurd here (free p content List.prefix_rfl)
      | directory => exact .inr (hasDirectory_eq_true_iff.2 ⟨p, found, here⟩)
    | none =>
      simp only [here, Option.isSome_none, Bool.false_eq_true, dite_false] at refused
      split at refused
      · split at refused
        · cases refused
        · exact .inl (Except.error.inj refused).symm
      · rw [absence_of_open free] at refused
        exact .inl (Except.error.inj refused).symm

theorem there_of_makeDir {name : Name} (part : IsPart name)
    (clear : ClearWay d ⟨root, names ++ [name]⟩) (parent : d.hasDirectory ⟨root, names⟩ = true)
    {fault : Fault} (refused : d.makeDir ⟨root, names ++ [name]⟩ = .error fault) :
    d.hasDirectory ⟨root, names ++ [name]⟩ = true := by
  obtain ⟨r, found, here⟩ := hasDirectory_eq_true_iff.1 parent
  have way : d.locate ⟨root, names ++ [name]⟩ = d.follow r [name] := by
    change d.follow [] (names ++ [name]) = _
    have found : d.follow [] names = .ok r := found
    rw [follow_append, found]
    rfl
  rcases missing_or_there clear refused with rfl | there
  · by_cases up : name = upward
    · -- a step up leads to what the parent lies in
      have back : d.follow r [name] = .ok r.dropLast := by simp [follow, up, here]
      exact hasDirectory_eq_true_iff.2
        ⟨_, way.trans back, directory_of_directory here (List.dropLast_prefix r)⟩
    · have on : d.follow r [name] = .ok (r ++ [name]) := by simp [follow, up]
      have named : isName name = true := isName_iff.2 ⟨part, up⟩
      rw [makeDir, way, on] at refused
      change d.makeDirAt (r ++ [name]) = _ at refused
      simp only [makeDirAt, List.dropLast_concat, List.getLast_append_singleton, here, named,
        dite_true] at refused
      split at refused
      · cases refused
      · cases refused
  · exact there

theorem exists_ensureDir {name : Name} (part : IsPart name) (clear : ClearWay d ⟨root, names ++ [name]⟩)
    (parent : d.hasDirectory ⟨root, names⟩ = true) :
    ∃ made, d.ensureDir ⟨root, names ++ [name]⟩ = (made, none) ∧
      made.hasDirectory ⟨root, names ++ [name]⟩ = true := by
  rw [ensureDir]
  cases ran : d.makeDir ⟨root, names ++ [name]⟩ with
  | ok made => exact ⟨made, rfl, hasDirectory_of_makeDir ran⟩
  | error fault =>
    have there := there_of_makeDir part clear parent ran
    exact ⟨d, by simp [there], there⟩

theorem ClearWay.of_keeps {added : Place → Prop} (clear : ClearWay d path)
    (keeps : Keeps Nowhere added d made) : ClearWay made path := by
  intro q content way file
  rcases keeps q with same | none | ⟨-, -, directory⟩
  · exact clear q content way (same ▸ file)
  · exact none
  · rw [directory] at file
    cases file

theorem exists_makeDirsUp (root : List Char) (up : List Name) (parts : ∀ name ∈ up, IsPart name)
    (clear : ClearWay d ⟨root, up.reverse⟩) :
    ∃ made, d.makeDirsUp root up = (made, none) ∧ made.hasDirectory ⟨root, up.reverse⟩ = true := by
  induction up with
  | nil =>
    have top : d.hasDirectory ⟨root, []⟩ = true := hasDirectory_eq_true_iff.2 ⟨[], rfl, get?_nil d⟩
    exact ⟨d, makeDirs_of_directory top, top⟩
  | cons name up ih =>
    have whole : (name :: up).reverse = up.reverse ++ [name] := List.reverse_cons
    have short : ClearWay d ⟨root, up.reverse⟩ := clear.above (by simp)
    obtain ⟨below, ranUp, parent⟩ := ih (fun n member => parts n (List.mem_cons_of_mem _ member)) short
    have keeps := keeps_makeDirsUp d root up
    rw [ranUp] at keeps
    rw [makeDirsUp]
    cases ran : d.makeDir ⟨root, (name :: up).reverse⟩ with
    | ok made => exact ⟨made, rfl, hasDirectory_of_makeDir ran⟩
    | error fault =>
      rcases missing_or_there clear ran with rfl | there
      · -- what the directory is to lie in is made first
        rw [ranUp]
        have still : ClearWay below ⟨root, up.reverse ++ [name]⟩ := whole ▸ clear.of_keeps keeps
        rw [whole]
        exact exists_ensureDir (parts name List.mem_cons_self) still parent
      · have taken := makeDir_of_directory there
        rw [ran, Except.error.injEq] at taken
        subst taken
        simp only [there, if_true]
        exact ⟨d, rfl, there⟩

theorem makeDirs_of_clear (proper : path.Proper) (clear : ClearWay d path) :
    ∃ made, d.makeDirs path = (made, none) ∧ made.hasDirectory path = true := by
  have made := exists_makeDirsUp path.root path.names.reverse
    (fun name member => proper name (by simpa using member)) (by rwa [List.reverse_reverse])
  rwa [List.reverse_reverse] at made

theorem makeDirs_of_open (plain : path.Plain) (free : d.Open path.names) :
    ∃ made, d.makeDirs path = (made, none) := by
  have clear : ClearWay d path := fun q content way =>
    free q content (plain.prefix_of_onWay way)
  obtain ⟨made, ran, -⟩ := makeDirs_of_clear plain.proper clear
  exact ⟨made, ran⟩

end ProtoModules.Disk
