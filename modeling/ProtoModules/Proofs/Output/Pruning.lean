import ProtoModules.Output.Directory
import ProtoModules.Proofs.Disk.Vacant

/-! Pruning the output directory. Its directories are taken one after the other, the deepest first, and each
is removed if nothing lies in it by then. So what goes are the hollow directories, those that no
file lies in at any depth, and for a direct path nothing on the way is refused. -/

namespace ProtoModules.OutputDirectory
open Disk Disk.Path

def IsLeftover (o : OutputDirectory) (d : Disk) (q : Place) : Prop :=
  ∃ out, d.locate o.path = .ok out ∧ d.isHollow out q = true

/-- The disk on the way: the hollow directories that have had their turn are gone. -/
def Pruned (d : Disk) (out : Place) (ahead : List Place) (c : Disk) : Prop :=
  ∀ q, c.get? q = if d.isHollow out q = true ∧ q ∉ ahead then none else d.get? q

variable {o : OutputDirectory} {d c left : Disk} {out p q : Place} {ahead : List Place}

namespace Pruned

theorem get?_of_ahead (pruned : Pruned d out ahead c) (waiting : q ∈ ahead) : c.get? q = d.get? q := by
  rw [pruned q, if_neg fun gone => gone.2 waiting]

theorem get?_of_solid (pruned : Pruned d out ahead c) (solid : d.isHollow out q ≠ true) :
    c.get? q = d.get? q := by
  rw [pruned q, if_neg fun gone => solid gone.1]

theorem locate (pruned : Pruned d out ahead c) (direct : o.path.Direct)
    (found : d.locate o.path = .ok out) : c.locate o.path = .ok out := by
  refine direct.locate_congr found fun q outside => pruned.get?_of_solid fun hollow => outside ?_
  exact ⟨(isHollow_iff.1 hollow).1, (isHollow_iff.1 hollow).2.1⟩

/-- When its turn comes, a directory has no members exactly if it is hollow: all that lies deeper has
had its turn before. -/
theorem members_eq_nil_iff (pruned : Pruned d out (p :: ahead) c) (below : out <+: p) (strict : p ≠ out)
    (here : d.get? p = some .directory) (deepest : ∀ q ∈ ahead, q.length ≤ p.length) :
    c.members p = [] ↔ d.isHollow out p = true := by
  rw [Disk.members_eq_nil_iff, isHollow_iff]
  constructor
  · refine fun vacant => ⟨below, strict, here, fun q content file within => ?_⟩
    have differ : q ≠ p := by
      rintro rfl
      rw [here] at file
      cases file
    have solid : d.isHollow out q ≠ true := fun hollow => by
      rw [(isHollow_iff.1 hollow).2.2.1] at file
      cases file
    have none := vacant q within differ
    rw [pruned.get?_of_solid solid, file] at none
    cases none
  · rintro ⟨-, -, -, bare⟩ q within differ
    have longer : p.length < q.length :=
      Nat.lt_of_le_of_ne within.length_le fun same => differ (within.eq_of_length same).symm
    by_contra there
    obtain ⟨e, found⟩ := Option.ne_none_iff_exists'.1 there
    rw [pruned q] at found
    split at found
    · cases found
    · rename_i kept
      cases e with
      | file content => exact bare q content found within
      | directory =>
        -- a directory in a hollow one is hollow and deeper, so it has been taken away before
        refine kept ⟨isHollow_iff.2 ⟨below.trans within, ?_, found, fun r content file deeper =>
          bare r content file (within.trans deeper)⟩, ?_⟩
        · rintro rfl
          have := below.length_le
          omega
        · rw [List.mem_cons, not_or]
          refine ⟨differ, fun waiting => ?_⟩
          have := deepest q waiting
          omega

theorem skip (pruned : Pruned d out (p :: ahead) c) (solid : d.isHollow out p ≠ true) :
    Pruned d out ahead c := by
  intro q
  rw [pruned q]
  by_cases here : q = p
  · subst here
    simp [solid]
  · simp [here]

theorem remove {removed : Disk} (pruned : Pruned d out (p :: ahead) c)
    (hollow : d.isHollow out p = true) (once : p ∉ ahead)
    (gone : ∀ q, removed.get? q = if q = p then none else c.get? q) : Pruned d out ahead removed := by
  intro q
  rw [gone, pruned q]
  by_cases here : q = p
  · subst here
    simp [hollow, once]
  · simp [here]

end Pruned

theorem removeVacant_of_pruned (direct : o.path.Direct) (found : d.locate o.path = .ok out)
    {inner : List (List Name)}
    (each : ∀ names ∈ inner, names ≠ [] ∧ d.get? (out ++ names) = some .directory)
    (once : inner.Nodup) (deepest : inner.Pairwise fun a b => b.length ≤ a.length)
    (pruned : Pruned d out (inner.map (out ++ ·)) c) :
    ∃ left, removeVacant c (inner.map fun names => o.path.join ⟨[], names⟩) = (left, none) ∧
      Pruned d out [] left := by
  induction inner generalizing c with
  | nil => exact ⟨c, rfl, pruned⟩
  | cons names rest ih =>
    obtain ⟨some, here⟩ := each names List.mem_cons_self
    rw [List.nodup_cons] at once
    rw [List.pairwise_cons] at deepest
    rw [List.map_cons] at pruned
    have ihRest := fun c => ih (c := c) (fun other later => each other (List.mem_cons_of_mem _ later))
      once.2 deepest.2
    have level : upward ∉ names := fun member =>
      (isName_iff.1 (isName_of_get? here upward (List.mem_append_right _ member))).2 rfl
    have located : c.locate (o.path.join ⟨[], names⟩) = .ok (out ++ names) := by
      rw [join_of_free _ rfl]
      exact locate_append level (pruned.locate direct found)
    have directory : c.get? (out ++ names) = .some .directory := by
      rw [pruned.get?_of_ahead List.mem_cons_self, here]
    -- all that is deeper has been looked at, so what lists nothing is hollow
    have vacant := pruned.members_eq_nil_iff (List.prefix_append _ _) (by simpa using some) here (by
      rintro q member
      obtain ⟨other, later, rfl⟩ := List.mem_map.1 member
      simpa using deepest.1 other later)
    have notAgain : out ++ names ∉ rest.map (out ++ ·) := by simpa using once.1
    rw [List.map_cons, removeVacant, listDir_of_directory located directory]
    cases listed : c.members (out ++ names) with
    | cons name more =>
      dsimp only
      refine ihRest c (pruned.skip fun hollow => ?_)
      rw [vacant.2 hollow] at listed
      cases listed
    | nil =>
      obtain ⟨removed, ran, gone⟩ := exists_removeDir located directory (by simp [some]) listed
      simp only [ran]
      exact ihRest removed (pruned.remove (vacant.1 listed) notAgain gone)

theorem exists_pruned (direct : o.path.Direct) (d : Disk) :
    ∃ left, o.pruneDirectories d = (left, none) ∧
      (∀ q, o.IsLeftover d q → left.get? q = none) ∧
      ∀ q, ¬ o.IsLeftover d q → left.get? q = d.get? q := by
  rw [pruneDirectories, directories]
  cases found : d.locate o.path with
  | error fault =>
    refine ⟨d, rfl, ?_, fun q _ => rfl⟩
    rintro q ⟨out, located, -⟩
    rw [found] at located
    cases located
  | ok out =>
    have start : Pruned d out ((d.directoriesBelow out).map (out ++ ·)) d := by
      intro q
      rw [if_neg]
      rintro ⟨hollow, notListed⟩
      obtain ⟨⟨names, rfl⟩, strict, here, -⟩ := isHollow_iff.1 hollow
      refine notListed (List.mem_map_of_mem (mem_directoriesBelow_iff.2 ⟨?_, here⟩))
      simpa using strict
    obtain ⟨left, ran, pruned⟩ := removeVacant_of_pruned direct found
      (fun names => mem_directoriesBelow_iff.1) (nodup_directoriesBelow d out)
      (pairwise_directoriesBelow d out) start
    refine ⟨left, ran, ?_, fun q used => ?_⟩
    · rintro q ⟨out', located, hollow⟩
      obtain rfl := Except.ok.inj (found.symm.trans located)
      rw [pruned q, if_pos ⟨hollow, List.not_mem_nil⟩]
    · rw [pruned.get?_of_solid fun hollow => used ⟨out, found, hollow⟩]

theorem get?_of_pruneDirectories (direct : o.path.Direct) (found : d.locate o.path = .ok out)
    (ran : o.pruneDirectories d = (left, none)) (q : Place) :
    left.get? q = if d.isHollow out q then none else d.get? q := by
  obtain ⟨left', ran', gone, kept⟩ := exists_pruned direct d
  obtain ⟨rfl, -⟩ := Prod.mk.inj (ran.symm.trans ran')
  by_cases hollow : d.isHollow out q = true
  · rw [if_pos hollow, gone q ⟨out, found, hollow⟩]
  · rw [if_neg hollow]
    refine kept q ?_
    rintro ⟨out', located, hollow'⟩
    obtain rfl := Except.ok.inj (found.symm.trans located)
    exact hollow hollow'

end ProtoModules.OutputDirectory
