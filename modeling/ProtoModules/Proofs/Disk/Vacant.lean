import ProtoModules.Proofs.Disk.Frame

/-! Directories that nothing lies in. A directory can be removed if it has no members; and it has none as
soon as the hollow directories in it are gone, which is why the deepest ones come first. -/

namespace ProtoModules.Disk
open Disk.Path

variable {d c : Disk} {path : Path} {p q out : Place}

theorem mem_members_iff {name : Name} : name ∈ d.members p ↔ d.get? (p ++ [name]) ≠ none := by
  rw [members, List.mem_filterMap]
  constructor
  · rintro ⟨⟨q, e⟩, listed, named⟩
    simp only [Bool.and_eq_true, bne_iff_ne, ne_eq, decide_eq_true_eq, Option.ite_none_right_eq_some]
      at named
    obtain ⟨⟨some, rfl⟩, last⟩ := named
    have whole : q.dropLast ++ [name] = q := by
      rw [List.getLast?_eq_some_getLast some, Option.some.injEq] at last
      rw [← last, List.dropLast_concat_getLast some]
    rw [whole, get?_eq_some_iff.2 listed]
    simp
  · intro there
    obtain ⟨e, found⟩ := Option.ne_none_iff_exists'.1 there
    exact ⟨⟨p ++ [name], e⟩, get?_eq_some_iff.1 found, by simp⟩

theorem isName_of_mem_members {name : Name} (member : name ∈ d.members p) : isName name = true := by
  obtain ⟨e, here⟩ := Option.ne_none_iff_exists'.1 (mem_members_iff.1 member)
  exact isName_of_get? here name (by simp)

theorem nodup_members (d : Disk) (p : Place) : (d.members p).Nodup := by
  have once : d.entries.Pairwise fun a b => a.1 ≠ b.1 :=
    List.pairwise_map.1 (List.nodup_iff_pairwise_ne.1 d.sound.once)
  rw [members, List.nodup_iff_pairwise_ne, List.pairwise_filterMap]
  refine once.imp fun {a b} differ first foundA second foundB same => differ ?_
  simp only [Option.ite_none_right_eq_some, Bool.and_eq_true, bne_iff_ne, decide_eq_true_eq]
    at foundA foundB
  calc a.1 = p ++ [first] := by
        rw [← foundA.1.2, List.dropLast_append_getLast? first foundA.2]
    _ = b.1 := by
        rw [← foundB.1.2, same, List.dropLast_append_getLast? second foundB.2]

theorem members_eq_nil_iff : d.members p = [] ↔ ∀ q, p <+: q → q ≠ p → d.get? q = none := by
  rw [List.eq_nil_iff_forall_not_mem]
  constructor
  · rintro none q ⟨rest, rfl⟩ strict
    cases rest with
    | nil => simp at strict
    | cons name rest =>
      by_contra there
      obtain ⟨e, found⟩ := Option.ne_none_iff_exists'.1 there
      refine none name (mem_members_iff.2 fun absent => ?_)
      by_cases last : rest = []
      · rw [last] at found
        rw [absent] at found
        cases found
      · have above : d.get? (p ++ [name]) = some .directory :=
          directory_of_above found (by simp) (by simpa using last)
        rw [absent] at above
        cases above
  · intro vacant name member
    exact mem_members_iff.1 member (vacant _ (List.prefix_append _ _) (by simp))

theorem listDir_of_directory (found : d.locate path = .ok p) (here : d.get? p = some .directory) :
    d.listDir path = .ok (d.members p) := by
  rw [listDir, found]
  simp [bind, Except.bind, here, Except.mapError]

theorem exists_removeDir (found : d.locate path = .ok p) (here : d.get? p = some .directory)
    (below : p ≠ []) (vacant : d.members p = []) :
    ∃ removed, d.removeDir path = .ok removed ∧
      ∀ q, removed.get? q = if q = p then none else d.get? q := by
  have bare : d.below p = [] := by
    rw [List.eq_nil_iff_forall_not_mem]
    rintro ⟨q, e⟩ member
    obtain ⟨listed, within, strict⟩ := mem_below.1 member
    have none := members_eq_nil_iff.1 vacant q within strict
    rw [get?_eq_some_iff.2 listed] at none
    cases none
  have gone : ∃ removed, d.removeDirAt p = .ok removed := by
    rw [removeDirAt]
    simp [here, below, bare]
  obtain ⟨removed, gone⟩ := gone
  exact ⟨removed, bind_mapError_eq_ok_iff.2 ⟨p, found, gone⟩, get?_of_removeDirAt gone⟩

theorem mem_directoriesBelow_iff {names : List Name} :
    names ∈ d.directoriesBelow p ↔ names ≠ [] ∧ d.get? (p ++ names) = some .directory := by
  rw [directoriesBelow, (List.mergeSort_perm _ _).mem_iff]
  simp only [List.mem_map, List.mem_filter, Prod.exists, mem_below, decide_eq_true_eq,
    ← get?_eq_some_iff]
  constructor
  · rintro ⟨q, e, ⟨⟨here, ⟨rest, rfl⟩, strict⟩, rfl⟩, rfl⟩
    rw [List.drop_left]
    exact ⟨by simpa using strict, here⟩
  · rintro ⟨some, here⟩
    exact ⟨_, _, ⟨⟨here, List.prefix_append _ _, by simpa using some⟩, rfl⟩, by rw [List.drop_left]⟩

theorem nodup_directoriesBelow (d : Disk) (p : Place) : (d.directoriesBelow p).Nodup := by
  rw [directoriesBelow, (List.mergeSort_perm _ _).nodup_iff, List.nodup_iff_pairwise_ne,
    List.pairwise_map]
  have places : ((d.below p).filter fun item => item.2 = .directory).Pairwise fun a b => a.1 ≠ b.1 :=
    (List.pairwise_map.1 (List.nodup_iff_pairwise_ne.1 d.sound.once)).sublist
      (List.filter_sublist.trans List.filter_sublist)
  refine places.imp_of_mem fun {a b} first second differ same => differ ?_
  obtain ⟨-, ⟨rest, whole⟩, -⟩ := mem_below.1 (List.mem_filter.1 first).1
  obtain ⟨-, ⟨rest', whole'⟩, -⟩ := mem_below.1 (List.mem_filter.1 second).1
  rw [← whole, ← whole', List.drop_left, List.drop_left] at same
  rw [← whole, ← whole', same]

theorem pairwise_directoriesBelow (d : Disk) (p : Place) :
    (d.directoriesBelow p).Pairwise fun a b => b.length ≤ a.length := by
  refine (List.pairwise_mergeSort (fun a b c first second => ?_) (fun a b => ?_) _).imp
    of_decide_eq_true
  · rw [decide_eq_true_eq] at first second ⊢
    omega
  · simpa using Nat.le_total b.length a.length

/-- The path does not lead through anything that lies below its own place, to step up from there again. -/
def Path.Direct (path : Path) : Prop :=
  ∀ n ≤ path.names.length, placeFrom [] path.names <+: placeFrom [] (path.names.take n) →
    placeFrom [] (path.names.take n) = placeFrom [] path.names

instance (path : Path) : Decidable path.Direct := by
  unfold Path.Direct
  infer_instance

theorem Path.Plain.direct (plain : path.Plain) : path.Direct := by
  intro n short within
  have level := plain.upward_notMem
  have begun : upward ∉ path.names.take n := fun member => level (List.mem_of_mem_take member)
  rw [placeFrom_of_level level, placeFrom_of_level begun, List.nil_append, List.nil_append] at *
  exact ((List.take_prefix n path.names).eq_of_length_le within.length_le)

theorem Path.Direct.locate_congr (direct : path.Direct) (found : d.locate path = .ok out)
    (same : ∀ q, ¬ (out <+: q ∧ q ≠ out) → c.get? q = d.get? q) : c.locate path = .ok out := by
  have place : placeFrom [] path.names = out := place_of_locate found
  refine locate_of_directories (fun begun within directory => ?_) found
  rw [same, directory]
  rintro ⟨below, strict⟩
  have begins := direct begun.length within.length_le
  rw [← List.prefix_iff_eq_take.1 within, place] at begins
  exact strict (begins below)

end ProtoModules.Disk
