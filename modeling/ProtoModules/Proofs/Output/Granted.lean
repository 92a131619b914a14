import ProtoModules.Proofs.Disk.Arrival
import ProtoModules.Proofs.Output.Compare
import ProtoModules.Proofs.Output.Finished

/-! Writing where nothing is in the way. Files whose paths are of no use to one another as directories are
all written, whatever the disk holds besides; so after the look for conflicts nothing is refused
any more. -/

namespace ProtoModules

/-- A file can go to a place: no directory is there, and no file stands on the way. -/
structure Disk.Clear (d : Disk) (p : Place) : Prop where
  free : d.get? p ≠ some .directory
  way : ∀ q content, q <+: p → q ≠ p → d.get? q ≠ some (.file content)

namespace OutputDirectory
open Disk Disk.Path

structure SideBySide (paths : List Path) : Prop where
  relative : ∀ path ∈ paths, path.Relative
  distinct : paths.Nodup
  apart : ∀ a ∈ paths, ∀ b ∈ paths, a.names <+: b.names → a = b

variable {o : OutputDirectory} {d : Disk} {files : List EmittedFile} {f : EmittedFile} {path : Path}
  {p q : Place}

theorem SideBySide.of_mem (apart : SideBySide (files.map (·.path))) (member : f ∈ files) :
    f.path.Relative :=
  apart.relative _ (List.mem_map_of_mem member)

theorem ne_nil_of_clear (clear : d.Clear p) : p ≠ [] := by
  intro top
  exact clear.free (by rw [top, get?_nil])

theorem not_prefix_dropLast (present : p ≠ []) : ¬ p <+: p.dropLast := by
  intro within
  have short := within.length_le
  have long := List.length_pos_iff.2 present
  rw [List.length_dropLast] at short
  omega

theorem exists_step (good : (o.target f).Plain) (clear : d.Clear (o.target f).names) :
    ∃ made next, d.makeDirs (o.target f).parent = (made, none) ∧
      made.write (o.target f) (encoded f) = .ok next := by
  have present := ne_nil_of_clear clear
  have parent : (o.target f).parent.Plain := good.of_above (List.dropLast_prefix _)
  have free : d.Open (o.target f).parent.names := by
    intro q content above
    apply clear.way q content (above.trans (List.dropLast_prefix _))
    rintro rfl
    exact not_prefix_dropLast present above
  obtain ⟨made, dirs⟩ := makeDirs_of_open parent free
  have result := get?_of_makeDirs parent dirs
  have directory : made.get? (o.target f).names.dropLast = some .directory := by
    rw [result]
    exact if_pos List.prefix_rfl
  have still : made.get? (o.target f).names ≠ some .directory := by
    have same : made.get? (o.target f).names = d.get? (o.target f).names := by
      rw [result]
      exact if_neg (not_prefix_dropLast present)
    rw [same]
    exact clear.free
  obtain ⟨next, file⟩ := exists_write good directory still (encoded f)
  exact ⟨made, next, dirs, file⟩

theorem clear_of_step {made next : Disk} (good : (o.target f).Plain)
    (dirs : d.makeDirs (o.target f).parent = (made, none))
    (file : made.write (o.target f) (encoded f) = .ok next)
    (above : ¬ p <+: (o.target f).names) (below : ¬ (o.target f).names <+: p)
    (clear : d.Clear p) : next.Clear p := by
  have result := get?_of_step good dirs file
  constructor
  · have differ : p ≠ (o.target f).names := by
      rintro rfl
      exact above List.prefix_rfl
    rw [result, if_neg differ, if_neg above]
    exact clear.free
  · intro q content within strict
    have differ : q ≠ (o.target f).names := by
      rintro rfl
      exact below within
    rw [result, if_neg differ]
    split
    · simp
    · exact clear.way q content within strict

theorem writeFiles_of_clear (good : ∀ f ∈ files, (o.target f).Plain)
    (clear : ∀ f ∈ files, d.Clear (o.target f).names)
    (apart : files.Pairwise fun f g =>
      ¬ (o.target g).names <+: (o.target f).names ∧ ¬ (o.target f).names <+: (o.target g).names) :
    ∃ written, o.writeFiles d files = (written, none) := by
  induction files generalizing d with
  | nil => exact ⟨d, rfl⟩
  | cons f rest ih =>
    rw [List.pairwise_cons] at apart
    have own : (o.target f).Plain := good f List.mem_cons_self
    obtain ⟨made, next, dirs, file⟩ := exists_step own (clear f List.mem_cons_self)
    have later : ∀ g ∈ rest, next.Clear (o.target g).names := by
      intro g member
      obtain ⟨above, below⟩ := apart.1 g member
      exact clear_of_step own dirs file above below (clear g (List.mem_cons_of_mem _ member))
    obtain ⟨written, ran⟩ := ih (fun g member => good g (List.mem_cons_of_mem _ member)) later apart.2
    refine ⟨written, ?_⟩
    rw [writeFiles, dirs]
    simp only [file, ran]

theorem clear_target (plain : o.path.Plain) (good : f.path.Relative) (free : o.conflict? d files = none)
    (member : f ∈ files) : d.Clear (o.target f).names := by
  obtain ⟨outside, each⟩ := (conflict?_eq_none_iff plain).1 free
  obtain ⟨open?, inside⟩ := (fileConflict?_eq_none_iff plain good).1 (each f member)
  refine ⟨open?, fun q content within strict => ?_⟩
  rw [names_target good] at within strict
  rcases prefix_append_cases within with above | ⟨names, below, rfl⟩
  · exact outside q content (above.trans (List.dropLast_prefix _))
  · by_cases top : names = []
    · subst top
      rw [List.append_nil]
      exact outside _ content (List.dropLast_prefix _)
    · exact inside names below (fun same => strict (by rw [same])) top content

section free

variable (plain : o.path.Plain) (apart : SideBySide (files.map (·.path)))
  (free : o.conflict? d files = none)

include apart

theorem pairwise_targets : files.Pairwise fun f g =>
    ¬ (o.target g).names <+: (o.target f).names ∧ ¬ (o.target f).names <+: (o.target g).names := by
  have distinct := List.pairwise_map.1 (List.nodup_iff_pairwise_ne.1 apart.distinct)
  have same : ∀ f ∈ files, ∀ g ∈ files, (o.target f).names <+: (o.target g).names →
      f.path = g.path := by
    intro f first g second within
    rw [names_target (apart.of_mem first), names_target (apart.of_mem second),
      List.prefix_append_right_inj] at within
    exact apart.apart _ (List.mem_map_of_mem first) _ (List.mem_map_of_mem second) within
  refine distinct.imp_of_mem fun {f g} first second differ => ⟨?_, ?_⟩
  · exact fun within => differ (same g second f first within).symm
  · exact fun within => differ (same f first g second within)

include plain free

theorem write_of_free : ∃ left, o.write d files = (.ok (files.map o.target), left) := by
  have good : ∀ f ∈ files, (o.target f).Plain := fun f member =>
    plain_target plain (apart.of_mem member)
  obtain ⟨written, wrote⟩ := writeFiles_of_clear good
    (fun f member => clear_target plain (apart.of_mem member) free member) (pairwise_targets apart)
  exact write_of_written plain.proper wrote plain.direct free

end free

end OutputDirectory

end ProtoModules
