import ProtoModules.Proofs.Output.Pruning

/-! Replacing the content of the output directory, told place by place. If nothing is refused, every file
of a list that fits the directory is at its target with its content, in the directory there is
nothing else but what the targets lie in, and outside of it all is as before. -/

namespace ProtoModules.OutputDirectory
open Disk Disk.Path

/-- The root module file beside the directory, or something in the directory; as seen from the directory
that both lie in. -/
def InFootprint (o : OutputDirectory) (path : Path) : Prop :=
  path = ⟨[], [o.path.name ++ PackageTree.ending]⟩ ∨
    ∃ rest, rest ≠ [] ∧ path = ⟨[], o.path.name :: rest⟩

/-- Files that can all be written side by side. -/
structure Fits (o : OutputDirectory) (files : List EmittedFile) : Prop where
  relative : ∀ f ∈ files, f.path.Relative
  inside : ∀ f ∈ files, o.InFootprint f.path
  distinct : (files.map (·.path)).Nodup
  apart : ∀ f ∈ files, ∀ g ∈ files, f.path.names <+: g.path.names → f.path = g.path

instance (o : OutputDirectory) (path : Path) : Decidable (o.InFootprint path) :=
  decidable_of_iff (path = ⟨[], [o.path.name ++ PackageTree.ending]⟩ ∨
      path.names.tail ≠ [] ∧ path = ⟨[], o.path.name :: path.names.tail⟩) <| or_congr_right <| by
    constructor
    · exact fun ⟨deeper, same⟩ => ⟨_, deeper, same⟩
    · rintro ⟨rest, deeper, rfl⟩
      exact ⟨deeper, rfl⟩

instance (o : OutputDirectory) (files : List EmittedFile) : Decidable (o.Fits files) :=
  decidable_of_iff ((∀ f ∈ files, f.path.Relative) ∧ (∀ f ∈ files, o.InFootprint f.path) ∧
      (files.map (·.path)).Nodup ∧
      ∀ f ∈ files, ∀ g ∈ files, f.path.names <+: g.path.names → f.path = g.path)
    ⟨fun ⟨relative, inside, distinct, apart⟩ => ⟨relative, inside, distinct, apart⟩,
      fun fits => ⟨fits.relative, fits.inside, fits.distinct, fits.apart⟩⟩

structure Replaced (o : OutputDirectory) (files : List EmittedFile) (before after : Disk) : Prop where
  written : ∀ f ∈ files, after.get? (o.target f).names = some (.file (encoded f))
  emptied : ∀ q, o.path.names <+: q → q ≠ o.path.names →
    (∀ f ∈ files, ¬ q <+: (o.target f).names) → after.get? q = none
  kept : ∀ q, ¬ (o.path.names <+: q ∧ q ≠ o.path.names) →
    (∀ f ∈ files, ¬ q <+: (o.target f).names) → after.get? q = before.get? q

/-- A place below the output directory, at any depth. -/
def IsInside (o : OutputDirectory) (q : Place) : Prop := o.path.names <+: q ∧ q ≠ o.path.names

/-- The place of the root module file beside the output directory. -/
def rootPlace (o : OutputDirectory) : Place :=
  o.path.names.dropLast ++ [o.path.name ++ PackageTree.ending]

def rootPath (o : OutputDirectory) : Path := ⟨[], [o.path.name ++ PackageTree.ending]⟩

variable {o : OutputDirectory} {d : Disk} {files : List EmittedFile} {f : EmittedFile} {path : Path}
  {q : Place}

theorem names_target (good : f.path.Relative) :
    (o.target f).names = o.path.names.dropLast ++ f.path.names := by
  rw [target, join_of_free _ good.free]
  rfl

theorem dropLast_append_name (present : o.path.names ≠ []) (rest : List Name) :
    o.path.names.dropLast ++ o.path.name :: rest = o.path.names ++ rest := by
  have last : o.path.name = o.path.names.getLast present := by
    rw [name, List.getLast?_eq_some_getLast present, Option.getD_some]
  rw [last, List.append_cons, List.dropLast_concat_getLast]

theorem names_target_of_eq (present : o.path.names ≠ []) {rest : List Name}
    (same : f.path = ⟨[], o.path.name :: rest⟩) : (o.target f).names = o.path.names ++ rest := by
  rw [target, same, join_of_free _ rfl]
  exact dropLast_append_name present rest

theorem path_of_names_target (present : o.path.names ≠ []) (good : f.path.Relative) {rest : List Name}
    (same : o.path.names ++ rest = (o.target f).names) : f.path = ⟨[], o.path.name :: rest⟩ := by
  rw [names_target good, ← dropLast_append_name present, List.append_cancel_left_eq] at same
  rw [good.eq_mk, same]

theorem names_target_of_root (same : f.path = o.rootPath) : (o.target f).names = o.rootPlace := by
  rw [target, same, join_of_free _ rfl]
  rfl

theorem isInside_or_root (present : o.path.names ≠ []) (inside : o.InFootprint f.path) :
    o.IsInside (o.target f).names ∨ f.path = o.rootPath := by
  rcases inside with root | ⟨rest, some, same⟩
  · exact .inr root
  · rw [names_target_of_eq present same]
    exact .inl ⟨List.prefix_append _ _, by simpa using some⟩

theorem isName_name (plain : o.path.Plain) (present : o.path.names ≠ []) :
    isName o.path.name = true :=
  plain _ (name_mem present)

section plain

variable (plain : o.path.Plain)

include plain

theorem plain_base : o.base.Plain := plain.of_above (List.dropLast_prefix _)

theorem plain_target (good : f.path.Relative) : (o.target f).Plain :=
  (plain_base plain).join good.plain

theorem mem_existing :
    path ∈ o.existing d ↔ ∃ rest content, rest ≠ [] ∧
      d.get? (o.path.names ++ rest) = some (.file content) ∧ path = o.relative rest := by
  rw [existing, plain.locate]
  simp only [List.mem_filterMap, Prod.exists, mem_below, Option.ite_none_left_eq_some,
    Option.some.injEq, ← get?_eq_some_iff]
  constructor
  · rintro ⟨q, e, ⟨found, ⟨rest, rfl⟩, strict⟩, isFile, rfl⟩
    cases e with
    | directory => exact absurd rfl isFile
    | file content => exact ⟨rest, content, by simpa using strict, found, by rw [List.drop_left]⟩
  · rintro ⟨rest, content, strict, found, rfl⟩
    exact ⟨_, _, ⟨found, List.prefix_append _ _, by simpa using strict⟩, by simp,
      by rw [List.drop_left]⟩

theorem relative_of_get? (present : o.path.names ≠ []) {rest : List Name} {e : Entry}
    (found : d.get? (o.path.names ++ rest) = some e) : Relative ⟨[], o.path.name :: rest⟩ := by
  refine ⟨rfl, fun name member => ?_⟩
  rcases List.mem_cons.1 member with rfl | within
  · exact isName_name plain present
  · exact isName_of_get? found name (List.mem_append_right _ within)

theorem relative_eq_of_get? (present : o.path.names ≠ []) {rest : List Name} {e : Entry}
    (found : d.get? (o.path.names ++ rest) = some e) : o.relative rest = ⟨[], o.path.name :: rest⟩ :=
  ofTexts_parts (relative_of_get? plain present found).plain.proper

theorem mem_existing_iff (present : o.path.names ≠ []) :
    path ∈ o.existing d ↔ ∃ rest content, rest ≠ [] ∧
      d.get? (o.path.names ++ rest) = some (.file content) ∧ path = ⟨[], o.path.name :: rest⟩ := by
  rw [mem_existing plain]
  constructor
  · rintro ⟨rest, content, strict, found, rfl⟩
    exact ⟨rest, content, strict, found, relative_eq_of_get? plain present found⟩
  · rintro ⟨rest, content, strict, found, rfl⟩
    exact ⟨rest, content, strict, found, (relative_eq_of_get? plain present found).symm⟩

end plain

theorem mem_stale_iff : path ∈ o.stale d files ↔ path ∈ o.existing d ∧ path ∉ files.map (·.path) := by
  rw [stale, (List.mergeSort_perm _ _).mem_iff, List.mem_filter]
  simp

theorem writeFiles_cons {rest : List EmittedFile} {written : Disk}
    (ran : o.writeFiles d (f :: rest) = (written, none)) :
    ∃ made next, d.makeDirs (o.target f).parent = (made, none) ∧
      made.write (o.target f) (encoded f) = .ok next ∧ o.writeFiles next rest = (written, none) := by
  rw [writeFiles] at ran
  split at ran
  · cases ran
  · rename_i made made?
    split at ran
    · rename_i next next?
      exact ⟨made, next, made?, next?, ran⟩
    · cases ran

theorem get?_of_step {made next : Disk} (good : (o.target f).Plain)
    (dirs : d.makeDirs (o.target f).parent = (made, none))
    (file : made.write (o.target f) (encoded f) = .ok next) (q : Place) :
    next.get? q =
      if q = (o.target f).names then some (.file (encoded f))
      else if q <+: (o.target f).names then some .directory
      else d.get? q := by
  have parent : (o.target f).parent.Plain := good.of_above (List.dropLast_prefix _)
  rw [get?_of_write good file, get?_of_makeDirs parent dirs]
  by_cases here : q = (o.target f).names
  · rw [if_pos here, if_pos here]
  · rw [if_neg here, if_neg here, Path.parent]
    simp only [prefix_dropLast_iff here]

section writeFiles

variable {written : Disk} (good : ∀ f ∈ files, (o.target f).Plain)
  (ran : o.writeFiles d files = (written, none))

include good ran

theorem get?_of_writeFiles_of_apart (apart : ∀ f ∈ files, ¬ q <+: (o.target f).names) :
    written.get? q = d.get? q := by
  induction files generalizing d with
  | nil =>
    obtain ⟨rfl, -⟩ := Prod.mk.inj ran
    rfl
  | cons f rest ih =>
    obtain ⟨made, next, dirs, file, ranRest⟩ := writeFiles_cons ran
    have first := apart f List.mem_cons_self
    have notHere : q ≠ (o.target f).names := by
      rintro rfl
      exact first List.prefix_rfl
    rw [ih (fun g member => good g (List.mem_cons_of_mem _ member)) ranRest
        fun g member => apart g (List.mem_cons_of_mem _ member),
      get?_of_step (good f List.mem_cons_self) dirs file, if_neg notHere, if_neg first]

theorem get?_of_writeFiles_target
    (apart : files.Pairwise fun f g => ¬ (o.target f).names <+: (o.target g).names)
    (member : f ∈ files) : written.get? (o.target f).names = some (.file (encoded f)) := by
  induction files generalizing d with
  | nil => simp at member
  | cons g rest ih =>
    obtain ⟨made, next, dirs, file, ranRest⟩ := writeFiles_cons ran
    have goodRest : ∀ f ∈ rest, (o.target f).Plain := fun f later =>
      good f (List.mem_cons_of_mem _ later)
    rw [List.pairwise_cons] at apart
    rcases List.mem_cons.1 member with rfl | later
    · rw [get?_of_writeFiles_of_apart goodRest ranRest apart.1,
        get?_of_step (good f List.mem_cons_self) dirs file, if_pos rfl]
    · exact ih goodRest ranRest apart.2 later

end writeFiles

theorem get?_of_removeFiles {paths : List Path} {removed : Disk}
    (good : ∀ path ∈ paths, (o.base.join path).Plain)
    (ran : o.removeFiles d paths = (removed, none)) (q : Place) :
    removed.get? q =
      if q ∈ paths.map fun path => (o.base.join path).names then none else d.get? q := by
  induction paths generalizing d with
  | nil =>
    obtain ⟨rfl, -⟩ := Prod.mk.inj ran
    simp
  | cons path rest ih =>
    have goodRest : ∀ path ∈ rest, (o.base.join path).Plain := fun path later =>
      good path (List.mem_cons_of_mem _ later)
    rw [removeFiles] at ran
    split at ran
    · rename_i next gone
      rw [ih goodRest ran, get?_of_removeFile (good path List.mem_cons_self) gone, List.map_cons]
      by_cases here : q = (o.base.join path).names
      · simp [here]
      · simp [here]
    · cases ran

theorem write_eq_ok_iff {paths : List Path} {left : Disk} :
    o.write d files = (.ok paths, left) ↔ o.conflict? d files = none ∧ ∃ written removed,
      o.writeFiles d files = (written, none) ∧
      o.removeFiles written (o.stale d files) = (removed, none) ∧
      o.pruneDirectories removed = (left, none) ∧ paths = files.map o.target := by
  rw [write]
  constructor
  · intro ran
    split at ran
    · cases ran
    · rename_i free
      split at ran
      · cases ran
      · rename_i written wrote
        split at ran
        · cases ran
        · rename_i removed gone
          split at ran
          · cases ran
          · rename_i left pruned
            cases ran
            exact ⟨free, written, removed, wrote, gone, pruned, rfl⟩
  · rintro ⟨free, written, removed, wrote, gone, pruned, rfl⟩
    rw [free, wrote]
    dsimp only
    rw [gone]
    dsimp only
    rw [pruned]

theorem pairwise_apart (fits : o.Fits files) :
    files.Pairwise fun f g => ¬ (o.target f).names <+: (o.target g).names := by
  have distinct := List.pairwise_map.1 (List.nodup_iff_pairwise_ne.1 fits.distinct)
  refine distinct.imp_of_mem fun {f g} first second differ within => differ ?_
  rw [names_target (fits.relative f first), names_target (fits.relative g second),
    List.prefix_append_right_inj] at within
  exact fits.apart f first g second within

section replaced

variable (plain : o.path.Plain) (present : o.path.names ≠ [])

include plain present

theorem mem_stalePlaces_iff :
    (q ∈ (o.stale d files).map fun path => (o.base.join path).names) ↔
      ∃ rest content, rest ≠ [] ∧ q = o.path.names ++ rest ∧
        d.get? q = some (.file content) ∧ ⟨[], o.path.name :: rest⟩ ∉ files.map (·.path) := by
  have place : ∀ rest, (o.base.join ⟨[], o.path.name :: rest⟩).names = o.path.names ++ rest := by
    intro rest
    rw [join_of_free _ rfl]
    exact dropLast_append_name present rest
  rw [List.mem_map]
  constructor
  · rintro ⟨path, member, rfl⟩
    obtain ⟨there, notEmitted⟩ := mem_stale_iff.1 member
    obtain ⟨rest, content, strict, found, rfl⟩ := (mem_existing_iff plain present).1 there
    exact ⟨rest, content, strict, place rest, by rwa [place], notEmitted⟩
  · rintro ⟨rest, content, strict, rfl, found, notEmitted⟩
    exact ⟨_, mem_stale_iff.2 ⟨(mem_existing_iff plain present).2 ⟨rest, content, strict, found, rfl⟩,
      notEmitted⟩, place rest⟩

theorem plain_stale (path : Path) (member : path ∈ o.stale d files) :
    (o.base.join path).Plain := by
  obtain ⟨rest, content, -, found, rfl⟩ := (mem_existing_iff plain present).1 (mem_stale_iff.1 member).1
  exact (plain_base plain).join (relative_of_get? plain present found).plain

theorem target_notMem_stalePlaces (fits : o.Fits files) (member : f ∈ files) :
    (o.target f).names ∉ (o.stale d files).map fun path => (o.base.join path).names := by
  rw [mem_stalePlaces_iff plain present]
  rintro ⟨rest, content, -, same, -, notEmitted⟩
  exact notEmitted
    (List.mem_map.2 ⟨f, member, path_of_names_target present (fits.relative f member) same.symm⟩)

section write

variable {written removed : Disk} (fits : o.Fits files)
  (wrote : o.writeFiles d files = (written, none))
  (gone : o.removeFiles written (o.stale d files) = (removed, none))

include fits wrote gone

theorem get?_target_of_removed (member : f ∈ files) :
    removed.get? (o.target f).names = some (.file (encoded f)) := by
  have good : ∀ f ∈ files, (o.target f).Plain := fun f member =>
    plain_target plain (fits.relative f member)
  rw [get?_of_removeFiles (plain_stale plain present) gone,
    if_neg (target_notMem_stalePlaces plain present fits member)]
  exact get?_of_writeFiles_target good wrote (pairwise_apart fits) member

theorem get?_of_removed (apart : ∀ f ∈ files, ¬ q <+: (o.target f).names) :
    removed.get? q =
      if q ∈ (o.stale d files).map fun path => (o.base.join path).names then none
      else d.get? q := by
  have good : ∀ f ∈ files, (o.target f).Plain := fun f member =>
    plain_target plain (fits.relative f member)
  rw [get?_of_removeFiles (plain_stale plain present) gone,
    get?_of_writeFiles_of_apart good wrote apart]

theorem not_file_of_removed {content : ByteArray} (below : o.path.names <+: q)
    (strict : q ≠ o.path.names) (apart : ∀ f ∈ files, ¬ q <+: (o.target f).names) :
    removed.get? q ≠ some (.file content) := by
  obtain ⟨rest, rfl⟩ := below
  rw [get?_of_removed plain present fits wrote gone apart]
  intro found
  split at found
  · cases found
  · rename_i notStale
    refine notStale ((mem_stalePlaces_iff plain present).2
      ⟨rest, content, by simpa using strict, rfl, found, fun member => ?_⟩)
    obtain ⟨f, listed, same⟩ := List.mem_map.1 member
    exact apart f listed (names_target_of_eq present same ▸ List.prefix_rfl)

end write

theorem replaced_of_write (fits : o.Fits files) {paths : List Path} {left : Disk}
    (ran : o.write d files = (.ok paths, left)) : o.Replaced files d left := by
  obtain ⟨-, written, removed, wrote, gone, pruned, -⟩ := write_eq_ok_iff.1 ran
  have result := get?_of_pruneDirectories plain.direct plain.locate pruned
  refine ⟨fun f member => ?_, fun q below strict apart => ?_, fun q outside apart => ?_⟩
  · have here := get?_target_of_removed plain present fits wrote gone member
    rw [result, if_neg, here]
    intro hollow
    rw [(isHollow_iff.1 hollow).2.2.1] at here
    cases here
  · -- what is left below the directory apart from the files is hollow, and pruned
    rw [result]
    by_contra left
    split at left
    · exact left rfl
    · rename_i solid
      obtain ⟨e, found⟩ := Option.ne_none_iff_exists'.1 left
      cases e with
      | file content =>
        exact not_file_of_removed plain present fits wrote gone below strict apart found
      | directory =>
        refine solid (isHollow_iff.2 ⟨below, strict, found, fun r content there within => ?_⟩)
        have deeper : r ≠ o.path.names := by
          rintro rfl
          exact strict (within.eq_of_length_le below.length_le)
        exact not_file_of_removed plain present fits wrote gone (below.trans within) deeper
          (fun f member above => apart f member (within.trans above)) there
  · have notStale : q ∉ (o.stale d files).map fun path => (o.base.join path).names := by
      rw [mem_stalePlaces_iff plain present]
      rintro ⟨rest, content, some, rfl, -⟩
      exact outside ⟨List.prefix_append _ _, by simpa using some⟩
    have solid : removed.isHollow o.path.names q ≠ true := fun hollow =>
      outside ⟨(isHollow_iff.1 hollow).1, (isHollow_iff.1 hollow).2.1⟩
    rw [result, if_neg solid,
      get?_of_removed plain present fits wrote gone apart, if_neg notStale]

end replaced

end ProtoModules.OutputDirectory
