import Mathlib
import ProtoModules.Proofs.Output.Finished
import ProtoModules.Proofs.Output.Granted

/-! What a report says. New and changed files are in it in the order in which they are listed, and files that
are no longer listed in the order of their texts. Old files are known by texts made out of the name of
the directory and the names below it, listed ones by their own texts; paths are read back from
their texts, so the two are the same exactly if the files are. -/

namespace ProtoModules.OutputDirectory
open Disk Disk.Path

def IsNew (o : OutputDirectory) (d : Disk) (f : EmittedFile) : Prop :=
  d.get? (o.target f).names = none

def IsOutdated (o : OutputDirectory) (d : Disk) (f : EmittedFile) : Prop :=
  ∃ content, d.get? (o.target f).names = some (.file content) ∧ content ≠ encoded f

instance (o : OutputDirectory) (d : Disk) : DecidablePred (o.IsNew d) := fun _ =>
  inferInstanceAs (Decidable (_ = _))

instance (o : OutputDirectory) (d : Disk) : DecidablePred (o.IsOutdated d) := fun f =>
  match found : d.get? (o.target f).names with
  | some (.file content) => decidable_of_iff (content ≠ encoded f) (by simp [IsOutdated, found])
  | some .directory => isFalse (by simp [IsOutdated, found])
  | none => isFalse (by simp [IsOutdated, found])

def keyOf (o : OutputDirectory) (rest : List Name) : String :=
  (Disk.Path.mk [] (o.path.name :: rest)).toString

def IsOld (o : OutputDirectory) (files : List EmittedFile) (d : Disk) (text : String) : Prop :=
  ∃ rest content, rest ≠ [] ∧ d.get? (o.path.names ++ rest) = some (.file content) ∧
    text = o.keyOf rest ∧ text ∉ files.map fun f => f.path.toString

/-- The directory holds the listed files and no other ones, and the root module file is as listed. -/
structure Matches (o : OutputDirectory) (files : List EmittedFile) (d : Disk) : Prop where
  inside : ∀ q content, o.IsInside q → (d.get? q = some (.file content) ↔
    ∃ f ∈ files, q = (o.target f).names ∧ content = encoded f)
  root : ∀ f ∈ files, f.path = o.rootPath → d.get? o.rootPlace = some (.file (encoded f))

variable {o : OutputDirectory} {d : Disk} {files : List EmittedFile} {f g : EmittedFile}
  {report : Report} {rest : List Name} {text : String}

theorem matches_iff (present : o.path.names ≠ []) (good : ∀ f ∈ files, f.path.Relative)
    (inside : ∀ f ∈ files, o.InFootprint f.path) : o.Matches files d ↔ o.Holds files d := by
  constructor
  · refine fun same => ⟨fun f member => ?_, fun rest content strict found => ?_⟩
    · rcases isInside_or_root present (inside f member) with below | root
      · exact (same.inside _ _ below).2 ⟨f, member, rfl, rfl⟩
      · rw [names_target_of_root root]
        exact same.root f member root
    · have below : o.IsInside (o.path.names ++ rest) :=
        ⟨List.prefix_append _ _, by simpa using strict⟩
      obtain ⟨f, member, place, -⟩ := (same.inside _ _ below).1 found
      exact List.mem_map.2 ⟨f, member, path_of_names_target present (good f member) place⟩
  · refine fun holds => ⟨fun q content below => ⟨fun found => ?_, ?_⟩, fun f member root => ?_⟩
    · obtain ⟨⟨rest, rfl⟩, strict⟩ := below
      obtain ⟨f, member, same⟩ :=
        List.mem_map.1 (holds.only rest content (by simpa using strict) found)
      have place := names_target_of_eq present same
      rw [← place, holds.written f member] at found
      cases found
      exact ⟨f, member, place.symm, rfl⟩
    · rintro ⟨f, member, rfl, rfl⟩
      exact holds.written f member
    · rw [← names_target_of_root root, holds.written f member]

section one

variable (plain : o.path.Plain) (good : f.path.Relative)

include plain good

theorem hasEntry_target_eq_false_iff : d.hasEntry (o.target f) = false ↔ o.IsNew d f := by
  rw [hasEntry_eq (plain_target plain good), Option.isSome_eq_false_iff, Option.isNone_iff_eq_none]
  rfl

theorem isOutdated_iff :
    (d.hasEntry (o.target f) && o.isChanged d f) = true ↔ o.IsOutdated d f := by
  have target := plain_target plain good
  rw [hasEntry_eq target, isChanged, IsOutdated, Disk.read, access_eq target]
  cases d.get? (o.target f).names with
  | none => simp
  | some e =>
    cases e with
    | directory => simp
    | file content => simp [← Bool.not_eq_false, bytes_bne_eq_false_iff]

end one

section all

variable (plain : o.path.Plain) (good : ∀ f ∈ files, f.path.Relative)

include plain good

theorem filter_new :
    files.filter (fun f => !d.hasEntry (o.target f)) = files.filter fun f => o.IsNew d f := by
  refine List.filter_congr fun f member => ?_
  rw [Bool.eq_iff_iff, Bool.not_eq_true', decide_eq_true_iff]
  exact hasEntry_target_eq_false_iff plain (good f member)

theorem filter_outdated :
    (files.filter fun f => d.hasEntry (o.target f)).filter (o.isChanged d) =
      files.filter fun f => o.IsOutdated d f := by
  rw [List.filter_filter]
  refine List.filter_congr fun f member => ?_
  rw [Bool.eq_iff_iff, Bool.and_comm, decide_eq_true_iff]
  exact isOutdated_iff plain (good f member)

end all

theorem not_isOutdated_of_isNew (new : o.IsNew d f) : ¬ o.IsOutdated d f := by
  rintro ⟨content, file, -⟩
  rw [new] at file
  cases file

section texts

variable (good : ∀ f ∈ files, f.path.Relative)

include good

theorem eq_of_text (distinct : (files.map (·.path)).Nodup) (first : f ∈ files) (second : g ∈ files)
    (same : f.path.toString = g.path.toString) : f = g :=
  List.inj_on_of_nodup_map distinct first second
    ((good f first).eq_of_toString (good g second) same)

theorem nodup_texts (distinct : (files.map (·.path)).Nodup) {p q : EmittedFile → Bool}
    (apart : ∀ f, p f = true → q f ≠ true) :
    ((files.filter p).map (fun f => f.path.toString) ++
      (files.filter q).map fun f => f.path.toString).Nodup := by
  rw [← List.map_append]
  refine List.Nodup.map_on (fun f first g second same => ?_) ?_
  · have listed : ∀ f ∈ files.filter p ++ files.filter q, f ∈ files := fun f member =>
      (List.mem_append.1 member).elim List.mem_of_mem_filter List.mem_of_mem_filter
    exact eq_of_text good distinct (listed f first) (listed g second) same
  · have once := distinct.of_map
    refine List.nodup_append.2 ⟨once.filter _, once.filter _, ?_⟩
    rintro f first g second rfl
    exact apart f (List.mem_filter.1 first).2 (List.mem_filter.1 second).2

end texts

section old

variable (plain : o.path.Plain) (present : o.path.names ≠ [])

include plain present

theorem relative_of_mem_existing {path : Path} (member : path ∈ o.existing d) : path.Relative := by
  obtain ⟨rest, content, -, found, rfl⟩ := (mem_existing_iff plain present).1 member
  exact relative_of_get? plain present found

theorem mem_removed_iff (good : ∀ f ∈ files, f.path.Relative) :
    text ∈ (o.stale d files).map Path.toString ↔ o.IsOld files d text := by
  rw [List.mem_map]
  constructor
  · rintro ⟨path, member, rfl⟩
    obtain ⟨there, foreign⟩ := mem_stale_iff.1 member
    have own := relative_of_mem_existing plain present there
    obtain ⟨rest, content, strict, found, rfl⟩ := (mem_existing_iff plain present).1 there
    refine ⟨rest, content, strict, found, rfl, fun listed => foreign ?_⟩
    obtain ⟨f, inList, same⟩ := List.mem_map.1 listed
    exact List.mem_map.2 ⟨f, inList, (good f inList).eq_of_toString own same⟩
  · rintro ⟨rest, content, strict, found, rfl, foreign⟩
    refine ⟨_, mem_stale_iff.2 ⟨(mem_existing_iff plain present).2
      ⟨rest, content, strict, found, rfl⟩, fun listed => foreign ?_⟩, rfl⟩
    obtain ⟨f, inList, same⟩ := List.mem_map.1 listed
    exact List.mem_map.2 ⟨f, inList, congrArg Path.toString same⟩

theorem pairwise_removed : ((o.stale d files).map Path.toString).Pairwise (· < ·) := by
  have upward : (o.stale d files).Pairwise fun a b => a.toText < b.toText := by
    refine pairwise_lt_mergeSort_of_iff (fun a b => by simp)
      (((nodup_existing plain.proper).of_map _).filter _) fun a first b second same => ?_
    exact (relative_of_mem_existing plain present (List.mem_filter.1 first).1).eq_of_toText
      (relative_of_mem_existing plain present (List.mem_filter.1 second).1) same
  rw [List.pairwise_map]
  refine upward.imp fun {a b} less => ?_
  rwa [String.lt_iff_toList_lt, Path.toString, Path.toString, String.toList_ofList,
    String.toList_ofList]

end old

/-- A report names the new and the changed files in the order of the list and the old ones in the order of
their texts, each once, and it is empty exactly if everything is as listed. -/
theorem report_of_diff (plain : o.path.Plain) (present : o.path.names ≠ [])
    (good : ∀ f ∈ files, f.path.Relative) (inside : ∀ f ∈ files, o.InFootprint f.path)
    (distinct : (files.map (·.path)).Nodup) (ran : o.diff d files = .ok report) :
    report.added = (files.filter fun f => o.IsNew d f).map (fun f => f.path.toString) ∧
    report.changed = (files.filter fun f => o.IsOutdated d f).map (fun f => f.path.toString) ∧
    (∀ text, text ∈ report.removed ↔ o.IsOld files d text) ∧ report.removed.Pairwise (· < ·) ∧
    (report.added ++ report.changed ++ report.removed).Nodup ∧
    (report.isEmpty = true ↔ o.Matches files d) := by
  obtain ⟨free, shape⟩ := diff_eq_ok_iff.1 ran
  have added : report.added =
      (files.filter fun f => o.IsNew d f).map fun f => f.path.toString := by
    rw [shape, filter_new plain good]
  have changed : report.changed =
      (files.filter fun f => o.IsOutdated d f).map fun f => f.path.toString := by
    rw [shape, filter_outdated plain good]
  have removed : report.removed = (o.stale d files).map Path.toString := by rw [shape]
  have old : ∀ text, text ∈ report.removed ↔ o.IsOld files d text := fun text => by
    rw [removed, mem_removed_iff plain present good]
  have ordered : report.removed.Pairwise (· < ·) := removed ▸ pairwise_removed plain present
  refine ⟨added, changed, old, ordered, ?_, ?_⟩
  · refine List.nodup_append.2 ⟨?_, List.nodup_iff_pairwise_ne.2 (ordered.imp ne_of_lt), ?_⟩
    · rw [added, changed]
      refine nodup_texts good distinct fun f new => ?_
      simpa using not_isOutdated_of_isNew (of_decide_eq_true new)
    · rintro text first _ second rfl
      -- an old file is not listed, the others are
      obtain ⟨-, -, -, -, -, foreign⟩ := (old text).1 second
      rw [added, changed, ← List.map_append] at first
      obtain ⟨f, member, rfl⟩ := List.mem_map.1 first
      exact foreign (List.mem_map.2 ⟨f, (List.mem_append.1 member).elim List.mem_of_mem_filter
        List.mem_of_mem_filter, rfl⟩)
  · have empty : report.isEmpty = true ↔ o.diff d files = .ok {} := by
      rw [isEmpty_iff, ran, Except.ok.injEq]
    rw [empty, diff_eq_ok_empty_iff plain present good, matches_iff present good inside]
    exact and_iff_right free

def mixed : Disk := holding ["src/gen/x/old.rs", "src/gen/foo.rs", "src/gen/a.rs", "src/lib.rs"]

theorem report_of_mixed : ∃ report,
    report = ⟨["gen.rs", "gen/x/bar.rs"], ["gen/foo.rs"], ["gen/a.rs", "gen/x/old.rs"]⟩ ∧
    nested.path.Plain ∧ nested.path.names ≠ [] ∧ (∀ f ∈ regrowth, f.path.Relative) ∧
    (∀ f ∈ regrowth, nested.InFootprint f.path) ∧ (regrowth.map (·.path)).Nodup ∧
    nested.diff mixed regrowth = .ok report ∧
    report.added = (regrowth.filter fun f => nested.IsNew mixed f).map (fun f => f.path.toString) ∧
    report.changed =
      (regrowth.filter fun f => nested.IsOutdated mixed f).map (fun f => f.path.toString) ∧
    (∀ text, text ∈ report.removed ↔ nested.IsOld regrowth mixed text) ∧
    report.removed.Pairwise (· < ·) ∧
    (report.added ++ report.changed ++ report.removed).Nodup ∧
    (report.isEmpty = true ↔ nested.Matches regrowth mixed) := by
  have plain : nested.path.Plain := by decide +kernel
  have present : nested.path.names ≠ [] := by decide +kernel
  have fits : nested.Fits regrowth := by decide +kernel
  have ran : nested.diff mixed regrowth =
      .ok ⟨["gen.rs", "gen/x/bar.rs"], ["gen/foo.rs"], ["gen/a.rs", "gen/x/old.rs"]⟩ := by cbv
  exact ⟨_, rfl, plain, present, fits.relative, fits.inside, fits.distinct, ran,
    report_of_diff plain present fits.relative fits.inside fits.distinct ran⟩

end ProtoModules.OutputDirectory
