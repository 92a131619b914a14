import ProtoModules.Proofs.Disk.Accept
import ProtoModules.Proofs.Disk.Growth
import ProtoModules.Proofs.Output.Replace

/-! What is left to do once all files have been written. The old files are all still there, as writing makes
nothing disappear, so they can be removed, and after that the directory can be pruned. So writing
is refused at one of the files or not at all, if the path of the output directory is direct. -/

namespace ProtoModules.OutputDirectory
open Disk Disk.Path

variable {o : OutputDirectory} {d written : Disk} {files : List EmittedFile} {path : Path}

theorem grows_writeFiles (ran : o.writeFiles d files = (written, none)) : Grows d written := by
  induction files generalizing d with
  | nil =>
    obtain ⟨rfl, -⟩ := Prod.mk.inj ran
    exact .refl d
  | cons f rest ih =>
    obtain ⟨made, next, dirs, file, ranRest⟩ := writeFiles_cons ran
    exact ((grows_makeDirs dirs).trans (grows_write file)).trans (ih ranRest)

theorem join_relative (proper : o.path.Proper) {rest : List Name}
    (named : ∀ name ∈ rest, isName name = true) :
    o.base.join (o.relative rest) = ⟨o.path.root, o.path.names ++ rest⟩ := by
  have parts : ∀ name ∈ rest, IsPart name := fun name member => isPart_of_isName (named name member)
  by_cases top : o.path.names = []
  · have same : o.relative rest = ⟨[], rest⟩ := by
      rw [relative, name, top]
      exact ofTexts_cons [] parts
    rw [same, join_of_free _ rfl, base, parent, top]
    rfl
  · have same : o.relative rest = ⟨[], o.path.name :: rest⟩ :=
      ofTexts_parts (List.forall_mem_cons.2 ⟨proper _ (name_mem top), parts⟩)
    rw [same, join_of_free _ rfl, ← dropLast_append_name top rest]
    rfl

theorem exists_of_mem_existing (proper : o.path.Proper) (member : path ∈ o.existing d) :
    ∃ p content, d.locate (o.base.join path) = .ok p ∧ d.get? p = some (.file content) := by
  rw [existing] at member
  cases found : d.locate o.path with
  | error fault =>
    rw [found] at member
    cases member
  | ok out =>
    rw [found] at member
    obtain ⟨⟨q, e⟩, listed, isFile⟩ := List.mem_filterMap.1 member
    obtain ⟨there, ⟨rest, rfl⟩, -⟩ := mem_below.1 listed
    have here : d.get? (out ++ rest) = some e := get?_eq_some_iff.2 there
    have named : ∀ name ∈ rest, isName name = true := fun name within =>
      isName_of_get? here name (List.mem_append_right _ within)
    have level : upward ∉ rest := fun within => (isName_iff.1 (named upward within)).2 rfl
    cases e with
    | directory => simp at isFile
    | file content =>
      simp only [reduceCtorEq, if_false, List.drop_left, Option.some.injEq] at isFile
      refine ⟨out ++ rest, content, ?_, here⟩
      rw [← isFile, join_relative proper named]
      exact locate_append level found

theorem nodup_existing (proper : o.path.Proper) :
    ((o.existing d).map fun path => (o.base.join path).place).Nodup := by
  rw [existing]
  cases found : d.locate o.path with
  | error fault => exact List.nodup_nil
  | ok out =>
    have place : ∀ item ∈ d.below out,
        (o.base.join (o.relative (item.1.drop out.length))).place = item.1 := by
      rintro ⟨q, e⟩ member
      obtain ⟨there, ⟨rest, rfl⟩, -⟩ := mem_below.1 member
      have named : ∀ name ∈ rest, isName name = true := fun name within =>
        isName_of_get? (get?_eq_some_iff.2 there) name (List.mem_append_right _ within)
      rw [List.drop_left, join_relative proper named,
        place_append fun within => (isName_iff.1 (named upward within)).2 rfl]
      exact congrArg (· ++ rest) (place_of_locate found)
    have once : (d.below out).Pairwise fun a b => a.1 ≠ b.1 :=
      (List.pairwise_map.1 (List.nodup_iff_pairwise_ne.1 d.sound.once)).sublist List.filter_sublist
    dsimp only
    rw [List.nodup_iff_pairwise_ne, List.pairwise_map, List.pairwise_filterMap]
    refine once.imp_of_mem fun {a b} first second differ pathA foundA pathB foundB => ?_
    simp only [Option.ite_none_left_eq_some, Option.some.injEq] at foundA foundB
    obtain ⟨-, rfl⟩ := foundA
    obtain ⟨-, rfl⟩ := foundB
    rw [place a first, place b second]
    exact differ

theorem removeFiles_of_there {paths : List Path}
    (there : ∀ path ∈ paths, ∃ p content, d.locate (o.base.join path) = .ok p ∧
      d.get? p = some (.file content))
    (distinct : (paths.map fun path => (o.base.join path).place).Nodup) :
    ∃ removed, o.removeFiles d paths = (removed, none) := by
  induction paths generalizing d with
  | nil => exact ⟨d, rfl⟩
  | cons path rest ih =>
    rw [List.map_cons, List.nodup_cons] at distinct
    obtain ⟨p, content, found, here⟩ := there path List.mem_cons_self
    obtain ⟨next, gone, result⟩ := exists_removeFile found here
    have later : ∀ other ∈ rest, ∃ q content, next.locate (o.base.join other) = .ok q ∧
        next.get? q = some (.file content) := by
      intro other member
      obtain ⟨q, old, located, file⟩ := there other (List.mem_cons_of_mem _ member)
      have differ : q ≠ p := by
        rintro rfl
        refine distinct.1 (List.mem_map.2 ⟨other, member, ?_⟩)
        rw [place_of_locate located, place_of_locate found]
      refine ⟨q, old, locate_of_directories (fun begun _ directory => ?_) located, by
        rw [result, if_neg differ, file]⟩
      rw [result, if_neg, directory]
      intro same
      rw [same, here] at directory
      cases directory
    obtain ⟨removed, ran⟩ := ih later distinct.2
    exact ⟨removed, by simp only [removeFiles, gone, ran]⟩

section finish

variable (proper : o.path.Proper) (wrote : o.writeFiles d files = (written, none))

include proper wrote

theorem exists_removed : ∃ removed, o.removeFiles written (o.stale d files) = (removed, none) := by
  have grows := grows_writeFiles wrote
  refine removeFiles_of_there (fun path member => ?_) ?_
  · obtain ⟨p, content, found, here⟩ := exists_of_mem_existing proper (mem_stale_iff.1 member).1
    obtain ⟨now, still⟩ := grows.file p content here
    exact ⟨p, now, grows.locate found, still⟩
  · rw [stale, ((List.mergeSort_perm _ _).map _).nodup_iff]
    exact (nodup_existing proper).sublist (List.filter_sublist.map _)

theorem write_of_written (direct : o.path.Direct) (free : o.conflict? d files = none) :
    ∃ left, o.write d files = (.ok (files.map o.target), left) := by
  obtain ⟨removed, gone⟩ := exists_removed proper wrote
  obtain ⟨left, pruned, -, -⟩ := exists_pruned direct removed
  exact ⟨left, write_eq_ok_iff.2 ⟨free, written, removed, wrote, gone, pruned, rfl⟩⟩

end finish

def nested : OutputDirectory := ⟨Path.ofString "src/gen"⟩

def holding (paths : List String) : Disk :=
  paths.foldl (fun d path => d.store (Path.ofString path) (.file path.toUTF8)) Disk.empty

def listed (files : List (String × String)) : List EmittedFile :=
  files.map fun item => ⟨Path.ofString item.1, item.2.toList, []⟩

def regrowth : List EmittedFile :=
  listed [("gen.rs", "r"), ("gen/foo.rs", "f"), ("gen/x/bar.rs", "b")]

end ProtoModules.OutputDirectory
