import Mathlib.Data.Char
import Mathlib.Data.List.Lex
import ProtoModules.Proofs.Output.Replace

/-! Comparing the output directory with files. Nothing is in the way if no file stands where a directory is
needed and no directory where a file is; then the report is empty exactly if every file is there
with its content and the directory holds no other one. Right after the files have replaced the
content of the directory this is so. -/

namespace ProtoModules.OutputDirectory
open Disk Disk.Path

/-- The disk has the files, each with its content, and no other file in the directory. -/
structure Holds (o : OutputDirectory) (files : List EmittedFile) (d : Disk) : Prop where
  written : ∀ f ∈ files, d.get? (o.target f).names = some (.file (encoded f))
  only : ∀ rest content, rest ≠ [] → d.get? (o.path.names ++ rest) = some (.file content) →
    ⟨[], o.path.name :: rest⟩ ∈ files.map (·.path)

variable {o : OutputDirectory} {d : Disk} {files : List EmittedFile} {f : EmittedFile} {path : Path}
  {report : Report}

theorem mem_parents_iff {p : Path} :
    p ∈ path.parents ↔
      ∃ names, names <+: path.names ∧ names ≠ path.names ∧ p = ⟨path.root, names⟩ := by
  simp only [parents, List.mem_map, List.mem_reverse, List.mem_range]
  constructor
  · rintro ⟨n, short, rfl⟩
    refine ⟨_, List.take_prefix n _, fun whole => ?_, rfl⟩
    have length := congrArg List.length whole
    rw [List.length_take] at length
    omega
  · rintro ⟨names, above, strict, rfl⟩
    refine ⟨names.length, ?_, by rw [← List.prefix_iff_eq_take.1 above]⟩
    exact Nat.lt_of_le_of_ne above.length_le fun same => strict (above.eq_of_length same)

theorem parents_concat (root : List Char) (names : List Name) (name : Name) :
    (Disk.Path.mk root (names ++ [name])).parents = ⟨root, names⟩ :: (Disk.Path.mk root names).parents := by
  have take : ∀ n ∈ (List.range names.length).reverse,
      Disk.Path.mk root ((names ++ [name]).take n) = ⟨root, names.take n⟩ := by
    intro n member
    have short := List.mem_range.1 (List.mem_reverse.1 member)
    rw [List.take_append_of_le_length (Nat.le_of_lt short)]
  rw [parents, parents, List.length_append, List.length_singleton, List.range_succ,
    List.reverse_concat, List.map_cons, List.take_left, List.map_congr_left take]

theorem ancestorConflict?_cons (plain : path.Plain) (rest : List Path) :
    ancestorConflict? d (path :: rest) = match d.get? path.names with
      | none => ancestorConflict? d rest
      | some .directory => none
      | some (.file _) => some ⟨path, .directory⟩ := by
  rw [ancestorConflict?, hasEntry_eq plain, hasDirectory, access_eq plain]
  cases d.get? path.names with
  | none => rfl
  | some e => cases e <;> rfl

theorem ancestorConflict?_eq_none_iff (plain : path.Plain) :
    ancestorConflict? d (path :: path.parents) = none ↔
      ∀ q content, q <+: path.names → d.get? q ≠ some (.file content) := by
  obtain ⟨root, names⟩ := path
  induction names using List.reverseRecOn with
  | nil =>
    rw [ancestorConflict?_cons plain, get?_nil]
    exact iff_of_true rfl fun q content above => not_file_of_directory (get?_nil d) above content
  | append_singleton names name ih =>
    rw [ancestorConflict?_cons plain, parents_concat]
    dsimp only
    cases found : d.get? (names ++ [name]) with
    | none =>
      refine (ih (plain.of_above (List.prefix_append _ _))).trans ?_
      refine forall_congr' fun q => forall_congr' fun content => ⟨fun free above => ?_, fun free above =>
        free (above.trans (List.prefix_append _ _))⟩
      rcases List.prefix_concat_iff.1 above with rfl | within
      · simp [found]
      · exact free within
    | some e =>
      cases e with
      | directory =>
        exact iff_of_true rfl fun q content above => not_file_of_directory found above content
      | file content =>
        exact iff_of_false (by simp) fun free => free _ content List.prefix_rfl found

theorem conflict?_none_iff :
    o.conflict? d files = none ↔ ancestorConflict? d (o.path :: o.path.parents) = none ∧
      ∀ f ∈ files, o.fileConflict? d f = none := by
  rw [conflict?, ← List.findSome?_eq_none_iff]
  cases ancestorConflict? d (o.path :: o.path.parents) <;> simp

section files

variable (plain : o.path.Plain)

include plain

theorem fileConflict?_eq_none_iff (good : f.path.Relative) :
    o.fileConflict? d f = none ↔ d.get? (o.target f).names ≠ some .directory ∧
      ∀ names, names <+: f.path.names → names ≠ f.path.names → names ≠ [] →
        ∀ content, d.get? (o.path.names.dropLast ++ names) ≠ some (.file content) := by
  have stands : ∀ names, names <+: f.path.names →
      ((d.hasEntry (o.base.join ⟨[], names⟩) && !d.hasDirectory (o.base.join ⟨[], names⟩)) = true ↔
        ∃ content, d.get? (o.path.names.dropLast ++ names) = some (.file content)) := by
    intro names within
    have part : Plain ⟨[], names⟩ := good.plain.of_above within
    rw [standsFile_iff ((plain_base plain).join part), join_of_free _ rfl]
    rfl
  rw [fileConflict?]
  by_cases blocked : (d.hasEntry (o.target f) && !d.hasFile (o.target f)) = true
  · rw [if_pos blocked]
    exact iff_of_false (by simp) fun free =>
      free.1 ((standsDirectory_iff (plain_target plain good)).1 blocked)
  · rw [if_neg blocked, List.findSome?_eq_none_iff]
    rw [standsDirectory_iff (plain_target plain good)] at blocked
    constructor
    · refine fun free => ⟨blocked, fun names within strict some content file => ?_⟩
      have parent : Disk.Path.mk [] names ∈ f.path.parents :=
        mem_parents_iff.2 ⟨names, within, strict, by rw [good.free]⟩
      have none := free _ (List.mem_map_of_mem (List.mem_filter.2 ⟨parent, by simpa [working] using some⟩))
      rw [if_pos ((stands names within).2 ⟨content, file⟩)] at none
      cases none
    · rintro ⟨-, free⟩ directory member
      obtain ⟨parent, kept, rfl⟩ := List.mem_map.1 member
      obtain ⟨parent, some⟩ := List.mem_filter.1 kept
      obtain ⟨names, within, strict, rfl⟩ := mem_parents_iff.1 parent
      rw [good.free] at some ⊢
      rw [if_neg]
      rw [stands names within]
      rintro ⟨content, file⟩
      exact free names within strict (by simpa [working] using some) content file

theorem conflict?_eq_none_iff :
    o.conflict? d files = none ↔
      (∀ q content, q <+: o.path.names → d.get? q ≠ some (.file content)) ∧
        ∀ f ∈ files, o.fileConflict? d f = none := by
  rw [conflict?_none_iff, ancestorConflict?_eq_none_iff plain]

theorem Holds.conflict?_eq_none (holds : o.Holds files d) (fits : o.Fits files)
    (first : f ∈ files) (open? : ∀ content, d.get? o.path.names ≠ some (.file content)) :
    o.conflict? d files = none := by
  -- all that a file lies in is a directory
  have above : ∀ f ∈ files, ∀ q content, q <+: (o.target f).names → q ≠ (o.target f).names →
      d.get? q ≠ some (.file content) := by
    intro f member q content within strict
    rw [directory_of_above (holds.written f member) within strict]
    simp
  have base : ∀ f ∈ files, o.path.names.dropLast <+: (o.target f).names ∧
      (o.target f).names.length ≠ o.path.names.dropLast.length := by
    intro f member
    rw [names_target (fits.relative f member)]
    refine ⟨List.prefix_append _ _, ?_⟩
    rcases fits.inside f member with same | ⟨rest, -, same⟩ <;> simp [same]
  refine (conflict?_eq_none_iff plain).2 ⟨fun q content within => ?_, fun f member => ?_⟩
  · by_cases here : q = o.path.names
    · exact here ▸ open? content
    · obtain ⟨below, longer⟩ := base f first
      have inBase := (prefix_dropLast_iff here).2 within
      refine above f first q content (inBase.trans below) fun same => longer ?_
      have := inBase.length_le
      have := below.length_le
      rw [same] at *
      omega
  · refine (fileConflict?_eq_none_iff plain (fits.relative f member)).2
      ⟨?_, fun names within strict _ content => above f member _ content ?_ ?_⟩
    · rw [holds.written f member]
      simp
    · rw [names_target (fits.relative f member), List.prefix_append_right_inj]
      exact within
    · rw [names_target (fits.relative f member), ne_eq, List.append_cancel_left_eq]
      exact strict

end files

theorem bytes_bne_eq_false_iff {a b : ByteArray} : (a != b) = false ↔ a = b := by
  rw [bne, Bool.not_eq_false', ByteArray.ext_iff]
  exact (beq_iff_eq : (a.data == b.data) = true ↔ a.data = b.data)

theorem pairwise_stale (d : Disk) (files : List EmittedFile) :
    ((o.stale d files).map Path.toText).Pairwise (· ≤ ·) :=
  List.pairwise_map.2 (pairwise_mergeSort_of_iff (fun a b => by simp) _)

theorem diff_eq_ok_iff :
    o.diff d files = .ok report ↔ o.conflict? d files = none ∧ report = {
      added := (files.filter fun f => !d.hasEntry (o.target f)).map fun f => f.path.toString
      changed := ((files.filter fun f => d.hasEntry (o.target f)).filter (o.isChanged d)).map
        fun f => f.path.toString
      removed := (o.stale d files).map Path.toString } := by
  rw [diff]
  cases o.conflict? d files with
  | some conflict => simp
  | none =>
    rw [List.partition_eq_filter_filter]
    simp only [Except.ok.injEq, true_and]
    exact eq_comm

section files

variable (plain : o.path.Plain) (present : o.path.names ≠ [])

include plain

theorem written_iff (good : f.path.Relative) (free : o.fileConflict? d f = none) :
    d.get? (o.target f).names = some (.file (encoded f)) ↔
      d.hasEntry (o.target f) = true ∧ o.isChanged d f = false := by
  have target := plain_target plain good
  have noDirectory := ((fileConflict?_eq_none_iff plain good).1 free).1
  rw [hasEntry_eq target, isChanged, Disk.read, access_eq target]
  cases found : d.get? (o.target f).names with
  | none => simp
  | some e =>
    cases e with
    | directory => exact absurd found noDirectory
    | file content => simp [bytes_bne_eq_false_iff]

include present

theorem stale_eq_nil_iff :
    o.stale d files = [] ↔ ∀ rest content, rest ≠ [] →
      d.get? (o.path.names ++ rest) = some (.file content) →
      ⟨[], o.path.name :: rest⟩ ∈ files.map (·.path) := by
  rw [List.eq_nil_iff_forall_not_mem]
  constructor
  · intro none rest content strict found
    by_contra notEmitted
    exact none _ (mem_stale_iff.2
      ⟨(mem_existing_iff plain present).2 ⟨rest, content, strict, found, rfl⟩, notEmitted⟩)
  · intro all path member
    obtain ⟨there, notEmitted⟩ := mem_stale_iff.1 member
    obtain ⟨rest, content, strict, found, rfl⟩ := (mem_existing_iff plain present).1 there
    exact notEmitted (all rest content strict found)

theorem diff_eq_ok_empty_iff (good : ∀ f ∈ files, f.path.Relative) :
    o.diff d files = .ok {} ↔ o.conflict? d files = none ∧ o.Holds files d := by
  rw [diff_eq_ok_iff]
  refine and_congr_right fun free => ?_
  have open? := ((conflict?_eq_none_iff plain).1 free).2
  simp only [Report.mk.injEq, List.nil_eq, List.map_eq_nil_iff, List.filter_eq_nil_iff,
    stale_eq_nil_iff plain present, List.mem_filter, and_imp]
  constructor
  · rintro ⟨added, changed, removed⟩
    refine ⟨fun f member => ?_, removed⟩
    have there : d.hasEntry (o.target f) = true := by simpa using added f member
    exact (written_iff plain (good f member) (open? f member)).2
      ⟨there, by simpa using changed f member there⟩
  · rintro ⟨written, only⟩
    have each := fun f member =>
      (written_iff plain (good f member) (open? f member)).1 (written f member)
    exact ⟨fun f member => by simp [(each f member).1],
      fun f member _ => by simp [(each f member).2], only⟩

end files

theorem isEmpty_iff : report.isEmpty = true ↔ report = {} := by
  obtain ⟨added, changed, removed⟩ := report
  simp [Report.isEmpty, Report.count, and_assoc]

theorem Replaced.holds {before after : Disk} (replaced : o.Replaced files before after)
    (present : o.path.names ≠ []) (fits : o.Fits files) : o.Holds files after := by
  refine ⟨replaced.written, fun rest content strict found => ?_⟩
  by_contra notEmitted
  have empty : after.get? (o.path.names ++ rest) = none := by
    refine replaced.emptied _ (List.prefix_append _ _) (by simpa using strict) fun f member within => ?_
    by_cases same : o.path.names ++ rest = (o.target f).names
    · exact notEmitted
        (List.mem_map.2 ⟨f, member, path_of_names_target present (fits.relative f member) same⟩)
    · rw [directory_of_above (replaced.written f member) within same] at found
      cases found
  rw [empty] at found
  cases found

theorem diff_of_write (plain : o.path.Plain) (present : o.path.names ≠ []) (fits : o.Fits files)
    (first : f ∈ files) {paths : List Path} {left : Disk}
    (ran : o.write d files = (.ok paths, left)) : o.diff left files = .ok {} := by
  have replaced := replaced_of_write plain present fits ran
  have holds := replaced.holds present fits
  refine (diff_eq_ok_empty_iff plain present fits.relative).2
    ⟨holds.conflict?_eq_none plain fits first fun content file => ?_, holds⟩
  -- a file in place of the directory would have been in the way
  have free := ((conflict?_eq_none_iff plain).1 (write_eq_ok_iff.1 ran).1).1
  by_cases above : ∃ g ∈ files, o.path.names <+: (o.target g).names
  · obtain ⟨g, member, within⟩ := above
    rcases fits.inside g member with root | ⟨rest, some, same⟩
    · have whole := dropLast_append_name present []
      rw [List.append_nil] at whole
      rw [names_target (fits.relative g member), root, ← whole, List.dropLast_concat,
        List.prefix_append_right_inj] at within
      simp [PackageTree.ending] at within
    · have same := names_target_of_eq present same
      rw [directory_of_above (holds.written g member) within (by simp [same, some])] at file
      cases file
  · rw [replaced.kept _ (by simp) (by simpa using above)] at file
    exact free _ content List.prefix_rfl file

end ProtoModules.OutputDirectory
