import Mathlib.Data.Char
import Mathlib.Data.List.Lex
import Mathlib.Data.List.Sort
import ProtoModules.Proofs.Disk.Alike
import ProtoModules.Proofs.Output.Granted

/-! What a comparison looks at. Apart from the files in the directory and the root module file it only
matters which files stand on the way to the directory: the directories on the way may come and
go. So disks that agree in these get the same report or the same conflict, though their entries
may be listed in different orders. -/

namespace ProtoModules

namespace Disk
open Disk.Path

variable {d d' : Disk} {path : Path} (plain : path.Plain)
  (same : d'.get? path.names = d.get? path.names)

include plain same

theorem hasEntry_congr : d'.hasEntry path = d.hasEntry path := by
  rw [hasEntry_eq plain, hasEntry_eq plain, same]

theorem hasFile_congr : d'.hasFile path = d.hasFile path := by
  rw [hasFile, hasFile, access_eq plain, access_eq plain, same]
  cases d.get? path.names <;> rfl

theorem hasDirectory_congr : d'.hasDirectory path = d.hasDirectory path := by
  rw [Bool.eq_iff_iff, hasDirectory_iff plain, hasDirectory_iff plain, same]

end Disk

namespace OutputDirectory
open Disk Disk.Path

/-- The directory with all that can lie below it, and the root module file beside it. -/
def Owns (o : OutputDirectory) (names : List Name) : Prop :=
  o.path.names <+: names ∨ names = o.path.names.dropLast ++ [o.path.name ++ PackageTree.ending]

/-- Nothing of one is something of the other, contains it or lies in it. -/
def Apart (o o' : OutputDirectory) : Prop :=
  ∀ a b, o.Owns a → o'.Owns b → ¬ a <+: b ∧ ¬ b <+: a

/-- The disks agree in what the directory owns and in the files on the way to it. -/
structure Undisturbed (o : OutputDirectory) (d d' : Disk) : Prop where
  own : ∀ q, o.Owns q → d'.get? q = d.get? q
  way : ∀ q content, q <+: o.path.names →
    (d'.get? q = some (.file content) ↔ d.get? q = some (.file content))

variable {o o' : OutputDirectory} {d d' : Disk} {files : List EmittedFile} {f : EmittedFile}

theorem Apart.symm (apart : o.Apart o') : o'.Apart o :=
  fun a b first second => (apart b a second first).symm

theorem Undisturbed.of_alike (same : Alike d d') : o.Undisturbed d d' where
  own q _ := (same q).symm
  way q content _ := by rw [same q]

theorem Undisturbed.trans {d'' : Disk} (first : o.Undisturbed d d') (second : o.Undisturbed d' d'') :
    o.Undisturbed d d'' where
  own q owned := (second.own q owned).trans (first.own q owned)
  way q content above := (second.way q content above).trans (first.way q content above)

theorem Fits.of_paths {out : List EmittedFile} (fits : o.Fits files)
    (same : out.map (·.path) = files.map (·.path)) : o.Fits out := by
  have listed : ∀ f ∈ out, ∃ g ∈ files, g.path = f.path := fun f member =>
    List.mem_map.1 (same ▸ List.mem_map_of_mem member)
  refine ⟨fun f member => ?_, fun f member => ?_, same ▸ fits.distinct, fun f first g second => ?_⟩
  · obtain ⟨f', member', path⟩ := listed f member
    exact path ▸ fits.relative f' member'
  · obtain ⟨f', member', path⟩ := listed f member
    exact path ▸ fits.inside f' member'
  · obtain ⟨f', first', path⟩ := listed f first
    obtain ⟨g', second', path'⟩ := listed g second
    rw [← path, ← path']
    exact fits.apart f' first' g' second'

theorem Fits.sideBySide (fits : o.Fits files) : SideBySide (files.map (·.path)) := by
  refine ⟨fun path member => ?_, fits.distinct, fun a first b second => ?_⟩
  · obtain ⟨f, listed, rfl⟩ := List.mem_map.1 member
    exact fits.relative f listed
  · obtain ⟨f, listed, rfl⟩ := List.mem_map.1 first
    obtain ⟨g, listed', rfl⟩ := List.mem_map.1 second
    exact fits.apart f listed g listed'

def tops (o : OutputDirectory) : List (List Name) :=
  [o.path.names, o.path.names.dropLast ++ [o.path.name ++ PackageTree.ending]]

theorem exists_top {names : List Name} (owns : o.Owns names) : ∃ top ∈ o.tops, top <+: names := by
  rcases owns with below | rfl
  · exact ⟨_, List.mem_cons_self, below⟩
  · exact ⟨_, List.mem_cons_of_mem _ List.mem_cons_self, List.prefix_rfl⟩

theorem apart_of_tops
    (each : ∀ top ∈ o.tops, ∀ top' ∈ o'.tops, ¬ top <+: top' ∧ ¬ top' <+: top) : o.Apart o' := by
  intro a b first second
  obtain ⟨top, member, above⟩ := exists_top first
  obtain ⟨top', member', above'⟩ := exists_top second
  obtain ⟨not, not'⟩ := each top member top' member'
  constructor
  · exact fun within =>
      (List.prefix_or_prefix_of_prefix (above.trans within) above').elim not not'
  · exact fun within =>
      (List.prefix_or_prefix_of_prefix above (above'.trans within)).elim not not'

section owns

variable (present : o.path.names ≠ [])

include present

theorem owns_of_begin (inside : o.InFootprint f.path) {names : List Name}
    (within : names <+: f.path.names) (some : names ≠ []) :
    o.Owns (o.path.names.dropLast ++ names) := by
  rcases inside with same | ⟨rest, -, same⟩
  · rw [same] at within
    rcases List.prefix_cons_iff.1 within with none | ⟨below, rfl, ended⟩
    · exact absurd none some
    · exact .inr (by rw [List.prefix_nil.1 ended])
  · rw [same] at within
    rcases List.prefix_cons_iff.1 within with none | ⟨below, rfl, -⟩
    · exact absurd none some
    · rw [dropLast_append_name present]
      exact .inl (List.prefix_append _ _)

theorem owns_target (good : f.path.Relative) (inside : o.InFootprint f.path) :
    o.Owns (o.target f).names := by
  rw [names_target good]
  apply owns_of_begin present inside List.prefix_rfl
  rcases inside with same | ⟨rest, -, same⟩ <;> simp [same]

end owns

theorem findSome?_congr {α β : Type} {xs : List α} {f g : α → Option β}
    (same : ∀ x ∈ xs, f x = g x) : xs.findSome? f = xs.findSome? g := by
  induction xs with
  | nil => rfl
  | cons x rest ih =>
    rw [List.findSome?_cons, List.findSome?_cons, same x List.mem_cons_self,
      ih fun y member => same y (List.mem_cons_of_mem _ member)]

theorem ancestorConflict?_of_file {path : Path} (plain : path.Plain) {q : Place}
    {content : ByteArray} (above : q <+: path.names) (file : d.get? q = some (.file content)) :
    ancestorConflict? d (path :: path.parents) = some ⟨⟨path.root, q⟩, .directory⟩ := by
  obtain ⟨root, names⟩ := path
  induction names using List.reverseRecOn with
  | nil =>
    rw [List.prefix_nil.1 above, get?_nil] at file
    cases file
  | append_singleton names name ih =>
    rw [ancestorConflict?_cons plain]
    dsimp only
    rcases List.prefix_concat_iff.1 above with rfl | within
    · rw [file]
    · -- nothing lies below a file
      have below : d.get? (names ++ [name]) = none := by
        by_contra there
        obtain ⟨e, found⟩ := Option.ne_none_iff_exists'.1 there
        have strict : q ≠ names ++ [name] := by
          rintro rfl
          have short := within.length_le
          rw [List.length_append, List.length_singleton] at short
          omega
        rw [directory_of_above found above strict] at file
        cases file
      rw [below, parents_concat]
      exact ih (plain.of_above (List.prefix_append _ _)) within

section undisturbed

variable (plain : o.path.Plain) (same : o.Undisturbed d d')

include same

theorem get?_target_congr (present : o.path.names ≠ []) (good : f.path.Relative)
    (inside : o.InFootprint f.path) : d'.get? (o.target f).names = d.get? (o.target f).names :=
  same.own _ (owns_target present good inside)

include plain

theorem ancestorConflict?_congr :
    ancestorConflict? d' (o.path :: o.path.parents) =
      ancestorConflict? d (o.path :: o.path.parents) := by
  by_cases blocked : ∃ q content, q <+: o.path.names ∧ d.get? q = some (.file content)
  · obtain ⟨q, content, above, file⟩ := blocked
    have still := (same.way q content above).2 file
    rw [ancestorConflict?_of_file plain above file, ancestorConflict?_of_file plain above still]
  · have free : ∀ q content, q <+: o.path.names → d.get? q ≠ some (.file content) :=
      fun q content above file => blocked ⟨q, content, above, file⟩
    have still : ∀ q content, q <+: o.path.names → d'.get? q ≠ some (.file content) :=
      fun q content above file => free q content above ((same.way q content above).1 file)
    rw [(ancestorConflict?_eq_none_iff plain).2 free, (ancestorConflict?_eq_none_iff plain).2 still]

variable (present : o.path.names ≠ []) (good : f.path.Relative) (inside : o.InFootprint f.path)

include present good inside

theorem fileConflict?_congr : o.fileConflict? d' f = o.fileConflict? d f := by
  have target := plain_target plain good
  have here := get?_target_congr same present good inside
  have above : ∀ directory ∈ (f.path.parents.filter (· != working)).map o.base.join,
      (d'.hasEntry directory && !d'.hasDirectory directory) =
        (d.hasEntry directory && !d.hasDirectory directory) := by
    intro directory member
    obtain ⟨parent, kept, rfl⟩ := List.mem_map.1 member
    obtain ⟨parent, some⟩ := List.mem_filter.1 kept
    obtain ⟨names, within, -, rfl⟩ := mem_parents_iff.1 parent
    have part : Relative ⟨f.path.root, names⟩ := good.of_above within
    have some : names ≠ [] := by
      rw [good.free] at some
      simpa [working] using some
    have joined := (plain_base plain).join part.plain
    have owned : d'.get? (o.base.join ⟨f.path.root, names⟩).names =
        d.get? (o.base.join ⟨f.path.root, names⟩).names := by
      rw [join_of_free _ part.free]
      exact same.own _ (owns_of_begin present inside within some)
    rw [hasEntry_congr joined owned, hasDirectory_congr joined owned]
  rw [fileConflict?, fileConflict?, hasEntry_congr target here, hasFile_congr target here]
  split
  · rfl
  · exact findSome?_congr fun directory member => by rw [above directory member]

theorem isChanged_congr : o.isChanged d' f = o.isChanged d f := by
  have target := plain_target plain good
  have here := get?_target_congr same present good inside
  rw [isChanged, isChanged, Disk.read, Disk.read, access_eq target, access_eq target, here]
  cases d.get? (o.target f).names with
  | none => rfl
  | some e => cases e <;> rfl

end undisturbed

section files

variable (plain : o.path.Plain) (present : o.path.names ≠ []) (same : o.Undisturbed d d')

include plain same

theorem existing_perm : (o.existing d').Perm (o.existing d) := by
  have once : ∀ d : Disk, (o.existing d).Nodup := fun d =>
    (nodup_existing plain.proper).of_map _
  refine (List.perm_ext_iff_of_nodup (once d') (once d)).2 fun path => ?_
  rw [mem_existing plain, mem_existing plain]
  simp only [same.own _ (.inl (List.prefix_append _ _))]

theorem stale_congr (files : List EmittedFile) :
    (o.stale d' files).map Path.toString = (o.stale d files).map Path.toString := by
  have perm : (o.stale d' files).Perm (o.stale d files) :=
    ((List.mergeSort_perm _ _).trans ((existing_perm plain same).filter _)).trans
      (List.mergeSort_perm _ _).symm
  have texts := (perm.map Path.toText).eq_of_pairwise' (pairwise_stale _ _) (pairwise_stale _ _)
  have written := congrArg (List.map String.ofList) texts
  rwa [List.map_map, List.map_map] at written

include present

theorem diff_congr (fits : o.Fits files) : o.diff d' files = o.diff d files := by
  have each : ∀ f ∈ files, o.fileConflict? d' f = o.fileConflict? d f := fun f member =>
    fileConflict?_congr plain same present (fits.relative f member) (fits.inside f member)
  have there : ∀ f ∈ files, d'.hasEntry (o.target f) = d.hasEntry (o.target f) := fun f member =>
    hasEntry_congr (plain_target plain (fits.relative f member))
      (get?_target_congr same present (fits.relative f member) (fits.inside f member))
  have conflict : o.conflict? d' files = o.conflict? d files := by
    rw [conflict?, conflict?, ancestorConflict?_congr plain same, findSome?_congr each]
  have known : files.filter (fun f => d'.hasEntry (o.target f)) =
      files.filter fun f => d.hasEntry (o.target f) := List.filter_congr there
  have new : files.filter (fun f => !d'.hasEntry (o.target f)) =
      files.filter fun f => !d.hasEntry (o.target f) :=
    List.filter_congr fun f member => by rw [there f member]
  have changed : (files.filter fun f => d.hasEntry (o.target f)).filter (o.isChanged d') =
      (files.filter fun f => d.hasEntry (o.target f)).filter (o.isChanged d) :=
    List.filter_congr fun f member =>
      have listed := (List.mem_filter.1 member).1
      isChanged_congr plain same present (fits.relative f listed) (fits.inside f listed)
  cases found : o.conflict? d files with
  | some c => rw [diff, diff, conflict, found]
  | none =>
    rw [diff_eq_ok_iff.2 ⟨conflict.trans found, rfl⟩, diff_eq_ok_iff.2 ⟨found, rfl⟩, known, new,
      changed, stale_congr plain same]

end files

end OutputDirectory

end ProtoModules
