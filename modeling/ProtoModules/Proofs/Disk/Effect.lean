import Mathlib.Data.List.Induction
import ProtoModules.Disk.Access
import ProtoModules.Proofs.Disk.Path

/-! What the operations leave on a disk, told place by place. A plain path names the place of its names.
Making directories turns the places above a path into directories, writing and removing a file and
removing a directory change the place of the path, and all other places stay as they were. -/

namespace ProtoModules.Disk
open Disk.Path

variable {d : Disk} {p q : Place} {e : Entry}

theorem prefix_dropLast_iff (strict : q ≠ p) : q <+: p.dropLast ↔ q <+: p := by
  refine ⟨fun above => above.trans (List.dropLast_prefix p), fun above => ?_⟩
  have notTop : p ≠ [] := by
    rintro rfl
    exact strict (List.prefix_nil.1 above)
  rw [← List.dropLast_concat_getLast notTop, List.prefix_concat_iff,
    List.dropLast_concat_getLast notTop] at above
  exact above.resolve_left strict

theorem prefix_append_cases {first second : List Name} (above : q <+: first ++ second) :
    q <+: first ∨ ∃ rest, rest <+: second ∧ q = first ++ rest := by
  rcases List.prefix_or_prefix_of_prefix above (List.prefix_append first second) with short | ⟨rest, rfl⟩
  · exact .inl short
  · exact .inr ⟨rest, (List.prefix_append_right_inj first).1 above, rfl⟩

theorem directory_of_above (found : d.get? p = some e) (above : q <+: p) (strict : q ≠ p) :
    d.get? q = some .directory := by
  induction p using List.reverseRecOn generalizing e with
  | nil => exact absurd (List.prefix_nil.1 above) strict
  | append_singleton p name ih =>
    have parent : d.get? p = some .directory := by
      simpa using get?_dropLast found (by simp)
    rcases List.prefix_concat_iff.1 above with same | within
    · exact absurd same strict
    · by_cases here : q = p
      · rw [here, parent]
      · exact ih parent within here

theorem get?_eq_none_of_above (absent : d.get? p = none) (above : p <+: q) : d.get? q = none := by
  by_contra there
  obtain ⟨e, found⟩ := Option.ne_none_iff_exists'.1 there
  by_cases same : p = q
  · rw [← same, absent] at found
    cases found
  · rw [directory_of_above found above same] at absent
    cases absent

theorem isName_of_get? (found : d.get? p = some e) : ∀ name ∈ p, isName name = true :=
  d.sound.called _ (get?_eq_some_iff.1 found)

theorem absence_cases (d : Disk) (p : Place) :
    (d.absence p = .notDirectory ∧
      ∃ n < p.length, ∃ content, d.get? (p.take n) = some (.file content)) ∨
    (d.absence p = .missing ∧
      ¬ ∃ n < p.length, ∃ content, d.get? (p.take n) = some (.file content)) := by
  rw [absence]
  split
  · rename_i blocked
    obtain ⟨n, short, file⟩ := List.any_eq_true.1 blocked
    split at file
    · rename_i content here
      exact .inl ⟨rfl, n, List.mem_range.1 short, content, here⟩
    · cases file
  · rename_i clear
    refine .inr ⟨rfl, fun ⟨n, short, content, file⟩ => clear ?_⟩
    exact List.any_eq_true.2 ⟨n, List.mem_range.2 short, by rw [file]⟩

theorem absence_congr {d' : Disk}
    (files : (∃ n < p.length, ∃ content, d.get? (p.take n) = some (.file content)) ↔
      ∃ n < q.length, ∃ content, d'.get? (q.take n) = some (.file content)) :
    d.absence p = d'.absence q := by
  rcases absence_cases d p with ⟨first, blocked⟩ | ⟨first, clear⟩
  · rcases absence_cases d' q with ⟨second, -⟩ | ⟨-, clear⟩
    · rw [first, second]
    · exact absurd (files.1 blocked) clear
  · rcases absence_cases d' q with ⟨-, blocked⟩ | ⟨second, -⟩
    · exact absurd (files.2 blocked) clear
    · rw [first, second]

theorem follow_eq {names : List Name} (level : upward ∉ names) (here : Place) :
    d.follow here names = .ok (here ++ names) := by
  induction names generalizing here with
  | nil => simp [follow]
  | cons name rest ih =>
    simp only [List.mem_cons, not_or] at level
    rw [follow, if_neg (Ne.symm level.1), ih level.2]
    simp

theorem locate_eq {path : Path} (level : upward ∉ path.names) : d.locate path = .ok path.names := by
  rw [locate, follow_eq level, List.nil_append]

theorem follow_append (here : Place) (first second : List Name) :
    d.follow here (first ++ second) = d.follow here first >>= fun mid => d.follow mid second := by
  induction first generalizing here with
  | nil => rfl
  | cons name rest ih =>
    simp only [List.cons_append, follow]
    split
    · split
      · exact ih _
      · rfl
      · rfl
    · exact ih _

theorem access_eq_ok_iff {path : Path} :
    d.access path = .ok e ↔ ∃ p, d.locate path = .ok p ∧ d.get? p = some e := by
  rw [access]
  cases d.locate path with
  | error fault => simp [bind, Except.bind]
  | ok p =>
    simp only [bind, Except.bind, Except.ok.injEq, exists_eq_left']
    cases d.get? p <;> simp

theorem Path.Plain.locate {path : Path} (plain : path.Plain) : d.locate path = .ok path.names :=
  locate_eq plain.upward_notMem

section look

variable {path : Path} (plain : path.Plain)

include plain

theorem access_eq :
    d.access path = match d.get? path.names with
      | some e => .ok e
      | none => .error (d.absence path.names) := by
  rw [access, plain.locate]
  rfl

theorem hasEntry_eq : d.hasEntry path = (d.get? path.names).isSome := by
  rw [hasEntry, access_eq plain]
  cases d.get? path.names <;> rfl

theorem hasDirectory_iff : d.hasDirectory path = true ↔ d.get? path.names = some .directory := by
  rw [hasDirectory, access_eq plain]
  cases d.get? path.names with
  | none => simp
  | some e => cases e <;> simp

theorem standsFile_iff :
    (d.hasEntry path && !d.hasDirectory path) = true ↔
      ∃ content, d.get? path.names = some (.file content) := by
  rw [hasEntry_eq plain, hasDirectory, access_eq plain]
  cases d.get? path.names with
  | none => simp
  | some e => cases e <;> simp

theorem standsDirectory_iff :
    (d.hasEntry path && !d.hasFile path) = true ↔ d.get? path.names = some .directory := by
  rw [hasEntry_eq plain, hasFile, access_eq plain]
  cases d.get? path.names with
  | none => simp
  | some e => cases e <;> simp

end look

theorem directory_of_directory (here : d.get? p = some .directory) (above : q <+: p) :
    d.get? q = some .directory := by
  by_cases same : q = p
  · rw [same, here]
  · exact directory_of_above here above same

theorem not_file_of_directory (here : d.get? p = some .directory) (above : q <+: p)
    (content : ByteArray) : d.get? q ≠ some (.file content) := by
  rw [directory_of_directory here above]
  simp

theorem bind_mapError_eq_ok_iff {α β ε ε' : Type} {x : Except ε α} {f : α → Except ε β} {g : ε → ε'}
    {b : β} : (x >>= f).mapError g = .ok b ↔ ∃ a, x = .ok a ∧ f a = .ok b := by
  cases x with
  | error e => simp [bind, Except.bind, Except.mapError]
  | ok a =>
    simp only [bind, Except.bind, Except.ok.injEq, exists_eq_left']
    cases f a <;> simp [Except.mapError]

theorem get?_of_makeDirAt {made : Disk} (ran : d.makeDirAt p = .ok made) :
    d.get? p = none ∧ d.get? p.dropLast = some .directory ∧
      ∀ q, made.get? q = if q = p then some .directory else d.get? q := by
  simp only [makeDirAt] at ran
  split at ran
  · cases ran
  · rename_i free
    split at ran
    · rename_i parent
      split at ran
      · obtain rfl := Except.ok.inj ran
        exact ⟨by simpa using free, parent, fun q => get?_put d p q _ _ _ _ _⟩
      · cases ran
    · cases ran

theorem get?_of_writeAt {written : Disk} {content : ByteArray}
    (ran : d.writeAt p content = .ok written) :
    d.get? p.dropLast = some .directory ∧
      ∀ q, written.get? q = if q = p then some (.file content) else d.get? q := by
  simp only [writeAt] at ran
  split at ran
  · cases ran
  · split at ran
    · cases ran
    · split at ran
      · rename_i parent
        split at ran
        · obtain rfl := Except.ok.inj ran
          exact ⟨parent, fun q => get?_put d p q _ _ _ _ _⟩
        · cases ran
      · cases ran

theorem get?_of_removeFileAt {removed : Disk} (ran : d.removeFileAt p = .ok removed) (q : Place) :
    removed.get? q = if q = p then none else d.get? q := by
  unfold removeFileAt at ran
  split at ran
  · cases ran
  · cases ran
  · obtain rfl := Except.ok.inj ran
    rw [get?_restrict]
    by_cases same : q = p <;> simp [same]

theorem get?_of_removeDirAt {removed : Disk} (ran : d.removeDirAt p = .ok removed) (q : Place) :
    removed.get? q = if q = p then none else d.get? q := by
  rw [removeDirAt] at ran
  split at ran
  · cases ran
  · cases ran
  · split at ran
    · obtain rfl := Except.ok.inj ran
      rw [get?_restrict]
      by_cases same : q = p <;> simp [same]
    · cases ran

def holdsFile (d : Disk) (p : Place) : Bool := (d.below p).any fun item => item.2 != .directory

/-- A directory strictly below `out` that no file lies in. -/
def isHollow (d : Disk) (out p : Place) : Bool :=
  out.isPrefixOf p && p != out && d.isDirectory p && !d.holdsFile p

theorem holdsFile_iff {d : Disk} {p : Place} :
    d.holdsFile p = true ↔ ∃ q content, (q, Entry.file content) ∈ d.entries ∧ p <+: q ∧ q ≠ p := by
  simp only [holdsFile, List.any_eq_true, Prod.exists, mem_below, bne_iff_ne]
  constructor
  · rintro ⟨q, e, ⟨member, within⟩, isFile⟩
    cases e with
    | directory => exact absurd rfl isFile
    | file content => exact ⟨q, content, member, within⟩
  · rintro ⟨q, content, member, within⟩
    exact ⟨q, .file content, ⟨member, within⟩, by simp⟩

theorem isHollow_iff {out : Place} :
    d.isHollow out p = true ↔ out <+: p ∧ p ≠ out ∧ d.get? p = some .directory ∧
      ∀ q content, d.get? q = some (.file content) → ¬ p <+: q := by
  simp only [isHollow, Bool.and_eq_true, Bool.not_eq_true', Bool.eq_false_iff, ne_eq, bne_iff_ne,
    List.isPrefixOf_iff_prefix, holdsFile_iff, not_exists, not_and, isDirectory, beq_iff_eq,
    and_assoc, ← get?_eq_some_iff]
  refine and_congr_right fun _ => and_congr_right fun _ => and_congr_right fun here =>
    forall_congr' fun q => forall_congr' fun content => ?_
  constructor
  · intro bare found within
    refine bare found within fun same => ?_
    subst same
    rw [here] at found
    cases found
  · exact fun bare found within _ => bare found within

section change

variable {path : Path} {made written removed : Disk} {content : ByteArray}

theorem get?_of_directory (here : d.get? p = some .directory) (q : Place) :
    (if q <+: p then some .directory else d.get? q) = d.get? q := by
  split
  · rename_i above
    exact (directory_of_directory here above).symm
  · rfl

theorem get?_of_makeDir (plain : path.Plain) (ran : d.makeDir path = .ok made) (q : Place) :
    made.get? q = if q <+: path.names then some .directory else d.get? q := by
  rw [makeDir, plain.locate] at ran
  obtain ⟨-, parent, result⟩ := get?_of_makeDirAt ran
  rw [result]
  by_cases same : q = path.names
  · simp [same]
  · rw [if_neg same]
    split
    · rename_i above
      exact directory_of_directory parent ((prefix_dropLast_iff same).2 above)
    · rfl

theorem get?_of_ensureDir (plain : path.Plain) (ran : d.ensureDir path = (made, none)) (q : Place) :
    made.get? q = if q <+: path.names then some .directory else d.get? q := by
  rw [ensureDir] at ran
  split at ran
  · rename_i new
    obtain ⟨rfl, -⟩ := Prod.mk.inj ran
    exact get?_of_makeDir plain new q
  · split at ran
    · rename_i there
      obtain ⟨rfl, -⟩ := Prod.mk.inj ran
      exact (get?_of_directory ((hasDirectory_iff plain).1 there) q).symm
    · cases ran

theorem get?_of_makeDirsUp {root : List Char} {up : List Name} (plain : Plain ⟨root, up.reverse⟩)
    (ran : d.makeDirsUp root up = (made, none)) (q : Place) :
    made.get? q = if q <+: up.reverse then some .directory else d.get? q := by
  induction up generalizing made with
  | nil => exact get?_of_ensureDir plain ran q
  | cons name up ih =>
    have parent : up.reverse <+: (name :: up).reverse := by simp
    rw [makeDirsUp] at ran
    split at ran
    · rename_i new
      obtain ⟨rfl, -⟩ := Prod.mk.inj ran
      exact get?_of_makeDir plain new q
    · -- something above is missing: it is made first, then the directory itself
      split at ran
      · rename_i below made' ranUp
        rw [get?_of_ensureDir plain ran q]
        by_cases above : q <+: (name :: up).reverse
        · rw [if_pos above, if_pos above]
        · have apart : ¬ q <+: up.reverse := fun within => above (within.trans parent)
          rw [if_neg above, if_neg above, ih (plain.of_above parent) ranUp, if_neg apart]
      · cases ran
    · split at ran
      · rename_i there
        obtain ⟨rfl, -⟩ := Prod.mk.inj ran
        exact (get?_of_directory ((hasDirectory_iff plain).1 there) q).symm
      · cases ran

theorem get?_of_makeDirs (plain : path.Plain) (ran : d.makeDirs path = (made, none)) (q : Place) :
    made.get? q = if q <+: path.names then some .directory else d.get? q := by
  have reversed : Plain ⟨path.root, path.names.reverse.reverse⟩ := by rwa [List.reverse_reverse]
  have result := get?_of_makeDirsUp reversed ran q
  rwa [List.reverse_reverse] at result

theorem get?_of_write (plain : path.Plain) (ran : d.write path content = .ok written) (q : Place) :
    written.get? q = if q = path.names then some (.file content) else d.get? q := by
  obtain ⟨p, found, new⟩ := bind_mapError_eq_ok_iff.1 ran
  obtain rfl := Except.ok.inj (plain.locate.symm.trans found)
  exact (get?_of_writeAt new).2 q

theorem get?_of_removeFile (plain : path.Plain) (ran : d.removeFile path = .ok removed) (q : Place) :
    removed.get? q = if q = path.names then none else d.get? q := by
  obtain ⟨p, found, gone⟩ := bind_mapError_eq_ok_iff.1 ran
  obtain rfl := Except.ok.inj (plain.locate.symm.trans found)
  exact get?_of_removeFileAt gone q

end change

end ProtoModules.Disk
