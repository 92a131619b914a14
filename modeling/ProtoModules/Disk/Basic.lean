import ProtoModules.Disk.Path

/-! The disk: files and directories below a working directory, each at its place. Every file and every
directory has a name and lies in a directory, and the working directory itself is always there;
the operations that change a disk keep this. -/

namespace ProtoModules
open Disk

abbrev Place := List Name

inductive Entry where
  | directory
  | file (content : ByteArray)

instance : DecidableEq Entry
  | .directory, .directory => .isTrue rfl
  | .directory, .file _ | .file _, .directory => .isFalse nofun
  | .file first, .file second =>
    -- by name, as larger libraries bring another instance for byte arrays
    match ByteArray.instDecidableEq first second with
    | .isTrue same => .isTrue (congrArg Entry.file same)
    | .isFalse differ => .isFalse fun same => differ (Entry.file.inj same)

/-- The entries of a disk are sound if no place occurs twice, the working directory is a directory
and so is what every other entry lies in, and everything is called by a name. -/
structure Disk.Sound (entries : List (Place × Entry)) : Prop where
  once : (entries.map Prod.fst).Nodup
  top : ([], Entry.directory) ∈ entries
  inside : ∀ item ∈ entries, item.1 ≠ [] → (item.1.dropLast, Entry.directory) ∈ entries
  called : ∀ item ∈ entries, ∀ name ∈ item.1, Path.isName name = true

structure Disk where
  entries : List (Place × Entry)
  sound : Disk.Sound entries

namespace Disk

def empty : Disk where
  entries := [([], .directory)]
  sound := ⟨by simp, by simp, by simp, by simp⟩

instance : Inhabited Disk := ⟨empty⟩

def get? (d : Disk) (p : Place) : Option Entry := d.entries.lookup p

def isDirectory (d : Disk) (p : Place) : Bool := d.get? p == some .directory

theorem lookup_of_mem {entries : List (Place × Entry)} (once : (entries.map Prod.fst).Nodup)
    {p : Place} {e : Entry} (member : (p, e) ∈ entries) : entries.lookup p = some e := by
  induction entries with
  | nil => simp at member
  | cons item rest ih =>
    obtain ⟨q, f⟩ := item
    simp only [List.map_cons, List.nodup_cons] at once
    rcases List.mem_cons.1 member with same | later
    · cases same
      simp
    · have differ : p ≠ q := by
        rintro rfl
        exact once.1 (List.mem_map.2 ⟨(p, e), later, rfl⟩)
      have : (p == q) = false := by simpa using differ
      simp only [List.lookup_cons, this]
      exact ih once.2 later

theorem mem_of_lookup {entries : List (Place × Entry)} {p : Place} {e : Entry}
    (found : entries.lookup p = some e) : (p, e) ∈ entries := by
  induction entries with
  | nil => simp at found
  | cons item rest ih =>
    obtain ⟨q, f⟩ := item
    by_cases same : p = q
    · subst same
      simp at found
      simp [found]
    · have : (p == q) = false := by simpa using same
      simp only [List.lookup_cons, this] at found
      exact List.mem_cons_of_mem _ (ih found)

theorem get?_eq_some_iff {d : Disk} {p : Place} {e : Entry} :
    d.get? p = some e ↔ (p, e) ∈ d.entries :=
  ⟨mem_of_lookup, lookup_of_mem d.sound.once⟩

@[simp] theorem get?_nil (d : Disk) : d.get? [] = some .directory :=
  get?_eq_some_iff.2 d.sound.top

theorem get?_dropLast {d : Disk} {p : Place} {e : Entry} (found : d.get? p = some e) (below : p ≠ []) :
    d.get? p.dropLast = some .directory :=
  get?_eq_some_iff.2 (d.sound.inside _ (get?_eq_some_iff.1 found) below)

/-- The disk with `e` at a place that lies in a directory and is not a directory itself. -/
def put (d : Disk) (p : Place) (e : Entry) (below : p ≠ [])
    (parent : d.get? p.dropLast = some .directory) (free : d.get? p ≠ some .directory)
    (named : Path.isName (p.getLast below) = true) : Disk where
  entries := (p, e) :: d.entries.filter fun item => item.1 != p
  sound := by
    have stays : ∀ q, (q, Entry.directory) ∈ d.entries →
        (q, Entry.directory) ∈ d.entries.filter fun item => item.1 != p := by
      intro q member
      refine List.mem_filter.2 ⟨member, ?_⟩
      simp only [bne_iff_ne, ne_eq]
      rintro rfl
      exact free (get?_eq_some_iff.2 member)
    refine ⟨?_, List.mem_cons_of_mem _ (stays _ d.sound.top), ?_, ?_⟩
    · simp only [List.map_cons, List.nodup_cons]
      refine ⟨?_, d.sound.once.sublist (List.filter_sublist.map _)⟩
      intro member
      obtain ⟨item, kept, same⟩ := List.mem_map.1 member
      simp [same] at kept
    · intro item member notTop
      refine List.mem_cons_of_mem _ (stays _ ?_)
      rcases List.mem_cons.1 member with same | kept
      · subst same
        exact get?_eq_some_iff.1 parent
      · exact d.sound.inside item (List.mem_filter.1 kept).1 notTop
    · intro item member
      rcases List.mem_cons.1 member with same | kept
      · subst same
        intro name part
        rw [← List.dropLast_concat_getLast below, List.mem_append, List.mem_singleton] at part
        rcases part with above | rfl
        · exact d.sound.called _ (get?_eq_some_iff.1 parent) name above
        · exact named
      · exact d.sound.called item (List.mem_filter.1 kept).1

/-- The part of the disk at the places that `keep` holds of, which are to contain the working
directory and whatever a kept entry lies in. -/
def restrict (d : Disk) (keep : Place → Bool) (top : keep [] = true)
    (inside : ∀ p : Place, p ≠ [] → (d.get? p).isSome → keep p = true → keep p.dropLast = true) :
    Disk where
  entries := d.entries.filter fun item => keep item.1
  sound := by
    refine ⟨d.sound.once.sublist (List.filter_sublist.map _), ?_, ?_,
      fun item member => d.sound.called item (List.mem_filter.1 member).1⟩
    · exact List.mem_filter.2 ⟨d.sound.top, top⟩
    · intro item member notTop
      obtain ⟨member, kept⟩ := List.mem_filter.1 member
      have found : d.get? item.1 = some item.2 := get?_eq_some_iff.2 member
      exact List.mem_filter.2
        ⟨d.sound.inside item member notTop, inside item.1 notTop (by simp [found]) kept⟩

theorem get?_put (d : Disk) (p q : Place) (e : Entry) (below parent free named) :
    (d.put p e below parent free named).get? q = if q = p then some e else d.get? q := by
  by_cases same : q = p
  · subst same
    simp [get?, put]
  · have : (q == p) = false := by simpa using same
    simp only [same, if_false]
    apply Option.ext
    intro f
    rw [get?_eq_some_iff, get?_eq_some_iff]
    simp [put, same]

theorem get?_restrict (d : Disk) (keep top inside) (q : Place) :
    (d.restrict keep top inside).get? q = if keep q then d.get? q else none := by
  apply Option.ext
  intro f
  rw [get?_eq_some_iff]
  by_cases kept : keep q
  · simp [restrict, kept, get?_eq_some_iff]
  · simp [restrict, kept]

def below (d : Disk) (p : Place) : List (Place × Entry) :=
  d.entries.filter fun item => p.isPrefixOf item.1 && item.1 != p

def members (d : Disk) (p : Place) : List Name :=
  d.entries.filterMap fun item =>
    if item.1 != [] && item.1.dropLast = p then item.1.getLast? else none

end Disk

end ProtoModules
