import ProtoModules.Proofs.Disk.Frame
import ProtoModules.Proofs.Tool.Action
import ProtoModules.Proofs.Tool.Sources
import ProtoModules.Tool.Protoc

/-! What runs of the programs leave alone. A formatter and a version query touch no disk. A compiler that
writes to its output directory only changes what lies in the work directory, and adds the
directories on the way there; without a work directory it changes nothing. -/

namespace ProtoModules
open Disk Disk.Path

namespace Action

variable {α β : Type} {R : Disk → Disk → Prop}

/-- However the action ends, the disk before it and the one behind it are related. -/
def Relates (R : Disk → Disk → Prop) (x : Action α) : Prop := ∀ s, R s.disk (x.run s).2.disk

theorem Relates.bind (trans : ∀ a b c, R a b → R b c → R a c) {x : Action α} {f : α → Action β}
    (first : Relates R x) (later : ∀ a, Relates R (f a)) : Relates R (x >>= f) := by
  intro s
  have own := first s
  rw [bind_run]
  cases ran : x.run s with
  | mk result mid =>
    rw [ran] at own
    cases result with
    | error e => exact own
    | ok a => exact trans _ _ _ own (later a mid)

section still

variable (refl : ∀ d, R d d)

include refl

theorem relates_pure (a : α) : Relates R (pure a : Action α) := fun s => refl s.disk

theorem relates_fail (f : Failure) : Relates R (fail f : Action α) := fun s => refl s.disk

theorem relates_report (e : Error) : Relates R (report e : Action α) := fun s => refl s.disk

theorem relates_report_bind (e : Error) (f : α → Action β) : Relates R (report e >>= f) :=
  fun s => refl s.disk

theorem relates_disk : Relates R disk := fun s => refl s.disk

theorem relates_record (command : Command) : Relates R (record command) := fun s => refl s.disk

end still

theorem relates_mapM (refl : ∀ d, R d d) (trans : ∀ a b c, R a b → R b c → R a c) {xs : List α}
    {f : α → Action β} (each : ∀ x ∈ xs, Relates R (f x)) : Relates R (xs.mapM f) := by
  induction xs with
  | nil => exact relates_pure refl []
  | cons x rest ih =>
    rw [List.mapM_cons]
    apply Relates.bind trans (each x List.mem_cons_self)
    intro first
    apply Relates.bind trans (ih fun y member => each y (List.mem_cons_of_mem _ member))
    intro later
    exact relates_pure refl _

end Action

/-- A path that leads below the directory it is joined to. -/
structure Disk.Path.Inward (path : Path) : Prop where
  free : path.root = []
  level : upward ∉ path.names

/-- The compiler writes to its output directory and nowhere else. -/
def Toolchain.Contained (tools : Toolchain) : Prop :=
  ∀ command d, ∀ item ∈ (tools.compile command d).outputs, item.1.Inward

namespace Tool
open ProtoModules.Action

def Within (directory : Path) (q : Place) : Prop := directory.place <+: q

section still

variable {R : Disk → Disk → Prop} (refl : ∀ d, R d d) (trans : ∀ a b c, R a b → R b c → R a c)
  (tools : Toolchain)

include refl trans

theorem Formatter.relates_formatFiles (f : Formatter) (files : List EmittedFile) :
    Relates R (f.formatFiles tools files) := by
  apply relates_mapM refl trans
  intro file _
  apply Relates.bind trans
  · rw [formatText]
    apply Relates.bind trans (relates_record refl _)
    intro _
    split
    · exact relates_report refl _
    · split
      · exact relates_pure refl _
      · exact relates_report refl _
  · exact fun text => relates_pure refl _

theorem Protoc.relates_version (g : Protoc) : Relates R (g.version tools) := by
  rw [version]
  split
  · exact relates_pure refl _
  · apply Relates.bind trans (relates_record refl _)
    exact fun _ => relates_pure refl _

theorem Protoc.relates_runAside (g : Protoc) (scratch : Path) (files includes : List Path) :
    Relates R (g.runAside tools scratch files includes) := by
  rw [runAside]
  apply Relates.bind trans (relates_record refl _)
  intro _
  apply Relates.bind trans (relates_disk refl)
  intro d
  dsimp only
  split
  · exact relates_pure refl _
  · exact relates_fail refl _

end still

variable {directory : Path} {d : Disk}

theorem within_of_behind {names : List Name} (level : upward ∉ names) :
    Within directory (Path.place ⟨directory.root, directory.names ++ names⟩) := by
  rw [place_append level]
  exact List.prefix_append _ _

theorem onWay_of_behind {names : List Name} (level : upward ∉ names) {q : Place}
    (way : OnWay ⟨directory.root, directory.names ++ names⟩ q) :
    Within directory q ∨ OnWay directory q := by
  obtain ⟨begun, above, rfl⟩ := way
  rcases prefix_append_cases above with short | ⟨rest, within, rfl⟩
  · exact .inr ⟨begun, short, rfl⟩
  · exact .inl (within_of_behind fun member => level (within.subset member))

theorem keeps_store_behind (d : Disk) (directory : Path) {path : Path} (inward : path.Inward)
    (e : Entry) : Keeps (Within directory) (OnWay directory) d (d.store (directory.join path) e) := by
  rw [join_of_free _ inward.free]
  apply (keeps_store d _ e).mono
  · rintro q rfl
    exact within_of_behind inward.level
  · exact fun q way => onWay_of_behind inward.level way

/-- All is left as it was but for what lies in the work directory, and for new directories that it had to
lie in. -/
def Spares (workDir : Option Path) : Disk → Disk → Prop :=
  Keeps (fun q => ∃ directory, workDir = some directory ∧ Within directory q)
    (fun q => ∃ directory, workDir = some directory ∧ OnWay directory q)

namespace Spares

variable {workDir : Option Path}

theorem refl (d : Disk) : Spares workDir d d := Keeps.refl d

theorem trans (a b c : Disk) (first : Spares workDir a b) (second : Spares workDir b c) :
    Spares workDir a c :=
  Keeps.trans first second

theorem get?_eq {before after : Disk} (spares : Spares none before after) (q : Place) :
    after.get? q = before.get? q := by
  rcases spares q with same | ⟨directory, none, -⟩ | ⟨⟨directory, none, -⟩, -⟩
  · exact same
  · cases none
  · cases none

end Spares

namespace Protoc

theorem keeps_storeOutputs (d : Disk) {outputs : List (Path × Entry)}
    (inward : ∀ item ∈ outputs, item.1.Inward) :
    Keeps (Within directory) (OnWay directory) d (storeOutputs d directory outputs) := by
  induction outputs generalizing d with
  | nil => exact .refl d
  | cons item rest ih =>
    have first := keeps_store_behind d directory (inward item List.mem_cons_self) item.2
    have later := ih (d.store (directory.join item.1) item.2) fun other member =>
      inward other (List.mem_cons_of_mem _ member)
    exact first.trans later

theorem keeps_clearSources (d : Disk) {names : List Name} (level : ∀ name ∈ names, name ≠ upward) :
    Keeps (Within directory) (OnWay directory) d (clearSources d directory names).1 := by
  induction names generalizing d with
  | nil => exact .refl d
  | cons name rest ih =>
    rw [clearSources]
    split
    · rename_i removed gone
      have first : Keeps (Within directory) (OnWay directory) d removed := by
        apply (keeps_removeFile gone).mono
        · rintro q rfl
          have one : upward ∉ [name] := by
            simpa [eq_comm] using level name List.mem_cons_self
          exact within_of_behind one
        · exact fun q none => none.elim
      exact first.trans (ih removed fun other member => level other (List.mem_cons_of_mem _ member))
    · exact .refl d

theorem keeps_prepare (d : Disk) (directory : Path) :
    Keeps (Within directory) (OnWay directory) d (prepare d directory).1 := by
  have dirs : Keeps (Within directory) (OnWay directory) d (d.makeDirs directory).1 :=
    (keeps_makeDirs d directory).mono (fun q none => none.elim) fun q way => .inr way
  rw [prepare]
  split
  · rename_i made fault ran
    rw [ran] at dirs
    exact dirs
  · rename_i made ran
    rw [ran] at dirs
    split
    · exact dirs.trans (keeps_clearSources made fun name listed => ne_upward_of_mem_sourceNames listed)
    · exact dirs

theorem relates_runIn {tools : Toolchain} (contained : tools.Contained) (g : Protoc)
    (directory : Path) (files includes : List Path) :
    Relates (Keeps (Within directory) (OnWay directory)) (g.runIn tools directory files includes) := by
  intro s
  have ready := keeps_prepare s.disk directory
  rw [runIn, bind_run, disk_run]
  dsimp only
  cases prepared : prepare s.disk directory with
  | mk made refused =>
    rw [prepared] at ready
    rw [bind_run, setDisk_run]
    cases refused with
    | some e => exact ready
    | none =>
      have written := ready.trans (keeps_storeOutputs made
        (contained (g.command directory files includes) made))
      dsimp only
      rw [bind_run, record_run]
      dsimp only
      rw [bind_run, setDisk_run]
      dsimp only
      split
      · exact written
      · exact written

theorem relates_generate {tools : Toolchain} (contained : tools.Contained) (g : Protoc)
    (scratch : Path) (definitions includes : List String) :
    Relates (Spares g.workDir) (g.generate tools scratch definitions includes) := by
  rw [generate]
  dsimp only
  split
  · exact relates_report_bind Spares.refl _ _
  · apply Relates.bind Spares.trans (relates_disk Spares.refl)
    intro d
    split
    · exact relates_report_bind Spares.refl _ _
    · split
      · exact relates_report_bind Spares.refl _ _
      · split
        · rename_i directory work
          intro s
          apply (relates_runIn contained g directory _ _ s).mono
          · exact fun q within => ⟨directory, work, within⟩
          · exact fun q way => .inr ⟨directory, work, way⟩
        · exact relates_runAside Spares.refl Spares.trans tools g scratch _ _

end Protoc

end Tool

end ProtoModules
