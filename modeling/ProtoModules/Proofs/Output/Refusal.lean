import Mathlib
import ProtoModules.Proofs.Output.Finished

/-! Writing that is refused. The files are written one after the other, and a refusal comes at one of them:
those in front of it can be read, no other file has been touched, and nothing has been removed,
as that comes after all have been written and is not refused then. This needs a direct path: on
a path through its own subdirectories, removing them takes away the way to what is left to do. -/

namespace ProtoModules

namespace Disk

variable {d d' : Disk} {path : Path} {content : ByteArray}

theorem read_eq_ok_iff :
    d.read path = .ok content ↔ ∃ p, d.locate path = .ok p ∧ d.get? p = some (.file content) := by
  rw [← access_eq_ok_iff, Disk.read]
  split <;> simp_all

theorem read_of_keeps {changed added : Place → Prop} (grows : Grows d d')
    (keeps : Keeps changed added d d') (old : d.read path = .ok content)
    (apart : ¬ changed path.place) : d'.read path = .ok content := by
  obtain ⟨p, found, here⟩ := read_eq_ok_iff.1 old
  rw [place_of_locate found] at apart
  exact read_eq_ok_iff.2 ⟨p, grows.locate found, keeps.get?_eq_some here apart⟩

end Disk

namespace OutputDirectory
open Disk Disk.Path

/-- A place that the path of one of the files leads to. -/
def IsTarget (o : OutputDirectory) (files : List EmittedFile) (q : Place) : Prop :=
  ∃ f ∈ files, (o.target f).place = q

def IsOnWay (o : OutputDirectory) (files : List EmittedFile) (q : Place) : Prop :=
  ∃ f ∈ files, OnWay (o.target f).parent q

variable {o : OutputDirectory} {d written left : Disk} {files : List EmittedFile} {f g : EmittedFile}
  {e : DiskError} {q : Place}

theorem path_eq_of_place (first : f.path.Relative) (second : g.path.Relative)
    (same : (o.target f).place = (o.target g).place) : f.path = g.path := by
  have place : ∀ h : EmittedFile, h.path.Relative →
      (o.target h).place = o.base.place ++ h.path.names := by
    intro h good
    rw [target, join_of_free _ good.free]
    exact place_append good.plain.upward_notMem
  rw [place f first, place g second] at same
  rw [first.eq_mk, second.eq_mk, List.append_cancel_left same]

theorem writeFiles_append (first second : List EmittedFile) :
    o.writeFiles d (first ++ second) =
      match o.writeFiles d first with
      | (written, none) => o.writeFiles written second
      | (left, some e) => (left, some e) := by
  induction first generalizing d with
  | nil => rfl
  | cons f rest ih =>
    rw [List.cons_append, writeFiles, writeFiles]
    split
    · rfl
    · split
      · exact ih
      · rfl

theorem exists_refused (ran : o.writeFiles d files = (left, some e)) :
    ∃ before f after written, files = before ++ f :: after ∧
      o.writeFiles d before = (written, none) ∧ o.writeFiles written [f] = (left, some e) := by
  induction files generalizing d with
  | nil => cases ran
  | cons f rest ih =>
    rw [← List.singleton_append, writeFiles_append] at ran
    cases first : o.writeFiles d [f] with
    | mk next refusal =>
      rw [first] at ran
      cases refusal with
      | some e' =>
        cases ran
        exact ⟨[], f, rest, d, rfl, rfl, first⟩
      | none =>
        obtain ⟨before, g, after, written, rfl, wrote, refused⟩ := ih ran
        refine ⟨f :: before, g, after, written, rfl, ?_, refused⟩
        rw [← List.singleton_append, writeFiles_append, first]
        exact wrote

theorem keeps_of_refused (refused : o.writeFiles d [f] = (left, some e)) :
    Keeps Nowhere (OnWay (o.target f).parent) d left := by
  have keeps := keeps_makeDirs d (o.target f).parent
  rw [writeFiles] at refused
  split at refused
  · rename_i made fault ran
    cases refused
    rwa [ran] at keeps
  · rename_i made ran
    rw [ran] at keeps
    split at refused
    · cases refused
    · cases refused
      exact keeps

theorem keeps_writeFiles (ran : o.writeFiles d files = (written, none)) :
    Keeps (o.IsTarget files) (o.IsOnWay files) d written := by
  induction files generalizing d with
  | nil =>
    cases ran
    exact .refl _
  | cons f rest ih =>
    obtain ⟨made, next, dirs, file, ranRest⟩ := writeFiles_cons ran
    have make := keeps_makeDirs d (o.target f).parent
    rw [dirs] at make
    have first : Keeps (o.IsTarget (f :: rest)) (o.IsOnWay (f :: rest)) d made :=
      make.mono (fun q none => none.elim) fun q way => .inr ⟨f, List.mem_cons_self, way⟩
    have second : Keeps (o.IsTarget (f :: rest)) (o.IsOnWay (f :: rest)) made next :=
      (keeps_write file).mono (fun q own => ⟨f, List.mem_cons_self, own⟩) fun q none => none.elim
    refine (first.trans second).trans ((ih ranRest).mono ?_ ?_)
    · rintro q ⟨g, member, own⟩
      exact ⟨g, List.mem_cons_of_mem _ member, own⟩
    · rintro q ⟨g, member, way⟩
      exact .inr ⟨g, List.mem_cons_of_mem _ member, way⟩

theorem read_of_writeFiles {later : List EmittedFile} (good : ∀ h ∈ g :: later, h.path.Relative)
    (ran : o.writeFiles d (g :: later) = (written, none)) (last : ∀ h ∈ later, h.path ≠ g.path) :
    written.read (o.target g) = .ok (encoded g) := by
  obtain ⟨made, next, -, file, ranRest⟩ := writeFiles_cons ran
  refine read_of_keeps (grows_writeFiles ranRest) (keeps_writeFiles ranRest) (read_of_write file) ?_
  rintro ⟨h, member, same⟩
  exact last h member (path_eq_of_place (good h (List.mem_cons_of_mem _ member))
    (good g List.mem_cons_self) same)

theorem writeFiles_of_refusal (proper : o.path.Proper) (direct : o.path.Direct)
    (ran : o.write d files = (.error (.refused e), left)) :
    o.writeFiles d files = (left, some e) := by
  cases free : o.conflict? d files with
  | some conflict =>
    rw [write, free] at ran
    cases ran
  | none =>
    cases wrote : o.writeFiles d files with
    | mk written refusal =>
      cases refusal with
      | some e' =>
        rw [write, free] at ran
        dsimp only at ran
        rw [wrote] at ran
        cases ran
        rfl
      | none =>
        obtain ⟨done, finished⟩ := write_of_written proper wrote direct free
        rw [finished] at ran
        cases ran

/-- A refusal leaves every file on the disk that is not listed, and the listed ones in front of the one
that is refused have their content, the last one of those with one path. -/
theorem kept_of_refusal (proper : o.path.Proper) (direct : o.path.Direct)
    (good : ∀ f ∈ files, f.path.Relative) (ran : o.write d files = (.error (.refused e), left)) :
    (∀ q content, d.get? q = some (.file content) → ¬ o.IsTarget files q →
      left.get? q = some (.file content)) ∧
    ∃ before f after written, files = before ++ f :: after ∧
      o.writeFiles d before = (written, none) ∧ o.writeFiles written [f] = (left, some e) ∧
      ∀ first g later, before = first ++ g :: later → (∀ h ∈ later, h.path ≠ g.path) →
        left.read (o.target g) = .ok (encoded g) := by
  obtain ⟨before, f, after, written, rfl, wrote, refused⟩ :=
    exists_refused (writeFiles_of_refusal proper direct ran)
  have stopped := keeps_of_refused refused
  constructor
  · intro q content file foreign
    have mid : written.get? q = some (.file content) := by
      apply (keeps_writeFiles wrote).get?_eq_some file
      rintro ⟨g, member, own⟩
      exact foreign ⟨g, List.mem_append_left _ member, own⟩
    exact stopped.get?_eq_some mid id
  · refine ⟨before, f, after, written, rfl, wrote, refused, ?_⟩
    rintro first g later rfl last
    rw [writeFiles_append] at wrote
    split at wrote
    · rename_i mid _
      have listed : ∀ h ∈ g :: later, h.path.Relative := fun h member =>
        good h (List.mem_append_left _ (List.mem_append_right _ member))
      exact read_of_keeps (grows_of_keeps stopped) stopped (read_of_writeFiles listed wrote last) id
    · cases wrote

theorem write_of_refused (free : o.conflict? d files = none)
    (refused : o.writeFiles d files = (left, some e)) :
    o.write d files = (.error (.refused e), left) := by
  rw [write, free]
  dsimp only
  rw [refused]

def crossing : List EmittedFile :=
  listed [("gen/foo.rs", "a"), ("gen/foo.rs", "b"), ("gen/bar", "c"), ("gen/bar/baz.rs", "d")]

theorem kept_of_crossing : ∃ o : OutputDirectory, o = ⟨Path.ofString "sub/../gen"⟩ ∧ ∃ e left,
    o.path.Proper ∧ o.path.Direct ∧ (∀ f ∈ crossing, f.path.Relative) ∧
    o.write (holding ["gen/old.rs"]) crossing = (.error (.refused e), left) ∧
    (∀ q content, (holding ["gen/old.rs"]).get? q = some (.file content) →
      ¬ o.IsTarget crossing q → left.get? q = some (.file content)) ∧
    ∃ before f after written, crossing = before ++ f :: after ∧
      o.writeFiles (holding ["gen/old.rs"]) before = (written, none) ∧
      o.writeFiles written [f] = (left, some e) ∧
      ∀ first g later, before = first ++ g :: later → (∀ h ∈ later, h.path ≠ g.path) →
        left.read (o.target g) = .ok (encoded g) := by
  let o : OutputDirectory := ⟨Path.ofString "sub/../gen"⟩
  have proper : o.path.Proper := proper_parse _
  have direct : o.path.Direct := by decide +kernel
  have good : ∀ f ∈ crossing, f.path.Relative := by decide +kernel
  have free : o.conflict? (holding ["gen/old.rs"]) crossing = none := by decide +kernel
  have refused : (o.writeFiles (holding ["gen/old.rs"]) crossing).2 =
      some ⟨.alreadyThere, Path.ofString "sub/../gen/bar"⟩ := by decide +kernel
  have ran := write_of_refused free (Prod.ext rfl refused)
  exact ⟨o, rfl, _, _, proper, direct, good, ran, kept_of_refusal proper direct good ran⟩

def winding : OutputDirectory := ⟨Path.ofString "g/a/b/../../../g"⟩

def aged : Disk := holding ["g/a/b/old.rs"]

def renewal : List EmittedFile := listed [("g/foo.rs", "y")]

def isRefused : Except WriteError (List Path) → Bool
  | .error (.refused _) => true
  | _ => false

theorem exists_of_isRefused {result : Except WriteError (List Path)}
    (refused : isRefused result = true) : ∃ e, result = .error (.refused e) := by
  unfold isRefused at refused
  split at refused
  · exact ⟨_, rfl⟩
  · cases refused

/-- The old file is removed, and then its directory, which the path of the next one leads through. -/
theorem not_kept_of_winding :
    ¬ ∀ (o : OutputDirectory) (d left : Disk) (files : List EmittedFile) (e : DiskError),
      o.path.Proper → (∀ f ∈ files, f.path.Relative) →
      o.write d files = (.error (.refused e), left) →
      ∀ q content, d.get? q = some (.file content) → ¬ o.IsTarget files q →
        left.get? q = some (.file content) := by
  intro kept
  let old : Place := [['g'], ['a'], ['b'], ['o', 'l', 'd', '.', 'r', 's']]
  have good : ∀ f ∈ renewal, f.path.Relative := by decide +kernel
  have foreign : ¬ winding.IsTarget renewal old := by
    have apart : ∀ f ∈ renewal, (winding.target f).place ≠ old := by decide +kernel
    exact fun ⟨f, member, own⟩ => apart f member own
  have here : aged.get? old = some (.file "g/a/b/old.rs".toUTF8) := by decide +kernel
  have gone : (winding.write aged renewal).2.get? old = none := by cbv
  have refused : isRefused (winding.write aged renewal).1 = true := by cbv
  obtain ⟨e, error⟩ := exists_of_isRefused refused
  have still := kept winding aged _ renewal e (proper_parse _) good (Prod.ext error rfl) old _ here
    foreign
  rw [gone] at still
  cases still

end OutputDirectory

end ProtoModules
