import ProtoModules.Disk.Basic
import ProtoModules.Text.Lines

/-! Reading and changing a disk through paths. The working directory is the top of the disk, so anchored
paths start where all others do. A double dot goes up from a directory that is there. Every
operation that can be refused says why: something on the way is missing or is no directory, or
the thing itself is of the wrong kind. -/

namespace ProtoModules

inductive Fault where
  | missing
  | notDirectory
  | isDirectory
  | alreadyThere
  deriving DecidableEq

structure DiskError where
  fault : Fault
  path : Disk.Path
  deriving DecidableEq

namespace Fault

def message : Fault → String
  | missing => "[Errno 2] No such file or directory"
  | notDirectory => "[Errno 20] Not a directory"
  | isDirectory => "[Errno 21] Is a directory"
  | alreadyThere => "[Errno 17] File exists"

end Fault

def DiskError.message (e : DiskError) : String :=
  e.fault.message ++ ": '" ++ e.path.toString ++ "'"

namespace Disk

/-- Why nothing is at a place: something above it is a file, or something is missing. -/
def absence (d : Disk) (p : Place) : Fault :=
  if (List.range p.length).any fun n =>
      match d.get? (p.take n) with
      | some (.file _) => true
      | _ => false
  then .notDirectory else .missing

def follow (d : Disk) (here : Place) : List Name → Except Fault Place
  | [] => .ok here
  | name :: rest =>
    if name = Path.upward then
      match d.get? here with
      | some .directory => follow d here.dropLast rest
      | some (.file _) => .error .notDirectory
      | none => .error (d.absence here)
    else follow d (here ++ [name]) rest

def locate (d : Disk) (path : Path) : Except Fault Place := d.follow [] path.names

def access (d : Disk) (path : Path) : Except Fault Entry := do
  let p ← d.locate path
  match d.get? p with
  | some e => .ok e
  | none => .error (d.absence p)

def hasEntry (d : Disk) (path : Path) : Bool :=
  match d.access path with
  | .ok _ => true
  | .error _ => false

def hasFile (d : Disk) (path : Path) : Bool :=
  match d.access path with
  | .ok (.file _) => true
  | _ => false

def hasDirectory (d : Disk) (path : Path) : Bool :=
  match d.access path with
  | .ok .directory => true
  | _ => false

def read (d : Disk) (path : Path) : Except DiskError ByteArray :=
  match d.access path with
  | .ok (.file content) => .ok content
  | .ok .directory => .error ⟨.isDirectory, path⟩
  | .error fault => .error ⟨fault, path⟩

def writeAt (d : Disk) (p : Place) (content : ByteArray) : Except Fault Disk :=
  if below : p = [] then .error .isDirectory
  else if free : d.get? p = some .directory then .error .isDirectory
  else if parent : d.get? p.dropLast = some .directory then
    if named : Path.isName (p.getLast below) then .ok (d.put p (.file content) below parent free named)
    else .error .missing
  else .error (d.absence p)

def write (d : Disk) (path : Path) (content : ByteArray) : Except DiskError Disk :=
  (d.locate path >>= fun p => d.writeAt p content).mapError fun fault => ⟨fault, path⟩

def makeDirAt (d : Disk) (p : Place) : Except Fault Disk :=
  if taken : (d.get? p).isSome then .error .alreadyThere
  else if parent : d.get? p.dropLast = some .directory then
    have below : p ≠ [] := by rintro rfl; simp at taken
    if named : Path.isName (p.getLast below) then
      .ok (d.put p .directory below parent (by simp at taken; simp [taken]) named)
    else .error .missing
  else .error (d.absence p)

def makeDir (d : Disk) (path : Path) : Except Fault Disk :=
  d.locate path >>= d.makeDirAt

def ensureDir (d : Disk) (path : Path) : Disk × Option Fault :=
  match d.makeDir path with
  | .ok made => (made, none)
  | .error fault => if d.hasDirectory path then (d, none) else (d, some fault)

/-- Makes the directory with these names, the last one first, and what it has to lie in. -/
def makeDirsUp (d : Disk) (root : List Char) : List Name → Disk × Option Fault
  | [] => d.ensureDir ⟨root, []⟩
  | name :: up =>
    let path : Path := ⟨root, (name :: up).reverse⟩
    match d.makeDir path with
    | .ok made => (made, none)
    | .error .missing =>
      match makeDirsUp d root up with
      | (made, none) => made.ensureDir path
      | (made, some fault) => (made, some fault)
    | .error fault => if d.hasDirectory path then (d, none) else (d, some fault)

/-- Makes a directory and all that it lies in. What has been made when it fails stays. -/
def makeDirs (d : Disk) (path : Path) : Disk × Option Fault :=
  d.makeDirsUp path.root path.names.reverse

def removeFileAt (d : Disk) (p : Place) : Except Fault Disk :=
  match found : d.get? p with
  | none => .error (d.absence p)
  | some .directory => .error .isDirectory
  | some (.file _) =>
    .ok (d.restrict (fun q => q != p)
      (by simp only [bne_iff_ne, ne_eq]; rintro rfl; simp at found)
      (by
        intro q notTop there _
        simp only [bne_iff_ne, ne_eq]
        rintro rfl
        obtain ⟨e, there⟩ := Option.isSome_iff_exists.1 there
        rw [get?_dropLast there notTop] at found
        cases found))

def removeFile (d : Disk) (path : Path) : Except DiskError Disk :=
  (d.locate path >>= d.removeFileAt).mapError fun fault => ⟨fault, path⟩

/-- Removes what is at a place and all below it; the working directory stays. -/
def removeTree (d : Disk) (p : Place) : Disk :=
  if top : p = [] then d
  else
    d.restrict (fun q => !p.isPrefixOf q)
      (by cases p with
        | nil => exact absurd rfl top
        | cons => simp)
      (by
        intro q _ _ kept
        simp only [Bool.not_eq_true', Bool.eq_false_iff, ne_eq, List.isPrefixOf_iff_prefix] at kept ⊢
        exact fun within => kept (within.trans (List.dropLast_prefix q)))

theorem mem_below {d : Disk} {p q : Place} {e : Entry} :
    (q, e) ∈ d.below p ↔ (q, e) ∈ d.entries ∧ p <+: q ∧ q ≠ p := by
  simp [below]

/-- The names of what lies in a directory. -/
def listDir (d : Disk) (path : Path) : Except DiskError (List Name) :=
  (d.locate path >>= fun p =>
    match d.get? p with
    | some .directory => .ok (d.members p)
    | some (.file _) => .error .notDirectory
    | none => .error (d.absence p)).mapError fun fault => ⟨fault, path⟩

/-- The directories below a place as seen from there, the deepest first. -/
def directoriesBelow (d : Disk) (p : Place) : List (List Name) :=
  let inner := (d.below p).filter fun item => item.2 = .directory
  (inner.map fun item => item.1.drop p.length).mergeSort fun a b => b.length ≤ a.length

/-- Removes a directory that nothing lies in; the working directory stays. -/
def removeDirAt (d : Disk) (p : Place) : Except Fault Disk :=
  match d.get? p with
  | none => .error (d.absence p)
  | some (.file _) => .error .notDirectory
  | some .directory =>
    if vacant : p ≠ [] ∧ d.below p = [] then
      .ok (d.restrict (fun q => q != p)
        (by simpa using vacant.1.symm)
        (by
          intro q notTop there _
          simp only [bne_iff_ne, ne_eq]
          rintro rfl
          obtain ⟨e, there⟩ := Option.isSome_iff_exists.1 there
          have inside : (q, e) ∈ d.below q.dropLast := by
            refine mem_below.2 ⟨get?_eq_some_iff.1 there, List.dropLast_prefix q, fun same => ?_⟩
            have lengths := congrArg List.length same
            have := List.length_pos_iff.2 notTop
            rw [List.length_dropLast] at lengths
            omega
          rw [vacant.2] at inside
          cases inside))
    else .error .alreadyThere

def removeDir (d : Disk) (path : Path) : Except DiskError Disk :=
  (d.locate path >>= d.removeDirAt).mapError fun fault => ⟨fault, path⟩

/-- Puts a file or directory at a path, with what it has to lie in. A disk that cannot take it
stays as far as it came. -/
def store (d : Disk) (path : Path) : Entry → Disk
  | .directory => (d.makeDirs path).1
  | .file content =>
    let made := (d.makeDirs path.parent).1
    match made.write path content with
    | .ok written => written
    | .error _ => made

def discard (d : Disk) (path : Path) : Disk :=
  match d.locate path with
  | .ok p => d.removeTree p
  | .error _ => d

/-- All files and directories with their paths, in the order of the written paths. -/
def listing (d : Disk) : List (String × Entry) :=
  let written := (d.entries.filter fun item => item.1 != []).map fun item =>
    (Text.joinWith '/' item.1, item.2)
  (written.mergeSort fun a b => !decide (b.1 < a.1)).map fun item => (String.ofList item.1, item.2)

end Disk

end ProtoModules
