import Mathlib.Data.List.Sort
import ProtoModules.Proofs.Disk.Vacant
import ProtoModules.Proofs.PackageTree.Nodes
import ProtoModules.Proofs.Tool.PackageFile

/-! Reading the source files of a directory. Every file that is not blank becomes one unit; as no two files
say the same in their names, the units stand in strict order, so a package has its message code
and its service code at most once, next to each other, and so has its node in the tree. -/

namespace ProtoModules.Tool
open Text Disk Disk.Path Source PackageTree

variable {d : Disk} {directory : Path} {p : Place} {name : Name} {service : Option (List Char)}

theorem mem_sourceNames_iff :
    name ∈ sourceNames d p ↔ sourceEnding <:+ name ∧ d.get? (p ++ [name]) ≠ none := by
  rw [sourceNames, (List.mergeSort_perm _ _).mem_iff, List.mem_filter, mem_members_iff,
    List.isSuffixOf_iff_suffix, and_comm]

theorem nodup_sourceNames (d : Disk) (p : Place) : (sourceNames d p).Nodup := by
  rw [sourceNames, (List.mergeSort_perm _ _).nodup_iff]
  exact (nodup_members d p).sublist List.filter_sublist

theorem pairwise_sourceNames (d : Disk) (p : Place) : (sourceNames d p).Pairwise (· ≤ ·) :=
  pairwise_mergeSort_of_iff (fun a b => by simp) _

theorem sourceNames_congr {d' : Disk} {q : Place}
    (same : ∀ name, sourceEnding <:+ name → d.get? (p ++ [name]) = d'.get? (q ++ [name])) :
    sourceNames d p = sourceNames d' q := by
  have perm : (sourceNames d p).Perm (sourceNames d' q) := by
    refine (List.perm_ext_iff_of_nodup (nodup_sourceNames d p) (nodup_sourceNames d' q)).2
      fun name => ?_
    rw [mem_sourceNames_iff, mem_sourceNames_iff]
    exact and_congr_right fun ending => by rw [same name ending]
  exact perm.eq_of_pairwise' (pairwise_sourceNames d p) (pairwise_sourceNames d' q)

theorem ne_upward_of_mem_sourceNames (listed : name ∈ sourceNames d p) : name ≠ upward :=
  (isName_iff.1 (isName_of_mem_members (mem_members_iff.2 (mem_sourceNames_iff.1 listed).2))).2

def text? (d : Disk) (p : Place) (name : Name) : Option (List Char) :=
  match d.get? (p ++ [name]) with
  | some (.file content) => (decode content).toOption.map fun text => unifyBreaks text.toList
  | _ => none

theorem locate_member (found : d.locate directory = .ok p) (level : name ≠ upward) :
    d.locate ⟨directory.root, directory.names ++ [name]⟩ = .ok (p ++ [name]) :=
  locate_append (by simpa [eq_comm] using level) found

theorem readText_eq (found : d.locate directory = .ok p) (level : name ≠ upward)
    {text : List Char} (readable : text? d p name = some text) :
    readText d ⟨directory.root, directory.names ++ [name]⟩ = .ok text := by
  rw [text?] at readable
  split at readable
  · rename_i content here
    have there := access_eq_ok_iff.2 ⟨_, locate_member found level, here⟩
    obtain ⟨s, decoded, rfl⟩ := Option.map_eq_some_iff.1 readable
    have good : decode content = .ok s := by
      cases read : decode content with
      | error e => simp [read, Except.toOption] at decoded
      | ok t => simpa [read, Except.toOption] using decoded
    simp [readText, Disk.read, there, good, Except.mapError, bind, Except.bind, pure, Except.pure]
  · cases readable

/-- All source files of the directory at a place can be read. -/
def IsReadable (d : Disk) (p : Place) : Prop :=
  ∀ name, sourceEnding <:+ name → d.get? (p ++ [name]) ≠ none → text? d p name ≠ none

instance (d : Disk) (p : Place) : Decidable (IsReadable d p) :=
  decidable_of_iff (∀ name ∈ d.members p, sourceEnding <:+ name → text? d p name ≠ none)
    ⟨fun each name source there => each name (mem_members_iff.2 there) source,
      fun readable name member source => readable name source (mem_members_iff.1 member)⟩

def textOf (d : Disk) (p : Place) (name : Name) : List Char := (text? d p name).getD []

theorem mapM_eq_ok {α β : Type} {xs : List α} {f : α → Except Failure β} {g : α → β}
    (each : ∀ x ∈ xs, f x = .ok (g x)) : xs.mapM f = .ok (xs.map g) := by
  induction xs with
  | nil => rfl
  | cons x rest ih =>
    have later := ih fun y member => each y (List.mem_cons_of_mem x member)
    rw [List.mapM_cons, each x List.mem_cons_self, later]
    rfl

section readable

variable (found : d.locate directory = .ok p) (here : d.get? p = some .directory)
  (readable : IsReadable d p)

include found here readable

theorem sourceTexts_eq :
    sourceTexts d directory = .ok ((sourceNames d p).map fun name => (name, textOf d p name)) := by
  rw [sourceTexts, found]
  dsimp only
  rw [if_pos (by simp [isDirectory, here])]
  apply mapM_eq_ok
  intro name listed
  obtain ⟨source, there⟩ := mem_sourceNames_iff.1 listed
  obtain ⟨text, known⟩ := Option.ne_none_iff_exists'.1 (readable name source there)
  rw [readText_eq found (ne_upward_of_mem_sourceNames listed) known, textOf, known]
  rfl

end readable

def orderedNames (d : Disk) (p : Place) (service : Option (List Char)) : List Name :=
  ((sourceNames d p).filter fun name => !allBlank (textOf d p name)).mergeSort fun a b =>
    PackageFile.le (PackageFile.ofName service a) (PackageFile.ofName service b)

def unitOf (d : Disk) (p : Place) (service : Option (List Char)) (name : Name) : GeneratedUnit :=
  GeneratedUnit.ofSource (PackageFile.ofName service name).package (textOf d p name)
    (String.ofList name)

theorem readUnits_eq (found : d.locate directory = .ok p) (here : d.get? p = some .directory)
    (readable : IsReadable d p) (service : Option (List Char)) :
    readUnits d directory service =
      .ok ((orderedNames d p service).map (unitOf d p service)) := by
  let entry (name : Name) := (PackageFile.ofName service name, name, textOf d p name)
  have sorted : (((sourceNames d p).filter fun name => !allBlank (textOf d p name)).map entry).mergeSort
      (fun a b => PackageFile.le a.1 b.1) = (orderedNames d p service).map entry := by
    rw [orderedNames]
    symm
    apply List.map_mergeSort
    intro a _ b _
    rfl
  rw [readUnits, sourceTexts_eq found here readable]
  simp only [bind, Except.bind, pure, Except.pure, List.filter_map, List.map_map, Except.ok.injEq]
  change List.map _ ((((sourceNames d p).filter fun name => !allBlank (textOf d p name)).map
    entry).mergeSort fun a b => PackageFile.le a.1 b.1) = _
  rw [sorted, List.map_map]
  rfl

theorem mem_orderedNames_iff :
    name ∈ orderedNames d p service ↔
      name ∈ sourceNames d p ∧ allBlank (textOf d p name) = false := by
  rw [orderedNames, (List.mergeSort_perm _ _).mem_iff, List.mem_filter, Bool.not_eq_true']

theorem pairwise_orderedNames (d : Disk) (p : Place) (service : Option (List Char)) :
    (orderedNames d p service).Pairwise fun a b =>
      (PackageFile.ofName service a).key < (PackageFile.ofName service b).key := by
  refine pairwise_lt_mergeSort_of_iff (fun a b =>
    PackageFile.le_iff (PackageFile.ofName service a) (PackageFile.ofName service b))
    ((nodup_sourceNames d p).sublist List.filter_sublist) fun a first b second same => ?_
  have sourceA := (mem_sourceNames_iff.1 (List.mem_filter.1 first).1).1
  have sourceB := (mem_sourceNames_iff.1 (List.mem_filter.1 second).1).1
  exact PackageFile.ofName_injOn sourceA sourceB (PackageFile.key_injective same)

theorem exists_cut {α β : Type} [LinearOrder β] {f : α → β} {xs : List α}
    (sorted : xs.Pairwise fun a b => f a ≤ f b) (k : β) :
    ∃ before same behind, xs = before ++ same ++ behind ∧ (∀ x ∈ before, f x < k) ∧
      (∀ x ∈ same, f x = k) ∧ ∀ x ∈ behind, k < f x := by
  induction xs with
  | nil => exact ⟨[], [], [], by simp⟩
  | cons x rest ih =>
    rw [List.pairwise_cons] at sorted
    obtain ⟨before, same, behind, rfl, low, own, high⟩ := ih sorted.2
    have least : ∀ y ∈ before ++ same ++ behind, f x ≤ f y := sorted.1
    rcases lt_trichotomy (f x) k with below | here | above
    · exact ⟨x :: before, same, behind, rfl, List.forall_mem_cons.2 ⟨below, low⟩, own, high⟩
    · have first : before = [] := by
        refine List.eq_nil_iff_forall_not_mem.2 fun y member => ?_
        exact absurd (low y member) (not_lt.2 (here ▸ least y (by simp [member])))
      subst first
      exact ⟨[], x :: same, behind, rfl, by simp, List.forall_mem_cons.2 ⟨here, own⟩, high⟩
    · have first : before = [] := by
        refine List.eq_nil_iff_forall_not_mem.2 fun y member => ?_
        exact absurd (low y member) (not_lt.2 (above.le.trans (least y (by simp [member]))))
      have second : same = [] := by
        refine List.eq_nil_iff_forall_not_mem.2 fun y member => ?_
        exact absurd (own y member) (ne_of_gt (above.trans_le (least y (by simp [member]))))
      subst first second
      exact ⟨[], [], x :: behind, rfl, by simp, by simp, List.forall_mem_cons.2 ⟨above, high⟩⟩

theorem exists_pair {α : Type} {flag : α → Bool} {xs : List α}
    (sorted : xs.Pairwise fun a b => flag a < flag b) :
    ∃ first second : Option α, xs = first.toList ++ second.toList ∧
      (∀ a ∈ first, flag a = false) ∧ ∀ b ∈ second, flag b = true := by
  match xs, sorted with
  | [], _ => exact ⟨none, none, by simp⟩
  | [a], _ =>
    cases marked : flag a with
    | false => exact ⟨some a, none, by simp [marked]⟩
    | true => exact ⟨none, some a, by simp [marked]⟩
  | [a, b], sorted =>
    have order : flag a < flag b := by simpa using sorted
    rw [Bool.lt_iff] at order
    exact ⟨some a, some b, by simp [order]⟩
  | a :: b :: c :: rest, sorted =>
    -- three flags cannot increase
    have first : flag a < flag b := (List.pairwise_cons.1 sorted).1 b (by simp)
    have second : flag b < flag c :=
      (List.pairwise_cons.1 (List.pairwise_cons.1 sorted).2).1 c (by simp)
    rw [Bool.lt_iff] at first second
    simp [first.2] at second

def isCode (service : Option (List Char)) (u : GeneratedUnit) : Bool :=
  (PackageFile.ofName service u.origin.toList).service

def rank (service : Option (List Char)) (u : GeneratedUnit) : List Segment ×ₗ Bool :=
  toLex (u.package, isCode service u)

theorem rank_unitOf (d : Disk) (p : Place) (service : Option (List Char)) (name : Name) :
    rank service (unitOf d p service name) = (PackageFile.ofName service name).key := by
  rw [rank, isCode, unitOf, GeneratedUnit.ofSource, String.toList_ofList]
  rfl

/-- The units of one package among others: its message code and behind it its service code, each at
most once and next to each other. -/
structure Share (service : Option (List Char)) (us : List GeneratedUnit) (package : List Segment) where
  before : List GeneratedUnit
  message : Option GeneratedUnit
  code : Option GeneratedUnit
  behind : List GeneratedUnit
  whole : us = before ++ (message.toList ++ code.toList) ++ behind
  message_own : ∀ u ∈ message, u.package = package ∧ isCode service u = false
  code_own : ∀ u ∈ code, u.package = package ∧ isCode service u = true
  apart : ∀ u ∈ before ++ behind, u.package ≠ package

theorem exists_share {us : List GeneratedUnit}
    (sorted : us.Pairwise fun a b => rank service a < rank service b) (package : List Segment) :
    ∃ share : Share service us package,
      us.filter (fun u => u.package = package) = share.message.toList ++ share.code.toList := by
  -- the ranks order by the package first, then by the flag
  have order : us.Pairwise fun a b =>
      a.package ≤ b.package ∧ (a.package = b.package → isCode service a < isCode service b) := by
    refine sorted.imp fun {a b} less => ?_
    rw [rank, rank, Prod.Lex.toLex_lt_toLex] at less
    rcases less with before | ⟨same, flags⟩
    · exact ⟨before.le, fun same => absurd same before.ne⟩
    · exact ⟨same.le, fun _ => flags⟩
  obtain ⟨before, same, behind, rfl, low, here, high⟩ :=
    exists_cut (f := GeneratedUnit.package) (order.imp fun both => both.1) package
  have flags : same.Pairwise fun a b => isCode service a < isCode service b := by
    have part : same.Sublist (before ++ same ++ behind) :=
      (List.sublist_append_right before same).trans (List.sublist_append_left _ behind)
    refine (order.sublist part).imp_of_mem fun {a b} first second both => both.2 ?_
    rw [here a first, here b second]
  have kept : (before ++ same ++ behind).filter (fun u => u.package = package) = same := by
    have left : before.filter (fun u => u.package = package) = [] := by
      refine List.filter_eq_nil_iff.2 fun u member => ?_
      simpa using (low u member).ne
    have right : behind.filter (fun u => u.package = package) = [] := by
      refine List.filter_eq_nil_iff.2 fun u member => ?_
      simpa using (high u member).ne'
    have middle : same.filter (fun u => u.package = package) = same := by
      refine List.filter_eq_self.2 fun u member => ?_
      simpa using here u member
    rw [List.filter_append, List.filter_append, left, middle, right, List.nil_append,
      List.append_nil]
  obtain ⟨message, code, rfl, plain, marked⟩ := exists_pair flags
  refine ⟨⟨before, message, code, behind, rfl, ?_, ?_, ?_⟩, kept⟩
  · exact fun u member => ⟨here u (by simp [Option.mem_def.1 member]), plain u member⟩
  · exact fun u member => ⟨here u (by simp [Option.mem_def.1 member]), marked u member⟩
  · intro u member
    rcases List.mem_append.1 member with first | last
    · exact (low u first).ne
    · exact (high u last).ne'

theorem units_of_mem_walk {root : Segment} {us : List GeneratedUnit} {package : List Segment}
    {t : PackageTree} (node : (package, t) ∈ (ofUnits root us).walk) :
    t.units = us.filter fun u => u.package = package := by
  rw [walk_eq] at node
  obtain ⟨q, rfl, found⟩ := (mem_nodesAt (ordered_ofUnits root us).distinct).1 node
  rw [← unitsAt_of_get? found, unitsAt_ofUnits]

/-- A directory of readable files is read as one unit for each source file that is not blank, in strict
order of package and kind of code; so every package, and its node in the tree of the units, has at
most its message code and its service code behind it. -/
theorem units_of_readUnits (found : d.locate directory = .ok p)
    (here : d.get? p = some .directory) (readable : IsReadable d p)
    (service : Option (List Char)) (root : Segment) :
    ∃ names : List Name, ∃ us, us = names.map (unitOf d p service) ∧
      readUnits d directory service = .ok us ∧
      names.Nodup ∧
      (∀ name, name ∈ names ↔
        sourceEnding <:+ name ∧ ∃ text, text? d p name = some text ∧ allBlank text = false) ∧
      us.Pairwise (fun a b => rank service a < rank service b) ∧
      ∀ package, ∃ share : Share service us package, ∀ t,
        (package, t) ∈ (ofUnits root us).walk →
          t.units = share.message.toList ++ share.code.toList := by
  have order := pairwise_orderedNames d p service
  have sorted : ((orderedNames d p service).map (unitOf d p service)).Pairwise
      fun a b => rank service a < rank service b := by
    rw [List.pairwise_map]
    simpa only [rank_unitOf] using order
  refine ⟨orderedNames d p service, _, rfl, readUnits_eq found here readable service, ?_,
    fun name => ?_, sorted, fun package => ?_⟩
  · refine List.nodup_iff_pairwise_ne.2 (order.imp fun less same => ?_)
    rw [same] at less
    exact lt_irrefl _ less
  · rw [mem_orderedNames_iff, mem_sourceNames_iff, and_assoc]
    refine and_congr_right fun source => ⟨?_, ?_⟩
    · rintro ⟨there, ink⟩
      obtain ⟨text, known⟩ := Option.ne_none_iff_exists'.1 (readable name source there)
      rw [textOf, known] at ink
      exact ⟨text, known, ink⟩
    · rintro ⟨text, known, ink⟩
      refine ⟨fun absent => ?_, by rwa [textOf, known]⟩
      rw [text?, absent] at known
      cases known
  · obtain ⟨share, units⟩ := exists_share sorted package
    exact ⟨share, fun t node => (units_of_mem_walk node).trans units⟩

def mixed : Disk :=
  [("a.b.rs", "x"), ("a.tonic.rs", "y"), ("_.rs", "z\r\n"), ("a.rs", "w"), ("c.rs", " \n"),
    ("notes", "n")].foldl
    (fun d item => d.store (Path.ofString ("out/" ++ item.1)) (.file item.2.toUTF8)) Disk.empty

theorem units_of_mixed :
    mixed.locate (Path.ofString "out") = .ok ["out".toList] ∧
    mixed.get? ["out".toList] = some .directory ∧ IsReadable mixed ["out".toList] ∧
    text? mixed ["out".toList] "_.rs".toList = some "z\n".toList ∧
    ∃ names : List Name, ∃ us, us = names.map (unitOf mixed ["out".toList] (some serviceEnding)) ∧
      readUnits mixed (Path.ofString "out") (some serviceEnding) = .ok us ∧
      names.Nodup ∧
      (∀ name, name ∈ names ↔ sourceEnding <:+ name ∧
        ∃ text, text? mixed ["out".toList] name = some text ∧ allBlank text = false) ∧
      us.Pairwise (fun a b => rank (some serviceEnding) a < rank (some serviceEnding) b) ∧
      ∀ package, ∃ share : Share (some serviceEnding) us package, ∀ t,
        (package, t) ∈ (ofUnits [] us).walk →
          t.units = share.message.toList ++ share.code.toList := by
  have found : mixed.locate (Path.ofString "out") = .ok ["out".toList] := by decide +kernel
  have here : mixed.get? ["out".toList] = some .directory := by decide +kernel
  have readable : IsReadable mixed ["out".toList] := by decide +kernel
  exact ⟨found, here, readable, by decide +kernel,
    units_of_readUnits found here readable (some serviceEnding) []⟩

end ProtoModules.Tool
