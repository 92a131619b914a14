import ProtoModules.Proofs.PackageTree.Contents
import ProtoModules.Proofs.PackageTree.FilePaths

/-! Reading back what the files of a tree declare. Between the lines that every file starts with and the
texts of its package stand the declarations, one line for each file directly below it; so whoever
follows them from the root module comes to every file in one way, and to nothing else. -/

namespace ProtoModules.PackageTree
open Source Disk Text
open Identifier (stem IsStem isStem_stem ofSegment_eq)

def declarationStart : List Char := "pub mod ".toList

def declaredName? (line : Line) : Option (List Char) :=
  if declarationStart.isPrefixOf line && line.getLast? == some ';' then
    some (line.drop declarationStart.length).dropLast
  else none

def declaredIn (block : List Char) : List (List Char) := (lines block).filterMap declaredName?

def lead (o : FileOptions) (p : List Segment) : List Char :=
  o.headerText ++ if p = [] then lintAllowances ++ o.attributeText else []

def textsAt (t : PackageTree) (p : List Segment) : List Char :=
  (t.unitsAt p).flatMap fun u => withFinalNewline u.source

def block (o : FileOptions) (t : PackageTree) (f : EmittedFile) : List Char :=
  (f.content.take (f.content.length - (t.textsAt f.package).length)).drop (lead o f.package).length

def declared (o : FileOptions) (t : PackageTree) (f : EmittedFile) : List (List Char) :=
  declaredIn (block o t f)

/-- Where the module lies that the file at a path declares: in the directory called like that file
without the ending, under its own name without the mark of a raw identifier. -/
def moduleFile (p : Path) (name : List Char) : Path :=
  let directory := p.parent.join (Path.parse (p.name.take (p.name.length - ending.length)))
  directory.join (Path.parse (Identifier.fileStem name ++ ending))

/-- The declarations with these names lead from the root module to a file. -/
inductive Route (o : FileOptions) (t : PackageTree) (fs : List EmittedFile) :
    List (List Char) → EmittedFile → Prop where
  | root {f : EmittedFile} (member : f ∈ fs) (top : f.package = []) : Route o t fs [] f
  | step {chain : List (List Char)} {f g : EmittedFile} {name : List Char}
      (before : Route o t fs chain f) (declares : name ∈ declared o t f) (member : g ∈ fs)
      (place : g.path = moduleFile f.path name) : Route o t fs (chain ++ [name]) g

/-- The declarations in the files of a tree and the files themselves fit together. -/
structure Linked (o : FileOptions) (t : PackageTree) (fs : List EmittedFile) : Prop where
  /-- The block that is read is all that stands between the lead and the texts, -/
  framed : ∀ f ∈ fs, f.content = lead o f.package ++ block o t f ++ t.textsAt f.package
  /-- and it is spelled by the declarations alone. -/
  spelled : ∀ f ∈ fs, ∃ gap, (gap = [] ∨ gap = ['\n']) ∧
    block o t f = (declared o t f).flatMap declaration ++ gap
  sorted : ∀ f ∈ fs, (declared o t f).Pairwise (· < ·)
  nested : ∀ f ∈ fs, ∀ s, s ∈ (declared o t f).map Identifier.fileStem ↔
    ∃ g ∈ fs, ∃ next, g.package = f.package ++ [next] ∧ g.path.name = s ++ ending
  entered : ∃ f ∈ fs, f.package = []
  /-- No declaration that is come to leads to a file that was not made, -/
  made : ∀ chain f, Route o t fs chain f → ∀ name ∈ declared o t f,
    ∃ g ∈ fs, g.path = moduleFile f.path name
  /-- and every file is come to in one way. -/
  once : ∀ f ∈ fs, ∃! chain, Route o t fs chain f

theorem declaration_eq (name : List Char) :
    declaration name = declarationStart ++ name ++ [';', '\n'] := rfl

theorem declaredName?_line (name : List Char) :
    declaredName? (declarationStart ++ name ++ [';']) = some name := by
  have start : declarationStart.isPrefixOf (declarationStart ++ (name ++ [';'])) = true :=
    List.isPrefixOf_iff_prefix.2 (List.prefix_append _ _)
  simp [declaredName?, start]

theorem declaredIn_declarations {names : List (List Char)} (clean : ∀ name ∈ names, '\n' ∉ name)
    {gap : List Char} (short : gap = [] ∨ gap = ['\n']) :
    declaredIn (names.flatMap declaration ++ gap) = names := by
  induction names with
  | nil =>
    rcases short with rfl | rfl <;>
      simp [declaredIn, lines, splitOn, splitWhere, declaredName?]
  | cons name rest ih =>
    obtain ⟨own, later⟩ := List.forall_mem_cons.1 clean
    have line : '\n' ∉ declarationStart ++ name ++ [';'] := by
      have start : '\n' ∉ declarationStart := by decide
      simp [own, start]
    have cut : (name :: rest).flatMap declaration ++ gap =
        (declarationStart ++ name ++ [';']) ++ '\n' :: (rest.flatMap declaration ++ gap) := by
      rw [List.flatMap_cons, declaration_eq]
      simp only [List.append_assoc, List.cons_append, List.nil_append]
    rw [cut, declaredIn, lines, splitOn_append_separator line, List.filterMap_cons,
      declaredName?_line]
    have read := ih later
    rw [declaredIn, lines] at read
    rw [read]

theorem newline_notMem_ofSegment (s : Segment) : '\n' ∉ Identifier.ofSegment s := by
  obtain ⟨own, plain | raw⟩ := ofSegment_eq s
  · rw [plain]
    exact fun member => absurd (own.spelled _ member) (by decide)
  · rw [raw]
    intro member
    rcases List.mem_append.1 member with mark | name
    · exact absurd mark (by decide)
    · exact absurd (own.spelled _ name) (by decide)

variable {t n : PackageTree} {p : List Segment} {o : FileOptions} {name root : List Char}
  {f g : EmittedFile}

theorem mem_declaredNames (identifier : List Char) :
    name ∈ (n.named identifier).declaredNames ↔
      ∃ s ∈ n.children.map segment, name = Identifier.ofSegment s := by
  rw [(declaredNames_named identifier n).mem_iff, List.mem_map]
  simp only [eq_comm]

theorem map_fileStem_ofSegment (segments : List Segment) :
    (segments.map Identifier.ofSegment).map Identifier.fileStem = segments.map stem := by
  rw [List.map_map]
  exact List.map_congr_left fun s _ => by rw [Function.comp, stem]

theorem sorted_declaredNames (apart : n.Apart) (identifier : List Char) :
    (n.named identifier).declaredNames.Pairwise (· < ·) := by
  have stems : (((n.children.map segment).map Identifier.ofSegment).map
      Identifier.fileStem).Nodup := by
    rw [map_fileStem_ofSegment, List.map_map]
    exact apart.siblings
  have once : ((n.named identifier).children.map identifierOrEmpty).Nodup := by
    rw [children_named, map_identifierOrEmpty]
    exact List.Nodup.of_map _ stems
  exact Disk.Path.pairwise_lt_mergeSort_of_iff (fun a b => by simp) once fun _ _ _ _ same => same

theorem textAt_eq (o : FileOptions) (n : PackageTree) (p : List Segment) :
    ∃ gap, (gap = [] ∨ gap = ['\n']) ∧
      n.textAt o p = lead o p ++ (n.declaredNames.flatMap declaration ++ gap) ++ n.unitText := by
  by_cases top : p = []
  · refine ⟨if n.unitText.isEmpty then [] else ['\n'], by split <;> simp, ?_⟩
    simp only [textAt, rootText, lead, declarations, top, if_pos, List.append_assoc]
  · refine ⟨if n.declarations.isEmpty || n.unitText.isEmpty then [] else ['\n'],
      by split <;> simp, ?_⟩
    simp only [textAt, moduleText, lead, declarations, if_neg top, List.append_assoc,
      List.nil_append]

theorem take_drop_middle (first middle last : List Char) :
    ((first ++ middle ++ last).take ((first ++ middle ++ last).length - last.length)).drop
      first.length = middle := by
  have front : (first ++ middle ++ last).length - last.length = (first ++ middle).length := by
    simp only [List.length_append]
    omega
  rw [front, List.take_left, List.drop_left]

theorem exists_node_of_file (apart : t.Apart) (member : f ∈ (t.named root).files o) :
    ∃ n identifier gap, t.get? f.package = some n ∧ (gap = [] ∨ gap = ['\n']) ∧
      f.content = lead o f.package ++ block o t f ++ t.textsAt f.package ∧
      block o t f = (n.named identifier).declaredNames.flatMap declaration ++ gap ∧
      declared o t f = (n.named identifier).declaredNames := by
  obtain ⟨m, found, content, -⟩ := (mem_files_named apart).1 member
  obtain ⟨identifier, same⟩ := get?_named f.package root t
  rw [same, Option.map_eq_some_iff] at found
  obtain ⟨n, found, rfl⟩ := found
  obtain ⟨gap, short, text⟩ := textAt_eq o (n.named identifier) f.package
  have texts : (n.named identifier).unitText = t.textsAt f.package := by
    rw [unitText, units_named, textsAt, unitsAt_of_get? found]
  rw [text, texts] at content
  have middle : block o t f = (n.named identifier).declaredNames.flatMap declaration ++ gap := by
    rw [block, content, take_drop_middle]
  have clean : ∀ name ∈ (n.named identifier).declaredNames, '\n' ∉ name := by
    intro name listed
    obtain ⟨s, -, rfl⟩ := (mem_declaredNames identifier).1 listed
    exact newline_notMem_ofSegment s
  refine ⟨n, identifier, gap, found, short, by rw [content, middle], middle, ?_⟩
  rw [declared, middle, declaredIn_declarations clean short]

theorem mem_declared_iff (apart : t.Apart) (member : f ∈ (t.named root).files o) :
    name ∈ declared o t f ↔ ∃ g ∈ (t.named root).files o, ∃ next,
      g.package = f.package ++ [next] ∧ name = Identifier.ofSegment next := by
  obtain ⟨n, identifier, gap, found, -, -, -, names⟩ := exists_node_of_file apart member
  rw [names, mem_declaredNames]
  constructor
  · rintro ⟨next, child, rfl⟩
    rw [mem_segments_iff found, ← exists_file_iff apart root o] at child
    obtain ⟨g, nested, package⟩ := child
    exact ⟨g, nested, next, package, rfl⟩
  · rintro ⟨g, nested, next, package, rfl⟩
    refine ⟨next, ?_, rfl⟩
    rw [mem_segments_iff found, ← exists_file_iff apart root o]
    exact ⟨g, nested, package⟩

theorem sorted_declared (apart : t.Apart) (member : f ∈ (t.named root).files o) :
    (declared o t f).Pairwise (· < ·) := by
  obtain ⟨n, identifier, gap, found, -, -, -, names⟩ := exists_node_of_file apart member
  rw [names]
  exact sorted_declaredNames (apart.get? found) identifier

theorem moduleFile_filePath (r : List Char) {stems : List (List Char)}
    (good : ∀ s ∈ stems, IsStem s) (own : IsStem (Identifier.fileStem name)) :
    moduleFile (filePath (r :: stems)) name =
      filePath (r :: (stems ++ [Identifier.fileStem name])) := by
  have longer : ∀ s ∈ stems ++ [Identifier.fileStem name], IsStem s := by
    intro s member
    rcases List.mem_append.1 member with above | last
    · exact good s above
    · exact List.mem_singleton.1 last ▸ own
  have part := isPart_append_ending (isPart_of_isStem own).whole
  obtain ⟨above, last, whole, path, names⟩ := filePath_cons_eq r good
  have directory : (filePath (r :: stems)).parent.join (Path.parse last) =
      ⟨Path.rootOf r, Path.namesOf r ++ stems⟩ := by
    rw [path, Path.parse_of_notMem whole, Path.join_of_free _ rfl, names]
    simp [Path.parent]
  have called : (filePath (r :: stems)).name.take
      ((filePath (r :: stems)).name.length - ending.length) = last := by
    rw [path]
    simp [Path.name]
  rw [moduleFile, called, directory, part.parse, Path.join_of_free _ rfl,
    filePath_cons r (by simp) longer, fileNames_concat, Path.parse, List.append_assoc]

theorem path_of_child (member : f ∈ (t.named root).files o) (nested : g ∈ (t.named root).files o)
    {next : Segment} (package : g.package = f.package ++ [next]) :
    g.path = moduleFile f.path (Identifier.ofSegment next) := by
  have own : Identifier.fileStem (Identifier.ofSegment next) = stem next := by rw [stem]
  rw [path_of_mem_files nested, path_of_mem_files member,
    moduleFile_filePath _ isStem_of_mem_map_stem (own ▸ isStem_stem next), own, package]
  simp

theorem name_path (member : f ∈ (t.named root).files o) {p : List Segment} {next : Segment}
    (package : f.package = p ++ [next]) : f.path.name = stem next ++ ending := by
  have good := isStem_of_mem_map_stem (p := p ++ [next])
  rw [path_of_mem_files member, package, filePath_cons _ (by simp) good, List.map_append,
    List.map_singleton, fileNames_concat]
  simp [Path.name]

theorem Route.mem {fs : List EmittedFile} {chain : List (List Char)}
    (route : Route o t fs chain f) : f ∈ fs := by
  cases route <;> assumption

theorem Route.chain_eq (apart : t.Apart) {chain : List (List Char)}
    (route : Route o t ((t.named root).files o) chain f) :
    chain = f.package.map Identifier.ofSegment := by
  induction route with
  | root member top => rw [top, List.map_nil]
  | @step chain f g name before declares member place ih =>
    obtain ⟨h, nested, next, package, rfl⟩ := (mem_declared_iff apart before.mem).1 declares
    rw [← path_of_child before.mem nested package] at place
    rw [eq_of_path apart member nested place, package, ih, List.map_append, List.map_singleton]

theorem route_of_mem (apart : t.Apart) (member : f ∈ (t.named root).files o) :
    Route o t ((t.named root).files o) (f.package.map Identifier.ofSegment) f := by
  generalize own : f.package = p
  induction p using List.reverseRecOn generalizing f with
  | nil => exact .root member own
  | append_singleton p next ih =>
    have present : (t.get? (p ++ [next])).isSome :=
      (exists_file_iff apart root o _).1 ⟨f, member, own⟩
    rw [get?_append] at present
    have above : (t.get? p).isSome := Option.isSome_of_isSome_bind present
    obtain ⟨g, before, rfl⟩ := (exists_file_iff apart root o p).2 above
    rw [List.map_append, List.map_singleton]
    exact .step (ih before rfl) ((mem_declared_iff apart before).2 ⟨f, member, next, own, rfl⟩)
      member (path_of_child before member own)

/-- A tree that is named without a collision: the declarations in its files and the files fit
together. -/
theorem linked_of_resolve (o : FileOptions) {t : PackageTree} {root : Option (List Char)}
    (free : (t.resolve root).2 = none) :
    ∃ fs, (t.resolve root).1.files? o = .ok fs ∧ Linked o t fs := by
  have apart := apart_of_resolve free
  refine ⟨_, files?_resolve free o, ?_⟩
  refine
    { framed := fun f member => ?framed
      spelled := fun f member => ?spelled
      sorted := fun f member => sorted_declared apart member
      nested := fun f member s => ?nested
      entered := (exists_file_iff apart _ o []).2 rfl
      made := fun chain f route name declares => ?made
      once := fun f member => ⟨_, route_of_mem apart member, fun _ route => route.chain_eq apart⟩ }
  case framed =>
    obtain ⟨n, identifier, gap, -, -, content, -⟩ := exists_node_of_file apart member
    exact content
  case spelled =>
    obtain ⟨n, identifier, gap, -, short, -, middle, names⟩ := exists_node_of_file apart member
    exact ⟨gap, short, names ▸ middle⟩
  case nested =>
    rw [List.mem_map]
    constructor
    · rintro ⟨name, declares, rfl⟩
      obtain ⟨g, nested, next, package, rfl⟩ := (mem_declared_iff apart member).1 declares
      exact ⟨g, nested, next, package, by rw [name_path nested package, stem]⟩
    · rintro ⟨g, nested, next, package, called⟩
      rw [name_path nested package, List.append_cancel_right_eq] at called
      refine ⟨Identifier.ofSegment next, ?_, by rw [← called, stem]⟩
      exact (mem_declared_iff apart member).2 ⟨g, nested, next, package, rfl⟩
  case made =>
    obtain ⟨g, nested, next, package, rfl⟩ := (mem_declared_iff apart route.mem).1 declares
    exact ⟨g, nested, path_of_child route.mem nested package⟩

theorem linked_of_hostile :
    ((ofUnits [] hostile).resolve (some ['g', 'e', 'n'])).2 = none ∧
    ∃ fs, ((ofUnits [] hostile).resolve (some ['g', 'e', 'n'])).1.files? {} = .ok fs ∧
      Linked {} (ofUnits [] hostile) fs := by
  have free : ((ofUnits [] hostile).resolve (some ['g', 'e', 'n'])).2 = none := by decide +kernel
  exact ⟨free, linked_of_resolve {} free⟩

end ProtoModules.PackageTree
