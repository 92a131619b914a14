import ProtoModules.Proofs.PackageTree.FilePaths

/-! The header. The files with a header are the files without one, each with the header put before its
content. That is one more line, unless one of the versions in it has a line break. -/

namespace ProtoModules

def EmittedFile.under (text : List Char) (f : EmittedFile) : EmittedFile :=
  { f with content := text ++ f.content }

namespace PackageTree

def marker : List Char := "// @generated by".toList

def headerStart : List Char := "// @generated by protonest ".toList

def generatorClause : Option String → List Char
  | some version => if version.isEmpty then [] else " (".toList ++ version.toList ++ [')']
  | none => []

def headerLine (tool : String) (generator : Option String) : List Char :=
  headerStart ++ tool.toList ++ generatorClause generator

theorem header_eq (tool : String) (generator : Option String) :
    header tool generator = headerLine tool generator ++ ['\n'] := rfl

theorem marker_prefix_headerLine (tool : String) (generator : Option String) :
    marker <+: headerLine tool generator := by
  have start : marker <+: headerStart := by decide
  rw [headerLine, List.append_assoc]
  exact start.trans (List.prefix_append _ _)

theorem newline_mem_generatorClause {generator : Option String} :
    '\n' ∈ generatorClause generator ↔ ∃ version ∈ generator, '\n' ∈ version.toList := by
  cases generator with
  | none => simp [generatorClause]
  | some version =>
    rw [generatorClause]
    split
    · rename_i bare
      simp [String.isEmpty_iff.1 bare]
    · simp

theorem newline_mem_headerLine {tool : String} {generator : Option String}
    (clean : '\n' ∉ tool.toList) :
    '\n' ∈ headerLine tool generator ↔ ∃ version ∈ generator, '\n' ∈ version.toList := by
  have start : '\n' ∉ headerStart := by decide
  rw [← newline_mem_generatorClause]
  simp [headerLine, start, clean]

variable {o : FileOptions} {f g : EmittedFile} {fs : List EmittedFile} {tool : String}
  {generator : Option String}

theorem moduleText_header (o : FileOptions) (t : PackageTree) :
    t.moduleText { o with prependHeader := true } =
      header o.toolVersion o.generatorVersion ++ t.moduleText { o with prependHeader := false } := by
  simp [moduleText, FileOptions.headerText]

theorem rootText_header (o : FileOptions) (t : PackageTree) :
    t.rootText { o with prependHeader := true } =
      header o.toolVersion o.generatorVersion ++ t.rootText { o with prependHeader := false } := by
  simp [rootText, FileOptions.headerText, FileOptions.attributeText]

theorem filesAt_header (o : FileOptions) (above : List (List Char)) (package : List Segment)
    (t : PackageTree) :
    filesAt { o with prependHeader := true } above package t =
      (filesAt { o with prependHeader := false } above package t).map
        (EmittedFile.under (header o.toolVersion o.generatorVersion)) := by
  induction t generalizing above package with
  | node s us i cs ih =>
    rw [filesAt_eq, filesAt_eq, moduleText_header, List.map_cons, List.map_flatMap]
    exact congrArg _ (List.flatMap_congr fun c child => ih c child _ _)

theorem files_header (o : FileOptions) (t : PackageTree) :
    t.files { o with prependHeader := true } = (t.files { o with prependHeader := false }).map
      (EmittedFile.under (header o.toolVersion o.generatorVersion)) := by
  rw [files, files, filesEach_eq, filesEach_eq, rootText_header, List.map_cons, List.map_flatMap]
  exact congrArg _ (List.flatMap_congr fun c _ => filesAt_header o _ _ c)

theorem files?_header (o : FileOptions) (t : PackageTree) :
    t.files? { o with prependHeader := true } = (t.files? { o with prependHeader := false }).map
      (List.map (EmittedFile.under (header o.toolVersion o.generatorVersion))) := by
  rw [files?, files?]
  cases t.missingName? with
  | some missing => rfl
  | none => exact congrArg Except.ok (files_header o t)

theorem ne_nil_of_files? {t : PackageTree} (made : t.files? o = .ok fs) : fs ≠ [] := by
  rw [files?] at made
  split at made
  · cases made
  · obtain rfl := Except.ok.inj made
    exact List.cons_ne_nil _ _

/-- The second file is the first one with one more line before it, a comment that marks it as generated. -/
structure ExtraLine (f g : EmittedFile) : Prop where
  path : g.path = f.path
  package : g.package = f.package
  content : ∃ line, '\n' ∉ line ∧ marker <+: line ∧ g.content = line ++ '\n' :: f.content

theorem extraLine_under_iff :
    ExtraLine f (f.under (header tool generator)) ↔ '\n' ∉ headerLine tool generator := by
  have shape : (f.under (header tool generator)).content =
      headerLine tool generator ++ '\n' :: f.content := by
    rw [EmittedFile.under, header_eq, List.append_assoc]
    rfl
  constructor
  · intro extra
    obtain ⟨line, clean, -, content⟩ := extra.content
    rw [shape] at content
    rwa [List.append_cancel_right content]
  · exact fun clean => ⟨rfl, rfl, _, clean, marker_prefix_headerLine tool generator, shape⟩

theorem forall₂_extraLine_iff {t : PackageTree} {toplevel : Option String} {gs : List EmittedFile}
    (clean : '\n' ∉ tool.toList) (bare : t.files? ⟨false, toplevel, tool, generator⟩ = .ok fs)
    (headed : t.files? ⟨true, toplevel, tool, generator⟩ = .ok gs) :
    List.Forall₂ ExtraLine fs gs ↔ ∀ version ∈ generator, '\n' ∉ version.toList := by
  obtain ⟨f, member⟩ := List.exists_mem_of_ne_nil fs (ne_nil_of_files? bare)
  rw [files?_header ⟨true, toplevel, tool, generator⟩, bare] at headed
  obtain rfl := Except.ok.inj headed
  rw [List.forall₂_map_right_iff, List.forall₂_same]
  simp only [extraLine_under_iff, newline_mem_headerLine clean]
  constructor
  · intro all version told newline
    exact all f member ⟨version, told, newline⟩
  · rintro short - - ⟨version, told, newline⟩
    exact short version told newline

end PackageTree

end ProtoModules
