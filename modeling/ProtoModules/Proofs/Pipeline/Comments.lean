import ProtoModules.Proofs.PackageTree.Declarations
import ProtoModules.Proofs.PackageTree.Header
import ProtoModules.Proofs.Pipeline.Footprint
import ProtoModules.Proofs.Source.Sanitized

/-! The comments of whole files. What stands before the units in a file holds no documentation line,
and units that end in a line of code keep the runs of one another apart; so every run in a file is
one of a sanitized unit. -/

namespace ProtoModules
open Source Text Tool

namespace Source

theorem isDocLine_of_head {line : Line} {c : Char} (first : line.head? = some c)
    (ink : isBlank c = false) (other : c ≠ '/') : isDocLine line = false := by
  obtain ⟨rest, rfl⟩ := List.head?_eq_some_iff.1 first
  have start : trimStart (c :: rest) = c :: rest := dropWhile_of_stop (by simpa using ink)
  by_contra doc
  obtain ⟨body, whole, -⟩ := (isDocLine_iff _).1 (by simpa using doc)
  rw [start] at whole
  exact other (List.cons.inj whole).1

theorem isDocLine_of_comment {line : Line} (start : ['/', '/', ' '] <+: line) :
    isDocLine line = false := by
  obtain ⟨rest, rfl⟩ := start
  have same : trimStart ('/' :: '/' :: ' ' :: rest) = '/' :: '/' :: ' ' :: rest :=
    dropWhile_of_stop (by simp [isBlank])
  by_contra doc
  obtain ⟨body, whole, -⟩ := (isDocLine_iff _).1 (by simpa using doc)
  rw [same] at whole
  simp [docMark] at whole

theorem WholeLines.of_line {good : List Line → Prop} {line : Line} (clean : '\n' ∉ line)
    (plain : isDocLine line = false) : WholeLines good (line ++ ['\n']) := by
  apply of_plain
  simp [lines, splitOn_of_notMem clean, plain]

end Source

namespace PackageTree

variable {good : List Line → Prop} {o : FileOptions} {us : List GeneratedUnit} {p : List Segment}

/-- The versions are told in one line, and the attribute is no documentation. -/
structure PlainOptions (o : FileOptions) : Prop where
  tool : '\n' ∉ o.toolVersion.toList
  generator : ∀ version ∈ o.generatorVersion, '\n' ∉ version.toList
  toplevel : ∀ text ∈ o.toplevelAttribute, ∀ line ∈ lines text.toList, isDocLine line = false

theorem wholeLines_headerText (plain : PlainOptions o) : WholeLines good o.headerText := by
  rw [FileOptions.headerText]
  split
  · have comment : ['/', '/', ' '] <+: marker := by decide
    rw [header_eq]
    apply WholeLines.of_line
    · rw [newline_mem_headerLine plain.tool]
      rintro ⟨version, told, newline⟩
      exact plain.generator version told newline
    · exact isDocLine_of_comment (comment.trans (marker_prefix_headerLine _ _))
  · exact .empty

def lintLine : Line := "#![allow(clippy::doc_markdown, clippy::use_self)]".toList

theorem lintAllowances_eq : lintAllowances = lintLine ++ ['\n'] := by decide

theorem wholeLines_lintAllowances : WholeLines good lintAllowances := by
  rw [lintAllowances_eq]
  apply WholeLines.of_line
  · decide
  · decide

theorem wholeLines_attributeText (plain : PlainOptions o) : WholeLines good o.attributeText := by
  rw [FileOptions.attributeText]
  split
  · rename_i text given
    split
    · exact .empty
    · exact .of_plain (plain.toplevel text given)
  · exact .empty

theorem wholeLines_declaration {name : List Char} (clean : '\n' ∉ name) :
    WholeLines good (declaration name) := by
  have line : declaration name = (declarationStart ++ name ++ [';']) ++ ['\n'] := by
    simp [declaration_eq]
  have start : '\n' ∉ declarationStart := by decide
  have first : declarationStart.head? = some 'p' := by decide
  rw [line]
  apply WholeLines.of_line
  · simp [start, clean]
  · apply isDocLine_of_head
    · rw [List.append_assoc, List.head?_append, first, Option.some_or]
    · decide
    · decide

theorem Lead.wholeLines_text (lead : Lead o us p) (plain : PlainOptions o) :
    WholeLines good lead.text := by
  have top : WholeLines good (if p = [] then lintAllowances ++ o.attributeText else []) := by
    split
    · exact wholeLines_lintAllowances.append (wholeLines_attributeText plain)
    · exact .empty
  have names : WholeLines good (lead.names.flatMap declaration) := by
    apply WholeLines.flatMap
    intro name member
    obtain ⟨s, -, rfl⟩ := List.mem_map.1 (lead.named.mem_iff.1 member)
    exact wholeLines_declaration (newline_notMem_ofSegment s)
  have gap : WholeLines good lead.gap := by
    rcases lead.short with none | one
    · rw [none]
      exact .empty
    · rw [one]
      exact WholeLines.of_line List.not_mem_nil (by decide)
  exact (((wholeLines_headerText plain).append top).append names).append gap

theorem withFinalNewline_eq (s : List Char) :
    withFinalNewline s = withoutFinalNewline s ++ ['\n'] := by
  rw [withFinalNewline, withoutFinalNewline]
  split
  · rename_i newline
    obtain ⟨rest, rfl⟩ := List.getLast?_eq_some_iff.1 newline
    simp
  · rfl

theorem content_of_mem_files {root : Segment} {name : List Char} {f : EmittedFile}
    (member : f ∈ ((ofUnits root us).named name).files o) :
    ∃ lead : Lead o us f.package, f.content = lead.text ++ textsOf us f.package := by
  have written := List.mem_map_of_mem (f := contentOf) member
  rw [contentOf_files, List.mem_map] at written
  obtain ⟨⟨p, n⟩, node, same⟩ := written
  obtain ⟨rfl, text⟩ := Prod.mk.inj same
  rw [← text]
  exact textAt_of_mem_nodesAt_named o node

end PackageTree

theorem Source.GeneratedUnit.eq_ofSource {u : GeneratedUnit}
    (extracted : u.comments = docComments u.package u.source) :
    u = ofSource u.package u.source u.origin := by
  cases u
  simp only [ofSource] at extracted ⊢
  rw [extracted]

theorem PackageTree.wholeLines_sanitize (patterns : List (List Char)) {u : GeneratedUnit}
    (extracted : u.comments = docComments u.package u.source) (ended : EndsPlain u.source) :
    WholeLines (SettledRun patterns) (withFinalNewline (u.sanitize patterns).source) := by
  rw [withFinalNewline_eq, GeneratedUnit.eq_ofSource extracted]
  have kept : EndsPlain
      ((GeneratedUnit.ofSource u.package u.source u.origin).sanitize patterns).source :=
    GeneratedUnit.endsPlain_sanitize ended
  apply WholeLines.closed kept
  intro run member
  exact GeneratedUnit.settledRun_of_sanitize (mem_ofLines_of_withoutFinalNewline kept member)

theorem PackageTree.wholeLines_of_mem_files {patterns : List (List Char)} {us : List GeneratedUnit}
    {root : Segment} {name : List Char} {o : FileOptions} {f : EmittedFile} (plain : PlainOptions o)
    (extracted : ∀ u ∈ us, u.comments = docComments u.package u.source)
    (ended : ∀ u ∈ us, EndsPlain u.source)
    (member : f ∈ ((ofUnits root (us.map (GeneratedUnit.sanitize patterns))).named name).files o) :
    WholeLines (SettledRun patterns) f.content := by
  obtain ⟨lead, content⟩ := content_of_mem_files member
  have texts : WholeLines (SettledRun patterns)
      (textsOf (us.map (GeneratedUnit.sanitize patterns)) f.package) := by
    apply WholeLines.flatMap
    intro sanitized listed
    obtain ⟨u, own, rfl⟩ := List.mem_map.1 (List.mem_filter.1 listed).1
    exact wholeLines_sanitize patterns (extracted u own) (ended u own)
  rw [content]
  exact (lead.wholeLines_text plain).append texts

namespace Pipeline

variable {tools : Toolchain} {p : Pipeline} {s s' mid after : Session} {files : List EmittedFile}
  {us : List GeneratedUnit} {version : Option String}

theorem files_of_build (bare : p.settings.format = false)
    (generated : (p.units tools).run s = (.ok us, mid))
    (told : (p.generatorVersion tools).run mid = (.ok version, after))
    (ran : (p.build tools).run s = (.ok files, s')) :
    files = ((p.unitTree us).named p.output.path.name).files (p.options version) := by
  have unformatted : p.formatter = none := by simp [formatter, bare]
  rw [build, Action.bind_run, generated] at ran
  simp only at ran
  cases made : p.tree us with
  | error collision =>
    rw [made] at ran
    cases ran
  | ok tree =>
    obtain ⟨-, rfl⟩ := tree_eq_named made
    simp only [made, unformatted] at ran
    rw [Action.bind_run, told] at ran
    cases ran
    rfl

/-- Units with the comments that stand in their sources, none of which ends in a documentation line. In
the files of a build, without a formatter, every maximal run of documentation lines has a text that
sanitizing leaves as it is, and if all comments are disabled there is no documentation line. -/
theorem comments_of_build (bare : p.settings.format = false)
    (generated : (p.units tools).run s = (.ok us, mid))
    (told : (p.generatorVersion tools).run mid = (.ok version, after))
    (extracted : ∀ u ∈ us, u.comments = docComments u.package u.source)
    (ended : ∀ u ∈ us, EndsPlain u.source)
    (short : ∀ text ∈ version, '\n' ∉ text.toList)
    (toplevel : ∀ text ∈ p.settings.toplevelAttribute, ∀ line ∈ lines text.toList,
      isDocLine line = false)
    (ran : (p.build tools).run s = (.ok files, s')) :
    ∀ f ∈ files,
      (∀ before run behind, MaximalRun (lines f.content) before run behind →
        ∃ indent text, splitDocLines run = some (indent, text) ∧ Comment.sanitize text = text) ∧
      ("." ∈ p.settings.disableComments → ∀ line ∈ lines f.content, isDocLine line = false) := by
  have program : '\n' ∉ programVersion.toList := by decide
  have plain : PackageTree.PlainOptions (p.options version) := ⟨program, short, toplevel⟩
  intro f member
  rw [files_of_build bare generated told ran] at member
  have whole := PackageTree.wholeLines_of_mem_files plain extracted ended member
  constructor
  · intro before run behind maximal
    have settled := whole.good_of_mem (Piece.doc_mem_ofLines maximal)
    exact ⟨docIndent run, docText run, splitDocLines_eq maximal.present, settled.2⟩
  · intro every line inside
    have dot : ['.'] ∈ p.patterns := List.mem_map_of_mem (f := String.toList) every
    by_contra doc
    obtain ⟨run, piece⟩ := Piece.exists_doc_mem_ofLines inside (by simpa using doc)
    exact (whole.good_of_mem piece).1 dot

def documented : List GeneratedUnit :=
  [.ofSource [['a']] "/// ```\n/// x\ny\n".toList "", .ofSource [['a'], ['b']] ['z'] ""]

def documentedSample : Pipeline := { sample "out" with generator := .given documented none }

theorem comments_of_documented : ∃ files,
    (documentedSample.units bareTools).run ⟨Disk.empty, []⟩ = (.ok documented, ⟨Disk.empty, []⟩) ∧
    (documentedSample.generatorVersion bareTools).run ⟨Disk.empty, []⟩ =
      (.ok none, ⟨Disk.empty, []⟩) ∧
    (∀ u ∈ documented, u.comments = docComments u.package u.source) ∧
    (∀ u ∈ documented, EndsPlain u.source) ∧
    (documentedSample.build bareTools).run ⟨Disk.empty, []⟩ = (.ok files, ⟨Disk.empty, []⟩) ∧
    ∀ f ∈ files,
      (∀ before run behind, MaximalRun (lines f.content) before run behind →
        ∃ indent text, splitDocLines run = some (indent, text) ∧ Comment.sanitize text = text) ∧
      ("." ∈ documentedSample.settings.disableComments →
        ∀ line ∈ lines f.content, isDocLine line = false) := by
  have extracted : ∀ u ∈ documented, u.comments = docComments u.package u.source := by
    simp [documented, GeneratedUnit.ofSource]
  have ended : ∀ u ∈ documented, EndsPlain u.source := by
    unfold EndsPlain
    decide +kernel
  have free : (documentedSample.tree documented).isOk = true := by decide +kernel
  have built : ∃ files, (documentedSample.build bareTools).run ⟨Disk.empty, []⟩ =
      (.ok files, ⟨Disk.empty, []⟩) := by
    rw [build_given rfl rfl]
    cases made : documentedSample.tree documented with
    | ok tree => exact ⟨_, rfl⟩
    | error collision =>
      rw [made] at free
      cases free
  obtain ⟨files, ran⟩ := built
  exact ⟨files, rfl, rfl, extracted, ended, ran,
    comments_of_build rfl rfl rfl extracted ended (by simp) (by simp [documentedSample, sample]) ran⟩

end Pipeline

end ProtoModules
