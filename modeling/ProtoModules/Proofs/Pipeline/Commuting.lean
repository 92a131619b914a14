import ProtoModules.Proofs.Output.Edit
import ProtoModules.Proofs.Pipeline.Failure
import ProtoModules.Proofs.Pipeline.Skipping

/-! Runs for separate output directories. What such a run answers depends on the disk only through its own
directory, and the edit that it makes depends on its answer only. An edit for one directory leaves
the other one undisturbed; so two runs answer the same in either order and leave the same tree. -/

namespace ProtoModules.Pipeline
open Disk Source Tool ProtoModules.Action

variable {tools : Toolchain} {p q : Pipeline} {s s' built : Session} {files : List EmittedFile}
  {commands : List Command}

/-- Units are given, for an output directory that has no steps up in its path and no mark of a raw
identifier in its name. -/
structure Ordinary (p : Pipeline) : Prop where
  given : ∃ us version, p.generator = .given us version
  level : Path.upward ∉ p.output.path.names
  present : p.output.path.names ≠ []
  ordinary : ¬ Identifier.rawMark <+: p.output.path.name

theorem Ordinary.plain (ordinary : p.Ordinary) : p.output.path.Plain :=
  Path.plain_parse ordinary.level

theorem fits_of_build (ordinary : p.Ordinary) (ran : (p.build tools).run s = (.ok files, built)) :
    p.output.Fits files ∧ files ≠ [] := by
  obtain ⟨t, options, apart, places⟩ := exists_tree_of_build ran
  have named := isName_output ordinary.level ordinary.present
  refine ⟨(OutputDirectory.fits_files named ordinary.ordinary apart).of_paths places, ?_⟩
  rintro rfl
  obtain ⟨f, member, -⟩ := (PackageTree.exists_file_iff apart p.output.path.name options []).2 rfl
  rw [List.map_nil, eq_comm, List.map_eq_nil_iff] at places
  rw [places] at member
  cases member

structure Confined (tools : Toolchain) (p : Pipeline) (edit : Except Failure Report → Edit) :
    Prop where
  edits : ∀ answer, p.output.Edits (edit answer)
  turns : ∀ s, (edit ((p.generate tools).run s).1).Turns s.disk ((p.generate tools).run s).2.disk
  same : ∀ s t, p.output.Undisturbed s.disk t.disk →
    ((p.generate tools).run t).1 = ((p.generate tools).run s).1
  clean : ∀ s report, ((p.generate tools).run s).1 = .ok report → ∀ t,
    p.output.Undisturbed ((p.generate tools).run s).2.disk t.disk →
    ((p.validate tools).run t).1 = .ok {}

theorem confined_of_failure {e : Failure}
    (ran : ∀ s, (p.generate tools).run s = (.error e, { s with commands := s.commands ++ commands })) :
    Confined tools p fun _ => Edit.idle where
  edits _ := .inl rfl
  turns s := by
    rw [ran]
    exact Edit.turns_idle _
  same s t _ := by rw [ran, ran]
  clean s report answered := by
    rw [ran] at answered
    cases answered

def editOf (p : Pipeline) (files : List EmittedFile) : Except Failure Report → Edit
  | .ok report => if report.isEmpty then Edit.idle else p.output.replacing files
  | .error _ => Edit.idle

section files

variable (always : ∀ s, (p.build tools).run s =
    (.ok files, { s with commands := s.commands ++ commands }))
  (fits : p.output.Fits files)

include always fits

theorem generate_run_of_plain (plain : p.output.path.Plain) (s : Session) :
    (p.generate tools).run s = match p.output.diff s.disk files with
      | .error conflict =>
        (.error (.error (.ofConflict conflict)), { s with commands := s.commands ++ commands })
      | .ok report =>
        (.ok report,
          { disk := if report.isEmpty then s.disk else (p.output.write s.disk files).2
            commands := s.commands ++ commands }) := by
  rw [generate_run (always s)]
  dsimp only
  cases compared : p.output.diff s.disk files with
  | error conflict => rfl
  | ok report =>
    dsimp only
    have free := (OutputDirectory.diff_eq_ok_iff.1 compared).1
    obtain ⟨left, wrote⟩ := OutputDirectory.write_of_free plain fits.sideBySide free
    rw [wrote]
    by_cases empty : report.isEmpty = true
    · rw [if_pos empty, if_pos empty]
    · rw [if_neg empty, if_neg empty]

theorem turns_generate (plain : p.output.path.Plain) (present : p.output.path.names ≠ [])
    (s : Session) : (p.editOf files ((p.generate tools).run s).1).Turns s.disk
      ((p.generate tools).run s).2.disk := by
  rw [generate_run_of_plain always fits plain]
  cases compared : p.output.diff s.disk files with
  | error conflict => exact Edit.turns_idle _
  | ok report =>
    dsimp only [editOf]
    by_cases empty : report.isEmpty = true
    · rw [if_pos empty, if_pos empty]
      exact Edit.turns_idle _
    · have free := (OutputDirectory.diff_eq_ok_iff.1 compared).1
      obtain ⟨left, wrote⟩ := OutputDirectory.write_of_free plain fits.sideBySide free
      rw [if_neg empty, if_neg empty, wrote]
      exact OutputDirectory.turns_of_replaced
        (OutputDirectory.replaced_of_write plain present fits wrote)
        fun f member => OutputDirectory.clear_target plain (fits.relative f member) free member

variable (first : files ≠ [])

include first

theorem clean_of_generate (level : Path.upward ∉ p.output.path.names)
    (present : p.output.path.names ≠ []) {report : Report}
    (answered : ((p.generate tools).run s).1 = .ok report) {t : Session}
    (same : p.output.Undisturbed ((p.generate tools).run s).2.disk t.disk) :
    ((p.validate tools).run t).1 = .ok {} := by
  obtain ⟨files', built, build, diff, outcome⟩ := generate_eq_ok_iff.1 (Prod.ext answered rfl)
  rw [always] at build
  cases build
  have clean := diff_of_generate level present fits first diff outcome
  have still := OutputDirectory.diff_congr (Path.plain_parse level) present same fits
  rw [validate_of_same (always t) (still.trans clean)]

theorem confined_of_files (ordinary : p.Ordinary) : Confined tools p (p.editOf files) where
  edits answer := by
    cases answer with
    | error e => exact .inl rfl
    | ok report =>
      rw [editOf]
      split
      · exact .inl rfl
      · exact .inr ⟨ordinary.plain, files, fits, rfl⟩
  turns s := turns_generate always fits ordinary.plain ordinary.present s
  same s t undisturbed := by
    rw [generate_run_of_plain always fits ordinary.plain,
      generate_run_of_plain always fits ordinary.plain,
      OutputDirectory.diff_congr ordinary.plain ordinary.present undisturbed fits]
    cases p.output.diff s.disk files <;> rfl
  clean s report answered t same :=
    clean_of_generate always fits first ordinary.level ordinary.present answered same

end files

theorem exists_confined (tools : Toolchain) (ordinary : p.Ordinary) :
    ∃ edit, Confined tools p edit := by
  obtain ⟨us, version, given⟩ := ordinary.given
  obtain ⟨result, commands, always⟩ := detached_build tools given
  cases result with
  | error e =>
    have ran : ∀ s, (p.generate tools).run s =
        (.error e, { s with commands := s.commands ++ commands }) := by
      intro s
      rw [generate, bind_run, always]
    exact ⟨_, confined_of_failure ran⟩
  | ok files =>
    obtain ⟨fits, first⟩ := fits_of_build ordinary (always ⟨Disk.empty, []⟩)
    exact ⟨_, confined_of_files always fits first ordinary⟩

/-- The answers of two runs, the second one after the first, and the disk behind them. -/
def generateBoth (tools : Toolchain) (p q : Pipeline) (s : Session) :
    Except Failure Report × Except Failure Report × Disk :=
  let (first, mid) := (p.generate tools).run s
  let (second, last) := (q.generate tools).run mid
  (first, second, last.disk)

/-- Runs for two separate directories answer the same and leave the same tree in either order. If both
answer reports, comparing finds nothing different in either directory afterwards. -/
theorem generateBoth_comm (first : p.Ordinary) (second : q.Ordinary)
    (apart : p.output.Apart q.output) (s : Session) :
    (generateBoth tools p q s).1 = (generateBoth tools q p s).2.1 ∧
    (generateBoth tools p q s).2.1 = (generateBoth tools q p s).1 ∧
    Alike (generateBoth tools p q s).2.2 (generateBoth tools q p s).2.2 ∧
    ∀ r r', (generateBoth tools p q s).1 = .ok r → (generateBoth tools p q s).2.1 = .ok r' →
      ∀ t : Session, Alike (generateBoth tools p q s).2.2 t.disk →
        ((p.validate tools).run t).1 = .ok {} ∧ ((q.validate tools).run t).1 = .ok {} := by
  obtain ⟨edit, own⟩ := exists_confined tools first
  obtain ⟨edit', own'⟩ := exists_confined tools second
  simp only [generateBoth]
  -- neither run disturbs the directory of the other one, so each answers as it does alone
  have undisturbed : ∀ s : Session,
      p.output.Undisturbed s.disk ((q.generate tools).run s).2.disk := fun s =>
    OutputDirectory.undisturbed_of_apart second.present apart (own'.edits _) (own'.turns s)
  have undisturbed' : ∀ s : Session,
      q.output.Undisturbed s.disk ((p.generate tools).run s).2.disk := fun s =>
    OutputDirectory.undisturbed_of_apart first.present apart.symm (own.edits _) (own.turns s)
  have same := own.same s ((q.generate tools).run s).2 (undisturbed s)
  have same' := own'.same s ((p.generate tools).run s).2 (undisturbed' s)
  refine ⟨same.symm, same', ?_, fun r r' answered answered' t alike => ⟨?_, ?_⟩⟩
  · have later := own'.turns ((p.generate tools).run s).2
    have later' := own.turns ((q.generate tools).run s).2
    rw [same'] at later
    rw [same] at later'
    have agree := OutputDirectory.agree_of_apart first.present second.present apart
      (own.edits ((p.generate tools).run s).1) (own'.edits ((q.generate tools).run s).1)
    exact Edit.alike_of_agree agree (own.turns s) later (own'.turns s) later'
  · exact own.clean s r answered t
      ((undisturbed _).trans (OutputDirectory.Undisturbed.of_alike alike))
  · exact own'.clean _ r' answered' t (OutputDirectory.Undisturbed.of_alike alike)

def shared : Disk :=
  [("gen/a/old.rs", "x"), ("gen/b.rs", "edited")].foldl
    (fun d item => d.store (Path.ofString item.1) (.file item.2.toUTF8)) Disk.empty

theorem ordinary_sample (name : String) (level : Path.upward ∉ (sample name).output.path.names)
    (present : (sample name).output.path.names ≠ [])
    (ordinary : ¬ Identifier.rawMark <+: (sample name).output.path.name) :
    (sample name).Ordinary :=
  ⟨⟨sampleUnits, none, rfl⟩, level, present, ordinary⟩

theorem exists_answer_of_sample (name : String) (ordinary : (sample name).Ordinary)
    (made : ((sample name).tree sampleUnits).isOk = true)
    (free : (sample name).output.conflict? s.disk (sampleFiles name) = none) :
    ∃ report, (((sample name).generate bareTools).run s).1 = .ok report := by
  have always : ∀ s, ((sample name).build bareTools).run s =
      (.ok (sampleFiles name), { s with commands := s.commands ++ [] }) := by
    intro s
    rw [build_sample name made, List.append_nil]
  have fits := (fits_of_build ordinary (always s)).1
  rw [generate_run_of_plain always fits ordinary.plain,
    OutputDirectory.diff_eq_ok_iff.2 ⟨free, rfl⟩]
  exact ⟨_, rfl⟩

theorem generateBoth_comm_shared : ∃ r r',
    (sample "gen/a").Ordinary ∧ (sample "gen/b").Ordinary ∧
    (sample "gen/a").output.Apart (sample "gen/b").output ∧
    (generateBoth bareTools (sample "gen/a") (sample "gen/b") ⟨shared, []⟩).1 = .ok r ∧
    (generateBoth bareTools (sample "gen/a") (sample "gen/b") ⟨shared, []⟩).2.1 = .ok r' ∧
    (generateBoth bareTools (sample "gen/b") (sample "gen/a") ⟨shared, []⟩).1 = .ok r' ∧
    (generateBoth bareTools (sample "gen/b") (sample "gen/a") ⟨shared, []⟩).2.1 = .ok r ∧
    Alike (generateBoth bareTools (sample "gen/a") (sample "gen/b") ⟨shared, []⟩).2.2
      (generateBoth bareTools (sample "gen/b") (sample "gen/a") ⟨shared, []⟩).2.2 ∧
    ∀ t : Session,
      Alike (generateBoth bareTools (sample "gen/a") (sample "gen/b") ⟨shared, []⟩).2.2 t.disk →
        (((sample "gen/a").validate bareTools).run t).1 = .ok {} ∧
        (((sample "gen/b").validate bareTools).run t).1 = .ok {} := by
  have first := ordinary_sample "gen/a" (by decide +kernel) (by decide +kernel) (by decide +kernel)
  have second := ordinary_sample "gen/b" (by decide +kernel) (by decide +kernel) (by decide +kernel)
  have apart : (sample "gen/a").output.Apart (sample "gen/b").output :=
    OutputDirectory.apart_of_tops (by decide +kernel)
  obtain ⟨r, answered⟩ := exists_answer_of_sample (s := ⟨shared, []⟩) "gen/a" first
    (by decide +kernel) (by decide +kernel)
  obtain ⟨r', answered'⟩ := exists_answer_of_sample (s := ⟨shared, []⟩) "gen/b" second
    (by decide +kernel) (by decide +kernel)
  obtain ⟨same, same', alike, clean⟩ :=
    @generateBoth_comm bareTools _ _ first second apart ⟨shared, []⟩
  have own := same'.trans answered'
  exact ⟨r, r', first, second, apart, answered, own, answered', same.symm.trans answered, alike,
    clean r r' answered own⟩

end ProtoModules.Pipeline
