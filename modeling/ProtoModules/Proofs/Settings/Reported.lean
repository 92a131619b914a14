import Mathlib.Data.List.TakeWhile
import ProtoModules.Proofs.Settings.Described
import ProtoModules.Proofs.Settings.Legible

/-! Which requests are answered: with settings, or with a failure that the commands report. Wrong
options, settings that are not found and settings of a file that fail the check are reported. A file that
cannot be read and an environment that cannot be read are not, and neither is what fails the check
of a request that describes its workspace. -/

namespace ProtoModules
open Data Data.Value Check Disk

variable {env : Environment}

namespace GeneratorOptions

variable {o : GeneratorOptions}

def Paired (o : GeneratorOptions) : Prop :=
  ∀ text ∈ o.typeAttributes ++ o.enumAttributes ++ o.clientAttributes ++ o.serverAttributes,
    ':' ∈ text.toList

theorem parse?_eq_none_iff {text : String} : Attribute.parse? text = none ↔ ':' ∉ text.toList := by
  have rest : (text.toList.dropWhile (· != ':')) = [] ↔ ':' ∉ text.toList := by
    rw [List.dropWhile_eq_nil_iff]
    constructor
    · intro each colon
      simpa using each ':' colon
    · intro missing c member
      have other : c ≠ ':' := fun same => missing (same ▸ member)
      simpa using other
  rw [← rest, Attribute.parse?]
  cases text.toList.dropWhile (· != ':') <;> simp

theorem parse_eq_error_iff {text : String} {f : Failure} :
    Attribute.parse text = .error f ↔
      ':' ∉ text.toList ∧ f = .badParameter (Attribute.noColon text) := by
  rw [Attribute.parse, ← parse?_eq_none_iff]
  cases Attribute.parse? text <;> simp [eq_comm]

theorem exists_mapM_parse_iff {texts : List String} :
    (∃ attributes, texts.mapM Attribute.parse = .ok attributes) ↔
      ∀ text ∈ texts, ':' ∈ text.toList := by
  constructor
  · rintro ⟨attributes, parsed⟩ text member
    obtain ⟨a, read⟩ := exists_of_mapM_eq_ok parsed text member
    by_cases paired : ':' ∈ text.toList
    · exact paired
    · cases read.symm.trans (parse_eq_error_iff.2 ⟨paired, rfl⟩)
  · intro paired
    cases parsed : texts.mapM Attribute.parse with
    | ok attributes => exact ⟨attributes, rfl⟩
    | error f =>
      obtain ⟨text, member, refused⟩ := exists_of_mapM_eq_error parsed
      exact absurd (paired text member) (parse_eq_error_iff.1 refused).1

theorem exists_resolve_iff : (∃ asked, o.resolve = .ok asked) ↔ o.Paired := by
  have parts : o.Paired ↔ ((∀ text ∈ o.typeAttributes, ':' ∈ text.toList) ∧
      ∀ text ∈ o.enumAttributes, ':' ∈ text.toList) ∧
      (∀ text ∈ o.clientAttributes, ':' ∈ text.toList) ∧
      ∀ text ∈ o.serverAttributes, ':' ∈ text.toList := by
    simp only [Paired, List.mem_append, or_imp, forall_and, and_assoc]
  simp only [parts, ← exists_mapM_parse_iff, resolve, bind_eq_ok_iff]
  constructor
  · rintro ⟨asked, types, first, enums, second, clients, third, servers, fourth, -⟩
    exact ⟨⟨⟨types, first⟩, enums, second⟩, ⟨clients, third⟩, servers, fourth⟩
  · rintro ⟨⟨⟨types, first⟩, enums, second⟩, ⟨clients, third⟩, servers, fourth⟩
    exact ⟨_, types, first, enums, second, clients, third, servers, fourth, rfl⟩

theorem badParameter_of_mapM {texts : List String} {f : Failure}
    (refused : texts.mapM Attribute.parse = .error f) : ∃ text, f = .badParameter text := by
  obtain ⟨text, -, wrong⟩ := exists_of_mapM_eq_error refused
  exact ⟨_, (parse_eq_error_iff.1 wrong).2⟩

theorem badParameter_of_resolve {f : Failure} (refused : o.resolve = .error f) :
    ∃ text, f = .badParameter text := by
  simp only [resolve, bind_eq_error_iff] at refused
  obtain first | ⟨_, -, second | ⟨_, -, third | ⟨_, -, fourth | ⟨_, -, last⟩⟩⟩⟩ := refused
  · exact badParameter_of_mapM first
  · exact badParameter_of_mapM second
  · exact badParameter_of_mapM third
  · exact badParameter_of_mapM fourth
  · cases last

end GeneratorOptions

namespace SharedOptions

variable {o : SharedOptions}

/-- What the environment says about a field, if it says something, passes the check of the field. -/
def Passes {α : Type} (check : Value → Check α) (v? : Option Value) : Prop :=
  ∀ v ∈ v?, ∃ x, check v = .ok x

/-- Each shared field that no option was set for may be what the environment says, and the number of
threads is not negative. -/
structure Accepted (o : SharedOptions) (env : Environment) : Prop where
  prependHeader : o.prependHeader = false → Passes flag (env.given? {} "prepend_header")
  disableComments : o.disableComments = [] → Passes (listOf text) (env.given? {} "disable_comments")
  format : o.format = false → Passes flag (env.given? {} "format")
  jobs : o.jobs.getD 0 = 0 → Passes positive (env.given? {} "jobs")
  given : ∀ n ∈ o.jobs, 0 ≤ n

theorem exists_gives_iff {α : Type} {check : Value → Check α} {default : α} {v? : Option Value} :
    (∃ x, Gives v? default check x) ↔ Passes check v? := by
  cases v? <;> simp [Gives, Passes]

theorem passes_flag_iff {b : Bool} {v? : Option Value} :
    Passes flag ((if b then some (.bool true) else none).or v?) ↔ (b = false → Passes flag v?) := by
  cases b <;> simp [Passes, flag]

theorem passes_textList_iff {texts : List String} {v? : Option Value} :
    Passes (listOf text) ((if texts = [] then none else some (textList texts)).or v?) ↔
      (texts = [] → Passes (listOf text) v?) := by
  by_cases unset : texts = []
  · simp [unset]
  · simp [unset, Passes, listOf_textList]

theorem passes_number_iff {n : Option Int} {v? : Option Value} :
    Passes positive (((n.filter (· != 0)).map .int).or v?) ↔
      (n.getD 0 = 0 → Passes positive v?) ∧ ∀ k ∈ n, 0 ≤ k := by
  cases n with
  | none => simp
  | some n =>
    by_cases zero : n = 0
    · subst zero
      simp [Option.filter]
    · have checked : positive (.int n) = if 1 ≤ n then .ok n else refused := rfl
      have least : 1 ≤ n ↔ 0 ≤ n := by omega
      by_cases enough : 0 ≤ n <;> simp [Option.filter, Passes, checked, zero, least, enough, refused]

theorem passes_texts {α : Type} {check : Value → Check α} {name : String} {t : Option String}
    (plain : name ∉ Environment.structured) (passes : ∀ s, ∃ x, check (.text s) = .ok x) :
    Passes check ((t.map .text).or (env.given? {} name)) := by
  rw [Environment.given?_of_unstructured plain, ← Option.map_or]
  intro v member
  obtain ⟨s, -, rfl⟩ := Option.map_eq_some_iff.1 member
  exact passes s

theorem exists_makes_iff : (∃ made, o.Makes env made) ↔ o.Accepted env := by
  constructor
  · rintro ⟨made, makes⟩
    have prependHeader := exists_gives_iff.1 ⟨_, makes.prependHeader⟩
    have disableComments := exists_gives_iff.1 ⟨_, makes.disableComments⟩
    have format := exists_gives_iff.1 ⟨_, makes.format⟩
    have jobs := exists_gives_iff.1 ⟨_, makes.jobs⟩
    rw [value?, lookup_prependHeader, passes_flag_iff] at prependHeader
    rw [value?, lookup_disableComments, passes_textList_iff] at disableComments
    rw [value?, lookup_format, passes_flag_iff] at format
    rw [value?, lookup_jobs, passes_number_iff] at jobs
    exact ⟨prependHeader, disableComments, format, jobs.1, jobs.2⟩
  · intro accepted
    obtain ⟨header, prependHeader⟩ : ∃ x, Gives (o.value? env "prepend_header") false flag x := by
      rw [exists_gives_iff, value?, lookup_prependHeader, passes_flag_iff]
      exact accepted.prependHeader
    obtain ⟨line, toplevelAttribute⟩ :
        ∃ x, Gives (o.value? env "toplevel_attribute") none Check.optionalText x := by
      rw [exists_gives_iff, value?, lookup_toplevelAttribute]
      exact passes_texts (by decide) fun s => ⟨some s, rfl⟩
    obtain ⟨disabled, disableComments⟩ :
        ∃ x, Gives (o.value? env "disable_comments") [] (listOf text) x := by
      rw [exists_gives_iff, value?, lookup_disableComments, passes_textList_iff]
      exact accepted.disableComments
    obtain ⟨formatted, format⟩ : ∃ x, Gives (o.value? env "format") false flag x := by
      rw [exists_gives_iff, value?, lookup_format, passes_flag_iff]
      exact accepted.format
    obtain ⟨year, edition⟩ : ∃ x, Gives (o.value? env "edition") "2021" text x := by
      rw [exists_gives_iff, value?, lookup_edition]
      exact passes_texts (by decide) fun s => ⟨s, rfl⟩
    obtain ⟨threads, jobs⟩ : ∃ x, Gives (o.value? env "jobs") 1 positive x := by
      rw [exists_gives_iff, value?, lookup_jobs, passes_number_iff]
      exact ⟨accepted.jobs, accepted.given⟩
    exact ⟨⟨[], {}, header, line, disabled, formatted, year, threads⟩, prependHeader,
      toplevelAttribute, disableComments, format, edition, jobs⟩

end SharedOptions

namespace Request

variable {r : Request} {s : Surroundings}

theorem answered_inline_iff {outputDir : String} {g : GeneratorSettings}
    (filled : r.protoFiles ≠ []) :
    Answered (r.inline env outputDir g) ↔ env.Readable {} ∧ r.shared.Accepted env := by
  have unreported : ∀ f, r.inline env outputDir g = .error f → ¬ f.IsReported := by
    intro f failed
    rw [inline] at failed
    obtain read | ⟨given, -, failed⟩ := bind_eq_error_iff.1 failed
    · obtain rfl | ⟨name, rfl⟩ := Environment.failure_of_fields read <;> exact id
    · exact not_isReported_of_mapError (fun _ => id) failed
  have ok : Answered (r.inline env outputDir g) ↔ ∃ made, r.inline env outputDir g = .ok made := by
    rw [answered_iff, or_iff_left]
    rintro ⟨f, failed, reported⟩
    exact unreported f failed reported
  rw [ok, ← SharedOptions.exists_makes_iff]
  simp only [inline_eq_ok_iff filled]
  constructor
  · rintro ⟨made, readable, -, -, makes⟩
    exact ⟨readable, made, makes⟩
  · rintro ⟨readable, made, makes⟩
    exact ⟨_, readable, rfl, rfl, makes.others [r.workspace outputDir] g⟩

theorem answered_settings_of_file {asked : GeneratorSettings}
    (resolved : r.generator.resolve = .ok asked) (given : r.outputDir = none)
    (files : r.protoFiles = []) : Answered (r.settings s) ↔ Answered (Settings.load s r.file) := by
  have ran : r.settings s = Settings.load s r.file >>= fun base =>
      .ok (r.shared.applyTo { base with generator := base.generator.overlay asked }) := by
    rw [settings, resolved, given, files]
    rfl
  rw [ran]
  cases Settings.load s r.file <;> rfl

/-- A request is answered unless its settings are to come from a source that cannot be read, or it
describes its workspace and the environment or the number of threads is wrong. -/
theorem settings_answered_iff (r : Request) (s : Surroundings) :
    ((∃ made, r.settings s = .ok made) ∨ ∃ f, r.settings s = .error f ∧ f.IsReported) ↔
      (r.generator.Paired →
        (r.outputDir = none → r.protoFiles = [] → Settings.Legible s r.file) ∧
        (r.outputDir ≠ none → r.protoFiles ≠ [] →
          s.environment.Readable {} ∧ r.shared.Accepted s.environment)) := by
  rw [← answered_iff]
  -- the attributes are taken apart before the request is looked at, so they decide first
  cases resolved : r.generator.resolve with
  | error f =>
    obtain ⟨text, rfl⟩ := GeneratorOptions.badParameter_of_resolve resolved
    have unpaired : ¬ r.generator.Paired := fun paired => by
      obtain ⟨asked, found⟩ := GeneratorOptions.exists_resolve_iff.2 paired
      cases resolved.symm.trans found
    rw [settings, resolved]
    simp [unpaired, Answered, Failure.IsReported, bind, Except.bind]
  | ok asked =>
    have paired := GeneratorOptions.exists_resolve_iff.1 ⟨asked, resolved⟩
    cases given : r.outputDir with
    | none =>
      cases files : r.protoFiles with
      | nil =>
        simp [answered_settings_of_file resolved given files, paired, Settings.answered_load_iff]
      | cons first rest =>
        rw [settings, resolved, given, files]
        simp [Answered, Failure.IsReported, bind, Except.bind]
    | some outputDir =>
      cases files : r.protoFiles with
      | nil =>
        rw [settings, resolved, given, files]
        simp [Answered, Failure.IsReported, bind, Except.bind]
      | cons first rest =>
        have ran : r.settings s = r.inline s.environment outputDir asked := by
          rw [settings, resolved, given, files]
          rfl
        have filled : r.protoFiles ≠ [] := by simp [files]
        simp [ran, paired, answered_inline_iff filled]

theorem not_settings_answered :
    ¬ ∀ (r : Request) (s : Surroundings),
      (∃ made, r.settings s = .ok made) ∨ ∃ f, r.settings s = .error f ∧ f.IsReported := by
  intro answered
  let s : Surroundings := ⟨Settings.sampleDisk "\x7b", [], "/"⟩
  have broken : Json.read "\x7b" = .error .malformed := by
    rw [Json.read]
    simp [Json.deepest, Json.value, Json.fields, Json.skipBlanks, bind, Except.bind]
  have loaded : Answered (Settings.load s (some "c.json")) :=
    (answered_settings_of_file (r := { file := some "c.json" }) rfl rfl rfl).1
      (answered_iff.2 (answered _ s))
  have there : s.disk.hasEntry (Path.ofString "c.json") := by
    rw [hasEntry, Settings.access_sampleDisk]
  obtain ⟨own, holds, -⟩ := Settings.answered_load_iff.1 loaded (.file "c.json")
    (.named (by decide) there)
  obtain ⟨v, read, -⟩ := Settings.holds_file_iff.1 holds
  rw [Settings.readData_sampleDisk] at read
  simp [Text.unifyBreaks, broken, Except.mapError] at read

end Request

end ProtoModules
