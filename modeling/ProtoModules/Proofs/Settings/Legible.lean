import ProtoModules.Proofs.Settings.Fields
import ProtoModules.Settings.Load

/-! Settings that can be read. What stands in a file may be wrong in two ways: its data may fail the check
of the settings, which is reported with the file and the field; or there may be no data to
check, and then whatever refused it ends the run. -/

namespace ProtoModules
open Data Disk

/-- Failures that the commands report in their own words: wrong settings and wrong options. -/
def Failure.IsReported : Failure → Prop
  | .error (.configuration ..) => True
  | .badParameter _ => True
  | _ => False

def Answered {α : Type} : Except Failure α → Prop
  | .ok _ => True
  | .error f => f.IsReported

section

variable {α β : Type} {c : Except Failure α}

theorem answered_iff :
    Answered c ↔ (∃ x, c = .ok x) ∨ ∃ f, c = .error f ∧ f.IsReported := by
  cases c <;> simp [Answered]

theorem answered_bind_iff {next : α → Except Failure β}
    (unreported : ∀ f, c = .error f → ¬ f.IsReported) :
    Answered (c >>= next) ↔ ∃ x, c = .ok x ∧ Answered (next x) := by
  cases c with
  | ok x => simp [bind, Except.bind]
  | error f => simpa [bind, Except.bind, Answered] using unreported f rfl

theorem not_isReported_of_refusal {format : DataFormat} {refusal : Refusal} :
    ¬ (Failure.ofRefusal format refusal).IsReported := by
  cases refusal <;> simp [Failure.ofRefusal, Failure.IsReported]

theorem not_isReported_of_mapError {ε : Type} {c : Except ε α} {g : ε → Failure} {f : Failure}
    (each : ∀ e, ¬ (g e).IsReported) (failed : c.mapError g = .error f) : ¬ f.IsReported := by
  cases c with
  | ok x => cases failed
  | error e =>
    cases failed
    exact each e

end

namespace Settings

/-- The fields that data gives: none if it counts as nothing given, those of a table if all of them
have names. -/
inductive GivesFields : Value → List (Value × Value) → Prop
  | nothing {v : Value} (void : v.isVoid) : GivesFields v []
  | table {fields : List (Value × Value)} (named : ∀ item ∈ fields, item.1.key?.isSome) :
    GivesFields (.table fields) fields

variable {d : Disk} {env : Environment} {file : String} {v : Value} {fields : List (Value × Value)}

theorem ofFields_of_readable (readable : env.Readable (readingOf fields)) :
    (∃ made, Settings.ofFields env fields = .ok made) ∨
      ∃ field, Settings.ofFields env fields = .error (.invalidSetting field) := by
  rw [ofFields, Environment.fields_of_readable readable]
  change (∃ made, Except.mapError _ (Check.settings _) = _) ∨ ∃ field, Except.mapError _ _ = _
  cases Check.settings _ with
  | ok made => exact .inl ⟨made, rfl⟩
  | error path => exact .inr ⟨_, rfl⟩

theorem ofFields_of_not_readable (unreadable : ¬ env.Readable (readingOf fields)) :
    Settings.ofFields env fields = .error .tooDeep ∨
      ∃ name, Settings.ofFields env fields = .error (.badVariable name) := by
  rw [ofFields]
  cases read : env.fields (readingOf fields) with
  | ok given => exact absurd (Environment.readable_of_fields read) unreadable
  | error f =>
    obtain rfl | ⟨name, rfl⟩ := Environment.failure_of_fields read
    · exact .inl rfl
    · exact .inr ⟨name, rfl⟩

theorem ofData_of_givesFields {source : String} (gives : GivesFields v fields) :
    ofData env source v =
      match Settings.ofFields env fields with
      | .error (.invalidSetting field) =>
        .error (.error (.configuration .invalid (some source) (some field)))
      | result => result := by
  unfold ofData
  cases gives with
  | nothing void =>
    rw [if_pos void]
    rfl
  | table named =>
    by_cases void : (Value.table fields).isVoid
    · obtain rfl : fields = [] := List.isEmpty_iff.1 void
      rw [if_pos void]
      rfl
    · rw [if_neg void]
      dsimp only
      rw [if_pos (by simpa using named)]
      rfl

theorem ofData_of_not_givesFields {source : String} (gives : ∀ fields, ¬ GivesFields v fields) :
    ofData env source v = .error .noTable := by
  have solid : ¬ v.isVoid := fun void => gives [] (.nothing void)
  unfold ofData
  rw [if_neg solid]
  cases v with
  | table fields =>
    have unnamed : ¬ (fields.all fun item => item.1.key?.isSome) = true := fun all =>
      gives fields (.table (by simpa using all))
    dsimp only
    rw [if_neg unnamed]
    rfl
  | _ => rfl

theorem answered_ofData_iff {source : String} :
    Answered (ofData env source v) ↔
      ∃ fields, GivesFields v fields ∧ env.Readable (readingOf fields) := by
  constructor
  · intro answered
    by_cases gives : ∃ fields, GivesFields v fields
    · obtain ⟨fields, gives⟩ := gives
      refine ⟨fields, gives, ?_⟩
      by_cases readable : env.Readable (readingOf fields)
      · exact readable
      · rw [ofData_of_givesFields gives] at answered
        obtain stopped | ⟨name, stopped⟩ := ofFields_of_not_readable readable <;>
          rw [stopped] at answered <;> exact answered.elim
    · rw [ofData_of_not_givesFields (not_exists.1 gives)] at answered
      exact answered.elim
  · rintro ⟨fields, gives, readable⟩
    rw [ofData_of_givesFields gives]
    obtain ⟨made, checked⟩ | ⟨field, refused⟩ := ofFields_of_readable readable
    · rw [checked]
      trivial
    · rw [refused]
      trivial

def HoldsText (d : Disk) (file : String) (text : List Char) : Prop :=
  ∃ content decoded, d.read (Path.ofString file) = .ok content ∧
    Text.decode content = .ok decoded ∧ Text.unifyBreaks decoded.toList = text

/-- Where settings are taken from: a settings file or the project file. -/
inductive Source where
  | file (name : String)
  | project

/-- What a source holds that can be read in its format. A project file may hold nothing for this
program. -/
inductive Source.Holds (d : Disk) : Source → Option Value → Prop
  | json {name : String} {text : List Char} {v : Value}
    (ending : ".json".toList <:+ name.toList) (written : HoldsText d name text)
    (read : Json.read (String.ofList text) = .ok v) : Holds d (.file name) (some v)
  | yaml {name : String} {text : List Char} {v : Value}
    (ending : ¬ ".json".toList <:+ name.toList) (written : HoldsText d name text)
    (read : Yaml.read reach text = .ok v) : Holds d (.file name) (some v)
  | project {text : List Char} {project : Value} {own : Option Value}
    (written : HoldsText d projectFile text) (read : Toml.read text = .ok project)
    (part : ownSection? project = .ok own) : Holds d .project own

/-- The source for a name that may be given. Without one the first settings file counts that is there,
and the project file is the last resort. -/
inductive TakesFrom (d : Disk) : Option String → Source → Prop
  | named {name : String} (given : name ≠ "") (there : d.hasEntry (Path.ofString name)) :
    TakesFrom d (some name) (.file name)
  | found {file : Option String} {name : String} (unnamed : file.getD "" = "")
    (first : (fileNames.find? fun name => d.hasEntry (Path.ofString name)) = some name) :
    TakesFrom d file (.file name)
  | project {file : Option String} (unnamed : file.getD "" = "")
    (none : ∀ name ∈ fileNames, ¬ d.hasEntry (Path.ofString name))
    (there : d.hasEntry (Path.ofString projectFile)) : TakesFrom d file .project

/-- Whatever settings are taken from can be read, and so can the lists and tables that the environment
adds to them. -/
def Legible (s : Surroundings) (file : Option String) : Prop :=
  ∀ source, TakesFrom s.disk file source → ∃ own, source.Holds s.disk own ∧
    ∀ v ∈ own, ∃ fields, GivesFields v fields ∧ s.environment.Readable (readingOf fields)

theorem readText_eq_ok_iff {text : List Char} :
    Tool.readText d (Path.ofString file) = .ok text ↔ HoldsText d file text := by
  simp only [Tool.readText, bind_eq_ok_iff, mapError_eq_ok_iff, HoldsText]
  constructor
  · rintro ⟨content, read, decoded, decode, same⟩
    exact ⟨content, decoded, read, decode, Except.ok.inj same⟩
  · rintro ⟨content, decoded, read, decode, rfl⟩
    exact ⟨content, read, decoded, decode, rfl⟩

theorem not_isReported_of_readText {path : Path} {f : Failure}
    (failed : Tool.readText d path = .error f) : ¬ f.IsReported := by
  rw [Tool.readText] at failed
  obtain read | ⟨content, -, failed⟩ := bind_eq_error_iff.1 failed
  · exact not_isReported_of_mapError (fun _ => id) read
  · obtain decode | ⟨decoded, -, failed⟩ := bind_eq_error_iff.1 failed
    · exact not_isReported_of_mapError (fun _ => id) decode
    · cases failed

theorem not_isReported_of_readData {f : Failure} (failed : readData d file = .error f) :
    ¬ f.IsReported := by
  rw [readData] at failed
  obtain read | ⟨text, -, failed⟩ := bind_eq_error_iff.1 failed
  · exact not_isReported_of_readText read
  · split at failed <;>
      exact not_isReported_of_mapError (fun _ => not_isReported_of_refusal) failed

theorem holds_file_iff {own : Option Value} :
    (Source.file file).Holds d own ↔ ∃ v, readData d file = .ok v ∧ own = some v := by
  simp only [readData, bind_eq_ok_iff, readText_eq_ok_iff]
  constructor
  · rintro (⟨ending, written, read⟩ | ⟨ending, written, read⟩)
    · refine ⟨_, ⟨_, written, ?_⟩, rfl⟩
      rw [if_pos (by simpa using ending), read]
      rfl
    · refine ⟨_, ⟨_, written, ?_⟩, rfl⟩
      rw [if_neg (by simpa using ending), read]
      rfl
  · rintro ⟨v, ⟨text, written, read⟩, rfl⟩
    by_cases ending : ".json".toList <:+ file.toList
    · rw [if_pos (by simpa using ending), mapError_eq_ok_iff] at read
      exact .json ending written read
    · rw [if_neg (by simpa using ending), mapError_eq_ok_iff] at read
      exact .yaml ending written read

theorem answered_file_iff {source : String} :
    Answered (readData d file >>= ofData env source) ↔
      ∃ own, (Source.file file).Holds d own ∧
        ∀ v ∈ own, ∃ fields, GivesFields v fields ∧ env.Readable (readingOf fields) := by
  simp only [answered_bind_iff fun _ => not_isReported_of_readData, answered_ofData_iff,
    holds_file_iff]
  constructor
  · rintro ⟨v, read, gives⟩
    exact ⟨some v, ⟨v, read, rfl⟩, by simpa using gives⟩
  · rintro ⟨own, ⟨v, read, rfl⟩, gives⟩
    exact ⟨v, read, by simpa using gives⟩

theorem not_isReported_of_ownSection? {project : Value} {f : Failure}
    (failed : ownSection? project = .error f) : ¬ f.IsReported := by
  have table : f = .noTable := by
    simp only [ownSection?] at failed
    split at failed
    · cases failed
    · split at failed <;> simp_all
    · split at failed <;> simp_all
    · exact (Except.error.inj failed).symm
  rw [table]
  exact id

theorem holds_project_iff {own : Option Value} :
    Source.project.Holds d own ↔
      ∃ text, Tool.readText d (Path.ofString projectFile) = .ok text ∧
        ∃ project, (Toml.read text).mapError (Failure.ofRefusal .toml) = .ok project ∧
          ownSection? project = .ok own := by
  simp only [readText_eq_ok_iff, mapError_eq_ok_iff]
  constructor
  · intro holds
    cases holds with
    | project written read part => exact ⟨_, written, _, read, part⟩
  · rintro ⟨text, written, project, read, part⟩
    exact .project written read part

def orNothing (found : Option Settings) : Except Failure Settings :=
  match found with
  | some settings => .ok settings
  | none => .error (.error (.configuration .nothingFound none none))

theorem ofProject?_of_missing {s : Surroundings}
    (missing : ¬ s.disk.hasEntry (Path.ofString projectFile)) : ofProject? s = .ok none := by
  rw [ofProject?, if_pos (by simpa using missing)]
  rfl

theorem answered_project_iff {s : Surroundings}
    (there : s.disk.hasEntry (Path.ofString projectFile)) :
    Answered (ofProject? s >>= orNothing) ↔
      ∃ own, Source.project.Holds s.disk own ∧
        ∀ v ∈ own, ∃ fields, GivesFields v fields ∧ s.environment.Readable (readingOf fields) := by
  have steps : ofProject? s >>= orNothing =
      Tool.readText s.disk (Path.ofString projectFile) >>= fun text =>
        (Toml.read text).mapError (Failure.ofRefusal .toml) >>= fun project =>
          ownSection? project >>= fun own => own.elim (orNothing none)
            (ofData s.environment (s.home ++ "/" ++ projectFile)) := by
    rw [ofProject?, if_neg (by simpa using there)]
    simp only [bind_assoc]
    refine bind_congr fun text => bind_congr fun project => bind_congr fun own => ?_
    cases own with
    | none => rfl
    | some v =>
      dsimp only [Option.elim]
      cases ofData s.environment (s.home ++ "/" ++ projectFile) v <;> rfl
  -- no step on the way to the section is reported
  have refused : ∀ text f, (Toml.read text).mapError (Failure.ofRefusal .toml) = .error f →
      ¬ f.IsReported := fun text f =>
    not_isReported_of_mapError fun _ => not_isReported_of_refusal
  have part : ∀ own : Option Value, Answered (own.elim (orNothing none)
      (ofData s.environment (s.home ++ "/" ++ projectFile))) ↔
      ∀ v ∈ own, ∃ fields, GivesFields v fields ∧ s.environment.Readable (readingOf fields) := by
    intro own
    cases own with
    | none => simp [orNothing, Answered, Failure.IsReported]
    | some v => simp [answered_ofData_iff]
  rw [steps]
  simp only [answered_bind_iff fun _ => not_isReported_of_readText, answered_bind_iff (refused _),
    answered_bind_iff fun _ => not_isReported_of_ownSection?, holds_project_iff, part]
  constructor
  · rintro ⟨text, written, project, read, own, found, gives⟩
    exact ⟨own, ⟨text, written, project, read, found⟩, gives⟩
  · rintro ⟨own, ⟨text, written, project, read, found⟩, gives⟩
    exact ⟨text, written, project, read, own, found, gives⟩

theorem legible_of_only {s : Surroundings} {file : Option String} {source : Source}
    (takes : TakesFrom s.disk file source)
    (only : ∀ other, TakesFrom s.disk file other → other = source) :
    Legible s file ↔ ∃ own, source.Holds s.disk own ∧
      ∀ v ∈ own, ∃ fields, GivesFields v fields ∧ s.environment.Readable (readingOf fields) :=
  ⟨fun legible => legible source takes, fun holds other takes => only other takes ▸ holds⟩

theorem filter_named {name : String} (given : name ≠ "") :
    (some name).filter (fun name => !name.isEmpty) = some name := by
  simp [Option.filter, given]

theorem load_of_named {s : Surroundings} {name : String} (given : name ≠ "")
    (there : s.disk.hasEntry (Path.ofString name)) :
    load s (some name) = readData s.disk name >>= ofData s.environment name := by
  rw [load, filter_named given]
  dsimp only
  rw [there]
  rfl

theorem answered_load_of_named {s : Surroundings} {name : String} (given : name ≠ "") :
    Answered (load s (some name)) ↔ Legible s (some name) := by
  by_cases there : s.disk.hasEntry (Path.ofString name)
  · rw [load_of_named given there, legible_of_only (.named given there)]
    · exact answered_file_iff
    · intro other takes
      cases takes with
      | named => rfl
      | found unnamed => exact absurd unnamed given
      | project unnamed => exact absurd unnamed given
  · rw [load, filter_named given]
    dsimp only
    rw [if_pos (by simpa using there)]
    refine iff_of_true trivial fun source takes => ?_
    cases takes with
    | named _ found => exact absurd found there
    | found unnamed => exact absurd unnamed given
    | project unnamed => exact absurd unnamed given

theorem answered_load_of_unnamed {s : Surroundings} {file : Option String}
    (unnamed : file.getD "" = "") : Answered (load s file) ↔ Legible s file := by
  have none : file.filter (fun name => !name.isEmpty) = none := by
    cases file with
    | none => rfl
    | some name => simpa [Option.filter] using unnamed
  rw [load, none]
  dsimp only
  cases first : fileNames.find? fun name => s.disk.hasEntry (Path.ofString name) with
  | some name =>
    rw [legible_of_only (.found unnamed first)]
    · exact answered_file_iff
    · intro other takes
      cases takes with
      | named given => exact absurd unnamed given
      | found _ same => rw [Option.some.inj (first.symm.trans same)]
      | project _ missing =>
        exact absurd (List.find?_some first) (missing name (List.mem_of_find?_eq_some first))
  | none =>
    have missing : ∀ name ∈ fileNames, ¬ s.disk.hasEntry (Path.ofString name) :=
      List.find?_eq_none.1 first
    by_cases there : s.disk.hasEntry (Path.ofString projectFile)
    · rw [legible_of_only (.project unnamed missing there)]
      · exact answered_project_iff there
      · intro other takes
        cases takes with
        | named given => exact absurd unnamed given
        | found _ same => cases first.symm.trans same
        | project => rfl
    · rw [ofProject?_of_missing there]
      refine iff_of_true trivial fun source takes => ?_
      cases takes with
      | named given => exact absurd unnamed given
      | found _ same => cases first.symm.trans same
      | project _ _ found => exact absurd found there

theorem answered_load_iff {s : Surroundings} {file : Option String} :
    Answered (load s file) ↔ Legible s file := by
  by_cases unnamed : file.getD "" = ""
  · exact answered_load_of_unnamed unnamed
  · cases file with
    | none => exact absurd rfl unnamed
    | some name => exact answered_load_of_named unnamed

def sampleName : Name := ['c', '.', 'j', 's', 'o', 'n']

def sampleDisk (text : String) : Disk :=
  Disk.empty.put [sampleName] (.file text.toUTF8) (by simp) (by simp) (by decide) (by decide)

theorem decode_toUTF8 (text : String) : Text.decode text.toUTF8 = .ok text := by
  have read : String.fromUTF8? text.toUTF8 = some text := dif_pos text.isValidUTF8
  rw [Text.decode, read]

theorem access_sampleDisk (text : String) :
    (sampleDisk text).access (Path.ofString "c.json") = .ok (.file text.toUTF8) := by
  have path : Path.ofString "c.json" = ⟨[], [sampleName]⟩ := by decide +kernel
  have level : sampleName ≠ Path.upward := by decide
  have there : (sampleDisk text).get? [sampleName] = some (.file text.toUTF8) := by
    rw [sampleDisk, get?_put, if_pos rfl]
  rw [path]
  simp [access, locate, follow, level, there, bind, Except.bind]

theorem readData_sampleDisk (text : String) :
    readData (sampleDisk text) "c.json" =
      (Json.read (String.ofList (Text.unifyBreaks text.toList))).mapError (.ofRefusal .json) := by
  have written : HoldsText (sampleDisk text) "c.json" (Text.unifyBreaks text.toList) :=
    ⟨text.toUTF8, text, by rw [Disk.read, access_sampleDisk], decode_toUTF8 text, rfl⟩
  rw [readData, readText_eq_ok_iff.2 written]
  rfl

end Settings

end ProtoModules
