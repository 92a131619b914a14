import ProtoModules.Proofs.Settings.Described
import ProtoModules.Proofs.Settings.Legible

/-! The two routes to the settings of one workspace: the request describes it, or a settings file holds
it. Both put the options that were set over the environment. What the environment says about the
generator stands only in the settings that a file leads to. -/

namespace ProtoModules
open Data Data.Value Check Disk

variable {env : Environment} {made base : Settings}

theorem not_table_of_listOf {α : Type} {check : Value → Check α} {v : Value} {xs : List α}
    (listed : listOf check v = .ok xs) (fields : List (Value × Value)) : v ≠ .table fields := by
  rintro rfl
  cases listed

theorem canonicalFields_workspaces (v : Value) :
    canonicalFields [(.text "workspaces", v)] = fieldsOf [("workspaces", v)] := by
  have named : Environment.canonicalName settingNames "workspaces" = "workspaces" := by
    decide +kernel
  simp [canonicalFields, named, lookup, fieldsOf]

namespace Settings

variable {v : Value}

theorem ofFields_workspaces (v : Value) :
    Settings.ofFields env (fieldsOf [("workspaces", v)]) =
      env.fields {} >>= fun below =>
        Settings.checked (Value.joinFields below (fieldsOf [("workspaces", v)])) := by
  have steered : isSteering (.text "workspaces") = false := by decide +kernel
  have reading : readingOf (fieldsOf [("workspaces", v)]) = {} := by
    simp [readingOf, fieldsOf, lookup, key?]
  rw [ofFields, reading]
  simp [fieldsOf, steered, canonicalFields_workspaces]

section

variable (plain : ∀ fields, v ≠ .table fields)

include plain

theorem lookup_joinFields_workspaces (env : Environment) (name : String) :
    lookup name (Value.joinFields (fieldsOf (env.pairs {})) (fieldsOf [("workspaces", v)])) =
      if name = "workspaces" then some v
      else if name ∈ settingNames then env.given? {} name else none := by
  rw [Value.lookup_joinFields_of_plain (by simp), Environment.lookup_pairs]
  · by_cases same : name = "workspaces"
    · simp [same]
    · have other : (name == "workspaces") = false := by simpa using same
      simp [same, other, List.lookup_cons]
  · intro u above
    have same : u = v := by
      rw [List.lookup_cons, List.lookup_nil] at above
      split at above <;> simp_all
    exact .inr (same ▸ plain)

theorem ofFields_workspaces_eq_ok_iff :
    Settings.ofFields env (fieldsOf [("workspaces", v)]) = .ok base ↔
      env.Readable {} ∧ listOf workspace v = .ok base.workspaces ∧
        Gives (env.given? {} "generator") {} Check.generator base.generator ∧
        ({} : SharedOptions).Makes env base := by
  rw [ofFields_workspaces]
  cases read : env.fields {} with
  | error f =>
    have unread : ¬ env.Readable {} := fun readable => by
      cases read.symm.trans (Environment.fields_of_readable readable)
    simp [unread, bind, Except.bind]
  | ok below =>
    obtain ⟨readable, rfl⟩ := Environment.fields_eq_ok_iff.1 read
    change Settings.checked _ = _ ↔ _
    have joined := lookup_joinFields_workspaces plain env
    have known : ∀ name, (lookup name (Value.joinFields (fieldsOf (env.pairs {}))
        (fieldsOf [("workspaces", v)]))).isSome → name ∈ settingNames := by
      intro name there
      rw [joined] at there
      by_cases known : name ∈ settingNames
      · exact known
      · by_cases same : name = "workspaces" <;> simp_all [settingNames]
    have shared : ∀ name ∈ sharedNames, lookup name (Value.joinFields (fieldsOf (env.pairs {}))
        (fieldsOf [("workspaces", v)])) = ({} : SharedOptions).value? env name := by
      intro name shared
      rw [joined, if_neg (ne_of_shared name shared).1,
        if_pos (mem_settingNames_of_shared name shared)]
      rfl
    rw [checked_eq_ok_iff, says_iff known shared, joined, joined]
    simp [readable, settingNames]

end

theorem ofData_eq_ok_iff {source : String} :
    ofData env source (.ofFields [("workspaces", v)]) = .ok base ↔
      Settings.ofFields env (fieldsOf [("workspaces", v)]) = .ok base := by
  have gives : GivesFields (.ofFields [("workspaces", v)]) (fieldsOf [("workspaces", v)]) :=
    .table (by simp [key?])
  rw [ofData_of_givesFields gives]
  split <;> simp_all

def HoldsOnly (d : Disk) (file : String) (w : Workspace) : Prop :=
  ∃ v, readData d file = .ok (.ofFields [("workspaces", v)]) ∧ listOf workspace v = .ok [w]

theorem exists_read_of_readData {d : Disk} {file : String} (read : readData d file = .ok v) :
    ∃ content, d.access (Path.ofString file) = .ok (.file content) := by
  rw [readData, Tool.readText, Disk.read] at read
  cases there : d.access (Path.ofString file) with
  | error fault =>
    rw [there] at read
    cases read
  | ok e =>
    cases e with
    | directory =>
      rw [there] at read
      cases read
    | file content => exact ⟨content, rfl⟩

theorem load_of_readData {s : Surroundings} {file : String} (read : readData s.disk file = .ok v) :
    load s (some file) = ofData s.environment file v := by
  obtain ⟨content, there⟩ := exists_read_of_readData read
  have named : file ≠ "" := by
    rintro rfl
    have top : Path.ofString "" = ⟨[], []⟩ := by decide +kernel
    rw [top] at there
    simp [access, locate, follow, bind, Except.bind] at there
  have found : s.disk.hasEntry (Path.ofString file) = true := by rw [hasEntry, there]
  rw [load_of_named named found, read]
  rfl

theorem load_eq_ok_iff {s : Surroundings} {file : String} {w : Workspace}
    (held : HoldsOnly s.disk file w) :
    load s (some file) = .ok base ↔
      s.environment.Readable {} ∧ base.workspaces = [w] ∧
        Gives (s.environment.given? {} "generator") {} Check.generator base.generator ∧
        ({} : SharedOptions).Makes s.environment base := by
  obtain ⟨v, read, listed⟩ := held
  rw [load_of_readData read, ofData_eq_ok_iff,
    ofFields_workspaces_eq_ok_iff (not_table_of_listOf listed), listed]
  simp [eq_comm]

end Settings

namespace GeneratorSettings

/-- Nothing shows of these settings once the others are put over them. -/
structure Hidden (below above : GeneratorSettings) : Prop where
  protoc : below.protoc = above.protoc
  plugin : below.plugin = above.plugin
  servicePlugin : below.servicePlugin = above.servicePlugin
  buildClient : below.buildClient → above.buildClient
  buildServer : below.buildServer → above.buildServer
  generateTransport : below.generateTransport → above.generateTransport
  typeAttributes : above.typeAttributes = [] → below.typeAttributes = []
  enumAttributes : above.enumAttributes = [] → below.enumAttributes = []
  clientAttributes : above.clientAttributes = [] → below.clientAttributes = []
  serverAttributes : above.serverAttributes = [] → below.serverAttributes = []

theorem or_eq_left_iff {above below : Bool} :
    (above || below) = above ↔ (below = true → above = true) := by
  cases above <;> cases below <;> simp

theorem orElseList_eq_left_iff {α : Type} {above below : List α} :
    orElseList above below = above ↔ (above = [] → below = []) := by
  cases above <;> simp [orElseList]

theorem overlay_eq_right_iff {below above : GeneratorSettings} :
    below.overlay above = above ↔ below.Hidden above := by
  constructor
  · intro same
    exact {
      protoc := (congrArg protoc same :)
      plugin := (congrArg plugin same :)
      servicePlugin := (congrArg servicePlugin same :)
      buildClient := or_eq_left_iff.1 (congrArg buildClient same)
      buildServer := or_eq_left_iff.1 (congrArg buildServer same)
      generateTransport := or_eq_left_iff.1 (congrArg generateTransport same)
      typeAttributes := orElseList_eq_left_iff.1 (congrArg typeAttributes same)
      enumAttributes := orElseList_eq_left_iff.1 (congrArg enumAttributes same)
      clientAttributes := orElseList_eq_left_iff.1 (congrArg clientAttributes same)
      serverAttributes := orElseList_eq_left_iff.1 (congrArg serverAttributes same) }
  · intro hidden
    rw [overlay, or_eq_left_iff.2 hidden.buildClient, or_eq_left_iff.2 hidden.buildServer,
      or_eq_left_iff.2 hidden.generateTransport, orElseList_eq_left_iff.2 hidden.typeAttributes,
      orElseList_eq_left_iff.2 hidden.enumAttributes,
      orElseList_eq_left_iff.2 hidden.clientAttributes,
      orElseList_eq_left_iff.2 hidden.serverAttributes, hidden.protoc, hidden.plugin,
      hidden.servicePlugin]

end GeneratorSettings

namespace GeneratorOptions

theorem hidden_of_resolve {o : GeneratorOptions} {asked : GeneratorSettings}
    (resolved : o.resolve = .ok asked) : ({} : GeneratorSettings).Hidden asked := by
  simp only [resolve, bind_eq_ok_iff] at resolved
  obtain ⟨types, -, enums, -, clients, -, servers, -, same⟩ := resolved
  cases same
  exact ⟨rfl, rfl, rfl, nofun, nofun, nofun, fun _ => rfl, fun _ => rfl, fun _ => rfl, fun _ => rfl⟩

end GeneratorOptions

namespace Request

def leftTo (r : Request) (file : String) : Request :=
  { file := some file, shared := r.shared, generator := r.generator }

variable {r : Request} {s : Surroundings} {outputDir file : String} {inline filed : Settings}

theorem settings_of_outputDir (given : r.outputDir = some outputDir) :
    r.settings s = .ok made ↔ r.protoFiles ≠ [] ∧
      ∃ asked, r.generator.resolve = .ok asked ∧
        r.inline s.environment outputDir asked = .ok made := by
  rw [settings, bind_eq_ok_iff, given]
  cases files : r.protoFiles with
  | nil => simp
  | cons first rest => simp

theorem settings_leftTo :
    (r.leftTo file).settings s = .ok made ↔
      ∃ asked, r.generator.resolve = .ok asked ∧ ∃ base, Settings.load s (some file) = .ok base ∧
        made = r.shared.applyTo { base with generator := base.generator.overlay asked } := by
  rw [settings, bind_eq_ok_iff]
  refine exists_congr fun asked => and_congr_right fun _ => ?_
  change Settings.load s (some file) >>= _ = _ ↔ _
  rw [bind_eq_ok_iff]
  refine exists_congr fun base => and_congr_right fun _ => ?_
  exact ⟨fun same => (Except.ok.inj same).symm, fun same => congrArg _ same.symm⟩

/-- Both routes say the same, apart from what the environment says about the generator: the file leaves
it standing below the options, and the request that describes its workspace drops it. -/
theorem described_eq_filed_iff (given : r.outputDir = some outputDir)
    (held : Settings.HoldsOnly s.disk file (r.workspace outputDir))
    (first : r.settings s = .ok inline) (second : (r.leftTo file).settings s = .ok filed) :
    ∃ below, Gives (s.environment.given? {} "generator") {} Check.generator below ∧
      filed = { inline with generator := below.overlay inline.generator } ∧
      (inline = filed ↔ below.Hidden inline.generator) ∧
      (s.environment.given? {} "generator" = none → inline = filed) := by
  obtain ⟨filled, asked, resolved, ran⟩ := (settings_of_outputDir given).1 first
  obtain ⟨-, workspaces, generator, makes⟩ := (inline_eq_ok_iff filled).1 ran
  obtain ⟨asked', resolved', base, loaded, rfl⟩ := settings_leftTo.1 second
  obtain ⟨-, workspaces', below, makes'⟩ := (Settings.load_eq_ok_iff held).1 loaded
  obtain rfl : asked = asked' := Except.ok.inj (resolved.symm.trans resolved')
  subst generator
  -- the options are put over the environment before the check on one route and behind it on the other
  have filed : r.shared.applyTo { base with generator := base.generator.overlay inline.generator } =
      { inline with generator := base.generator.overlay inline.generator } := by
    have moved : ∀ g, r.shared.applyTo { base with generator := g } =
        { r.shared.applyTo base with generator := g } := fun _ => rfl
    rw [moved, makes.applyTo makes', workspaces', ← workspaces]
  have same : inline = { inline with generator := base.generator.overlay inline.generator } ↔
      base.generator.Hidden inline.generator := by
    rw [← GeneratorSettings.overlay_eq_right_iff]
    exact ⟨fun same => (congrArg Settings.generator same).symm, fun same => by rw [same]⟩
  refine ⟨base.generator, below, filed, filed ▸ same, fun unset => ?_⟩
  rw [filed, same]
  rw [unset] at below
  rw [show base.generator = {} from below]
  exact GeneratorOptions.hidden_of_resolve resolved

end Request

namespace Request

def sample : Request := { protoFiles := ["a.proto"], outputDir := some "out" }

def sampleSurroundings : Surroundings where
  disk := Settings.sampleDisk
    "\x7b\"workspaces\":[\x7b\"proto_files\":[\"a.proto\"],\"output_dir\":\"out\"\x7d]\x7d"
  environment := [("PROTONEST_GENERATOR", "\x7b\"protoc\":\"p\"\x7d")]
  home := "/"

theorem sample_held :
    Settings.HoldsOnly sampleSurroundings.disk "c.json" (sample.workspace "out") := by
  refine ⟨.list [.ofFields [("proto_files", .list [.text "a.proto"]), ("output_dir", .text "out")]],
    ?_, rfl⟩
  rw [sampleSurroundings, Settings.readData_sampleDisk, Json.read]
  simp [Text.unifyBreaks, Json.deepest, Json.value, Json.fields, Json.items, Json.skipBlanks,
    Json.stringBody, Json.stringBody.flush, Refusal.required, bind, Except.bind, pure, Except.pure,
    setField, Except.mapError]

theorem sample_written? (name : String) (known : name ∈ settingNames) :
    sampleSurroundings.environment.written? {} name =
      if name = "generator" then some "\x7b\"protoc\":\"p\"\x7d" else none := by
  revert name
  simp only [Environment.written?, Text.foldName_eq]
  decide +kernel

theorem read_sample :
    Json.read "\x7b\"protoc\":\"p\"\x7d" = .ok (.ofFields [("protoc", .text "p")]) := by
  rw [Json.read]
  simp [Json.deepest, Json.value, Json.fields, Json.skipBlanks,
    Json.stringBody, Json.stringBody.flush, Refusal.required, bind, Except.bind, pure, Except.pure,
    setField]

theorem sample_given_generator :
    sampleSurroundings.environment.given? {} "generator" =
      some (.ofFields [("protoc", .text "p")]) := by
  have named : Environment.canonicalName Environment.generatorNames "protoc" = "protoc" := by
    decide +kernel
  have written := sample_written? "generator" (by decide)
  rw [Environment.given?, Environment.fieldValue, written, if_pos rfl]
  dsimp only
  rw [if_pos (by decide), read_sample]
  simp [Environment.canonicalKeys, Value.ofFields, named, Value.setNamed, Except.toOption]

theorem sample_readable : sampleSurroundings.environment.Readable {} := by
  intro name listed written there
  rw [sample_written? name (Environment.mem_settingNames_of_structured name listed)] at there
  split at there
  · cases there
    exact ⟨_, read_sample⟩
  · cases there

def sampleSettings : Settings := { workspaces := [sample.workspace "out"] }

theorem sample_makes : ({} : SharedOptions).Makes sampleSurroundings.environment sampleSettings := by
  have unsaid : ∀ name ∈ sharedNames, sampleSurroundings.environment.given? {} name = none := by
    intro name shared
    apply Environment.given?_of_unwritten
    rw [sample_written? name (mem_settingNames_of_shared name shared),
      if_neg (ne_of_shared name shared).2]
  constructor <;> rw [SharedOptions.value?_unset, unsaid _ (by decide)] <;> rfl

theorem sample_inline : sample.settings sampleSurroundings = .ok sampleSettings :=
  (settings_of_outputDir rfl).2 ⟨by decide, {}, rfl,
    (inline_eq_ok_iff (by decide)).2 ⟨sample_readable, rfl, rfl, sample_makes⟩⟩

theorem sample_filed :
    (sample.leftTo "c.json").settings sampleSurroundings =
      .ok { sampleSettings with generator := { protoc := "p" } } := by
  have loaded : Settings.load sampleSurroundings (some "c.json") =
      .ok { sampleSettings with generator := { protoc := "p" } } := by
    refine (Settings.load_eq_ok_iff sample_held).2 ⟨sample_readable, rfl, ?_, ?_⟩
    · rw [sample_given_generator]
      rfl
    · exact sample_makes.others [sample.workspace "out"] { protoc := "p" }
  exact settings_leftTo.2 ⟨{}, rfl, _, loaded, rfl⟩

theorem described_eq_filed_iff_sample :
    sample.outputDir = some "out" ∧
      Settings.HoldsOnly sampleSurroundings.disk "c.json" (sample.workspace "out") ∧
      sample.settings sampleSurroundings = .ok sampleSettings ∧
      (sample.leftTo "c.json").settings sampleSurroundings =
        .ok { sampleSettings with generator := { protoc := "p" } } ∧
      ∃ below, Gives (sampleSurroundings.environment.given? {} "generator") {} Check.generator below ∧
        { sampleSettings with generator := { protoc := "p" } } =
          { sampleSettings with generator := below.overlay sampleSettings.generator } ∧
        (sampleSettings = { sampleSettings with generator := { protoc := "p" } } ↔
          below.Hidden sampleSettings.generator) ∧
        (sampleSurroundings.environment.given? {} "generator" = none →
          sampleSettings = { sampleSettings with generator := { protoc := "p" } }) :=
  ⟨rfl, sample_held, sample_inline, sample_filed,
    described_eq_filed_iff rfl sample_held sample_inline sample_filed⟩

theorem not_described_eq_filed :
    ¬ ∀ (r : Request) (s : Surroundings) (outputDir file : String) (inline filed : Settings),
      r.outputDir = some outputDir → Settings.HoldsOnly s.disk file (r.workspace outputDir) →
      r.settings s = .ok inline → (r.leftTo file).settings s = .ok filed → inline = filed := by
  intro agree
  have same := agree sample sampleSurroundings "out" "c.json" _ _ rfl sample_held sample_inline
    sample_filed
  exact absurd same (by decide)

end Request

end ProtoModules
