import ProtoModules.Proofs.Settings.Shared

/-! A request that describes its workspace. The workspace and the settings of the generator are those
of the request, whatever the environment says about them; each shared field has the value of its
option, or of its variable if the option was not set. -/

namespace ProtoModules
open Data Data.Value Check

variable {env : Environment} {made : Settings} {o : SharedOptions}

def sharedNames : List String :=
  ["prepend_header", "toplevel_attribute", "disable_comments", "format", "edition", "jobs"]

theorem mem_settingNames_of_shared : ∀ name ∈ sharedNames, name ∈ settingNames := by decide

theorem ne_of_shared : ∀ name ∈ sharedNames, name ≠ "workspaces" ∧ name ≠ "generator" := by decide

theorem says_iff {fields : List (Value × Value)}
    (known : ∀ name, (lookup name fields).isSome → name ∈ settingNames)
    (shared : ∀ name ∈ sharedNames, lookup name fields = o.value? env name) :
    Says fields made ↔
      (∃ v, lookup "workspaces" fields = some v ∧ listOf workspace v = .ok made.workspaces) ∧
      Gives (lookup "generator" fields) {} generator made.generator ∧ o.Makes env made := by
  have prependHeader := shared "prepend_header" (by decide)
  have toplevelAttribute := shared "toplevel_attribute" (by decide)
  have disableComments := shared "disable_comments" (by decide)
  have format := shared "format" (by decide)
  have edition := shared "edition" (by decide)
  have jobs := shared "jobs" (by decide)
  constructor
  · intro held
    exact ⟨held.workspaces, held.generator, prependHeader ▸ held.prependHeader,
      toplevelAttribute ▸ held.toplevelAttribute, disableComments ▸ held.disableComments,
      format ▸ held.format, edition ▸ held.edition, jobs ▸ held.jobs⟩
  · rintro ⟨workspaces, generator, makes⟩
    exact ⟨workspaces, generator, prependHeader ▸ makes.prependHeader,
      toplevelAttribute ▸ makes.toplevelAttribute, disableComments ▸ makes.disableComments,
      format ▸ makes.format, edition ▸ makes.edition, jobs ▸ makes.jobs, known⟩

namespace Request

variable {r : Request} {outputDir : String} {g : GeneratorSettings}

def workspace (r : Request) (outputDir : String) : Workspace :=
  { protoDirs := r.protoDirs, protoFiles := r.protoFiles, outputDir, tmpDir := r.tmpDir }

def described (r : Request) (outputDir : String) (g : GeneratorSettings) : List (String × Value) :=
  [("workspaces", .list [(r.workspace outputDir).toValue]), ("generator", g.toValue)]

theorem nodup_described (r : Request) (outputDir : String) (g : GeneratorSettings) :
    ((r.described outputDir g ++ r.shared.pairs).map Prod.fst).Nodup := by
  have among : (r.described outputDir g ++ r.shared.pairs).Sublist
      (r.described outputDir g ++ r.shared.allPairs) :=
    List.Sublist.append_left List.filter_sublist _
  refine List.Nodup.sublist (among.map _) ?_
  simp [described, SharedOptions.allPairs]

/-- The fields that are checked if a request describes its workspace. The environment adds those that
nothing was said about. -/
def inlineFields (r : Request) (env : Environment) (outputDir : String) (g : GeneratorSettings) :
    List (Value × Value) :=
  let below := (fieldsOf (env.pairs {})).filter fun item => item.1.key?.all fun name =>
    (lookup name (fieldsOf (r.described outputDir g))).isNone
  Value.joinFields below (fieldsOf (r.described outputDir g ++ r.shared.pairs))

theorem inline_of_readable (readable : env.Readable {}) :
    r.inline env outputDir g = Settings.checked (r.inlineFields env outputDir g) := by
  rw [inline, Environment.fields_of_readable readable, inlineFields, fieldsOf_append,
    ← SharedOptions.fields_eq]
  rfl

theorem lookup_inlineFields (name : String) :
    lookup name (r.inlineFields env outputDir g) =
      ((r.described outputDir g ++ r.shared.pairs).lookup name).or
        (lookup name (fieldsOf (env.pairs {}))) := by
  have kept := lookup_filter_key
    (fun name => (lookup name (fieldsOf (r.described outputDir g))).isNone) name
    (fieldsOf (env.pairs {}))
  rw [lookup_fieldsOf] at kept
  -- the workspaces and the generator replace what is below, as nothing is below them
  cases said : (r.described outputDir g).lookup name with
  | some v =>
    rw [said, if_neg (by simp)] at kept
    rw [inlineFields, Value.lookup_joinFields_of_plain (nodup_described r outputDir g)
      fun _ _ => .inl kept, List.lookup_append, said]
    rfl
  | none =>
    rw [said, if_pos (by simp)] at kept
    rw [inlineFields, Value.lookup_joinFields_of_plain (nodup_described r outputDir g), kept]
    intro v above
    rw [List.lookup_append, said, Option.none_or] at above
    exact .inr (SharedOptions.not_table_of_lookup_pairs above)

theorem mem_settingNames_of_inlineFields {name : String}
    (there : (lookup name (r.inlineFields env outputDir g)).isSome) : name ∈ settingNames := by
  rw [lookup_inlineFields, Environment.lookup_pairs, List.lookup_append] at there
  by_cases known : name ∈ settingNames
  · exact known
  · rw [if_neg known, Option.or_none] at there
    obtain ⟨v, set⟩ := Option.isSome_iff_exists.1 there
    rcases Option.or_eq_some_iff.1 set with said | ⟨-, set⟩
    · obtain ⟨before, after, parts, -⟩ := List.lookup_eq_some_iff.1 said
      have named : name ∈ (r.described outputDir g).map Prod.fst := by simp [parts]
      have among : (r.described outputDir g).map Prod.fst ⊆ settingNames := by
        simp [described, settingNames]
      exact among named
    · exact SharedOptions.mem_settingNames_of_lookup_pairs set

theorem lookup_inlineFields_shared {name : String} (shared : name ∈ sharedNames) :
    lookup name (r.inlineFields env outputDir g) = r.shared.value? env name := by
  have unsaid : (r.described outputDir g).lookup name = none :=
    lookup_eq_none_of_notMem (by simp [described, ne_of_shared name shared])
  rw [lookup_inlineFields, Environment.lookup_pairs, if_pos (mem_settingNames_of_shared name shared),
    List.lookup_append, unsaid]
  rfl

theorem inline_eq_ok_iff (filled : r.protoFiles ≠ []) :
    r.inline env outputDir g = .ok made ↔
      env.Readable {} ∧ made.workspaces = [r.workspace outputDir] ∧ made.generator = g ∧
        r.shared.Makes env made := by
  by_cases readable : env.Readable {}
  · have workspaces : lookup "workspaces" (r.inlineFields env outputDir g) =
        some (.list [(r.workspace outputDir).toValue]) := by
      rw [lookup_inlineFields]
      simp [described]
    have generator : lookup "generator" (r.inlineFields env outputDir g) = some g.toValue := by
      rw [lookup_inlineFields]
      simp [described, List.lookup_cons]
    have one : listOf Check.workspace (.list [(r.workspace outputDir).toValue]) =
        .ok [r.workspace outputDir] := by
      rw [listOf, itemsFrom, workspace_toValue filled]
      rfl
    rw [inline_of_readable readable, checked_eq_ok_iff,
      says_iff (fun _ => mem_settingNames_of_inlineFields) fun _ => lookup_inlineFields_shared,
      workspaces, generator]
    simp [Gives, one, generator_toValue, readable, eq_comm]
  · have stopped : r.inline env outputDir g ≠ .ok made := by
      intro ran
      obtain ⟨given, read, -⟩ := bind_eq_ok_iff.1 ran
      exact readable (Environment.readable_of_fields read)
    simp [readable, stopped]

end Request

end ProtoModules
