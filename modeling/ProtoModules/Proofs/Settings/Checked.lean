import ProtoModules.Proofs.Settings.Fields
import ProtoModules.Settings.Data

/-! What the check of the settings accepts. It looks every field up once, so the settings that it gives
are known by the values of the fields; and the data of a workspace and of the generator's settings
are accepted as what they are the data of. -/

namespace ProtoModules
open Data Data.Value

namespace Check

variable {α β : Type} {fields : List (Value × Value)} {name : String} {x default : α}
  {check : Value → Check α}

/-- What a field has to hold for the check to give this; a field that is not there has its default. -/
def Gives (v : Option Value) (default : α) (check : Value → Check α) (x : α) : Prop :=
  v.elim (x = default) fun v => check v = .ok x

theorem gives_some {v : Value} (accepted : check v = .ok x) : Gives (some v) default check x :=
  accepted

theorem Gives.unique {v : Option Value} {y : α} (first : Gives v default check x)
    (second : Gives v default check y) : x = y := by
  cases v with
  | none => exact Eq.trans first (Eq.symm second)
  | some v => exact Except.ok.inj (Eq.trans (Eq.symm first) second)

theorem Gives.over {set v : Option Value} {y : α} (both : Gives (set.or v) default check x)
    (below : Gives v default check y) : Gives set y check x := by
  cases set with
  | none => exact Gives.unique both below
  | some u => exact both

theorem under_eq_ok_iff {c : Check α} : under name c = .ok x ↔ c = .ok x := mapError_eq_ok_iff

theorem fieldOr_eq_ok_iff :
    fieldOr fields name default check = .ok x ↔ Gives (lookup name fields) default check x := by
  rw [fieldOr]
  cases lookup name fields with
  | none => simp [Gives, eq_comm]
  | some v => exact under_eq_ok_iff

theorem field_eq_ok_iff :
    field fields name check = .ok x ↔ ∃ v, lookup name fields = some v ∧ check v = .ok x := by
  rw [field]
  cases lookup name fields with
  | none => simp [under_eq_ok_iff, refused]
  | some v => simp [under_eq_ok_iff]

theorem isSome_lookup_iff :
    (lookup name fields).isSome ↔ ∃ item ∈ fields, item.1.key? = some name := by
  induction fields with
  | nil => simp [lookup]
  | cons item rest ih =>
    obtain ⟨key, v⟩ := item
    rw [lookup]
    by_cases here : key.key? = some name <;> simp [here, ih]

theorem noUnknown_eq_ok_iff :
    noUnknown fields = .ok () ↔ ∀ name, (lookup name fields).isSome → name ∈ settingNames := by
  have known : ((fields.filterMap fun item => item.1.key?).find? fun name =>
      !settingNames.contains name) = none ↔
      ∀ name, (lookup name fields).isSome → name ∈ settingNames := by
    rw [List.find?_eq_none]
    simp [isSome_lookup_iff]
  rw [noUnknown, ← known]
  generalize ((fields.filterMap fun item => item.1.key?).find? fun name =>
    !settingNames.contains name) = unknown
  cases unknown <;> simp [under_eq_ok_iff, refused]

structure Says (fields : List (Value × Value)) (s : Settings) : Prop where
  workspaces : ∃ v, lookup "workspaces" fields = some v ∧ listOf workspace v = .ok s.workspaces
  generator : Gives (lookup "generator" fields) {} generator s.generator
  prependHeader : Gives (lookup "prepend_header" fields) false flag s.prependHeader
  toplevelAttribute : Gives (lookup "toplevel_attribute" fields) none optionalText s.toplevelAttribute
  disableComments : Gives (lookup "disable_comments" fields) [] (listOf text) s.disableComments
  format : Gives (lookup "format" fields) false flag s.format
  edition : Gives (lookup "edition" fields) "2021" text s.edition
  jobs : Gives (lookup "jobs" fields) 1 positive s.jobs
  known : ∀ name, (lookup name fields).isSome → name ∈ settingNames

theorem settings_eq_ok_iff {s : Settings} : settings fields = .ok s ↔ Says fields s := by
  simp only [settings, bind_eq_ok_iff, field_eq_ok_iff, fieldOr_eq_ok_iff]
  constructor
  · rintro ⟨_, workspaces, _, generator, _, prependHeader, _, toplevelAttribute, _, disableComments,
      _, format, _, edition, _, jobs, _, known, same⟩
    cases same
    exact ⟨workspaces, generator, prependHeader, toplevelAttribute, disableComments, format, edition,
      jobs, noUnknown_eq_ok_iff.1 known⟩
  · intro held
    exact ⟨_, held.workspaces, _, held.generator, _, held.prependHeader, _, held.toplevelAttribute, _,
      held.disableComments, _, held.format, _, held.edition, _, held.jobs, (),
      noUnknown_eq_ok_iff.2 held.known, rfl⟩

end Check

theorem checked_eq_ok_iff {fields : List (Value × Value)} {s : Settings} :
    Settings.checked fields = .ok s ↔ Check.Says fields s := by
  rw [← Check.settings_eq_ok_iff]
  exact mapError_eq_ok_iff

namespace Check

theorem itemsFrom_map {α : Type} {check : Value → Check α} (write : α → Value)
    (accepted : ∀ x, check (write x) = .ok x) (index : Nat) (xs : List α) :
    itemsFrom check index (xs.map write) = .ok xs := by
  induction xs generalizing index with
  | nil => rfl
  | cons x rest ih =>
    rw [List.map_cons, itemsFrom, accepted, ih]
    rfl

theorem listOf_textList (texts : List String) : listOf text (textList texts) = .ok texts := by
  rw [textList, listOf]
  exact itemsFrom_map .text (fun _ => rfl) 0 texts

theorem optionalText_toValue (t : Option String) :
    optionalText (ProtoModules.optionalText t) = .ok t := by
  cases t <;> rfl

def pairValue (a : Attribute) : Value := .list [.text a.1, .text a.2]

theorem attributeList_eq (attributes : List Attribute) :
    attributeList attributes = .list (attributes.map pairValue) := rfl

theorem mapM_takenApart (attributes : List Attribute) :
    (attributes.map pairValue).mapM takenApart = .ok (attributes.map pairValue) := by
  induction attributes with
  | nil => rfl
  | cons a rest ih =>
    rw [List.map_cons, List.mapM_cons, ih]
    rfl

theorem attributePairs_toValue (attributes : List Attribute) :
    attributePairs (attributeList attributes) = .ok attributes := by
  rw [attributeList_eq, attributePairs, mapM_takenApart]
  exact itemsFrom_map pairValue (fun _ => rfl) 0 attributes

theorem workspace_toValue {w : Workspace} (listed : w.protoFiles ≠ []) :
    workspace w.toValue = .ok w := by
  have filled : nonEmpty w.protoFiles = .ok w.protoFiles := by simp [nonEmpty, listed]
  rw [Workspace.toValue, Value.ofFields, workspace]
  simp only [bind_eq_ok_iff, field_eq_ok_iff, fieldOr_eq_ok_iff]
  simp only [List.map_cons, List.map_nil, lookup, key?, Option.some.injEq, String.reduceEq, if_true,
    if_false]
  exact ⟨_, gives_some (listOf_textList _), _, ⟨_, rfl, _, listOf_textList _, filled⟩, _,
    ⟨_, rfl, rfl⟩, _,
    gives_some (optionalText_toValue _), rfl⟩

theorem generator_toValue (g : GeneratorSettings) : generator g.toValue = .ok g := by
  rw [GeneratorSettings.toValue, Value.ofFields, generator]
  simp only [bind_eq_ok_iff, fieldOr_eq_ok_iff]
  simp only [List.map_cons, List.map_nil, lookup, key?, Option.some.injEq, String.reduceEq, if_true,
    if_false]
  exact ⟨_, gives_some rfl, _, gives_some rfl, _, gives_some rfl, _, gives_some rfl, _,
    gives_some rfl, _, gives_some rfl, _, gives_some (attributePairs_toValue _), _,
    gives_some (attributePairs_toValue _), _, gives_some (attributePairs_toValue _), _,
    gives_some (attributePairs_toValue _), rfl⟩

end Check

end ProtoModules
