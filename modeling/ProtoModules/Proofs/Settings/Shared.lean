import ProtoModules.Proofs.Settings.Checked
import ProtoModules.Settings.Request

/-! The fields that workspaces share. Each of them has the value of the option if that was set, or else
what the environment says, whether the options are put over the environment before the check or
over checked settings. -/

namespace ProtoModules
open Data Data.Value Check

namespace SharedOptions

def allPairs (o : SharedOptions) : List (String × Value) :=
  [("format", .bool o.format), ("prepend_header", .bool o.prependHeader),
    ("toplevel_attribute", ProtoModules.optionalText o.toplevelAttribute),
    ("disable_comments", textList o.disableComments),
    ("edition", ProtoModules.optionalText o.edition), ("jobs", o.jobs.elim .null .int)]

def pairs (o : SharedOptions) : List (String × Value) := o.allPairs.filter fun item => !item.2.isVoid

theorem fields_eq (o : SharedOptions) : o.fields = fieldsOf o.pairs := rfl

theorem lookup_filter {pairs : List (String × Value)} (once : (pairs.map Prod.fst).Nodup)
    (kept : Value → Bool) (n : String) :
    (pairs.filter fun item => kept item.2).lookup n = (pairs.lookup n).filter kept := by
  induction pairs with
  | nil => rfl
  | cons item rest ih =>
    obtain ⟨name, v⟩ := item
    rw [List.map_cons, List.nodup_cons] at once
    by_cases same : n = name
    · subst same
      have missing : rest.lookup n = none := lookup_eq_none_of_notMem once.1
      by_cases good : kept v <;> simp [good, ih once.2, missing, Option.filter]
    · have other : (n == name) = false := by simpa using same
      by_cases good : kept v <;> simp [List.lookup_cons, good, ih once.2, other]

theorem lookup_pairs (o : SharedOptions) (n : String) :
    o.pairs.lookup n = (o.allPairs.lookup n).filter fun v => !v.isVoid :=
  lookup_filter (by simp [allPairs]) (fun v => !v.isVoid) n

variable {o : SharedOptions}

theorem filter_bool (b : Bool) :
    (some (Value.bool b)).filter (fun v => !v.isVoid) = if b then some (.bool true) else none := by
  cases b <;> rfl

theorem filter_optionalText (t : Option String) :
    (some (ProtoModules.optionalText t)).filter (fun v => !v.isVoid) = (writtenText t).map .text := by
  cases t with
  | none => rfl
  | some t =>
    cases empty : t.isEmpty <;>
      simp [ProtoModules.optionalText, writtenText, Option.filter, isVoid, empty]

theorem filter_textList (texts : List String) :
    (some (textList texts)).filter (fun v => !v.isVoid) =
      if texts = [] then none else some (textList texts) := by
  cases texts <;> rfl

theorem filter_number (n : Option Int) :
    (some (n.elim .null .int)).filter (fun v => !v.isVoid) =
      (n.filter (· != 0)).map Value.int := by
  cases n with
  | none => rfl
  | some n => by_cases zero : n = 0 <;> simp [Option.filter, isVoid, zero]

theorem lookup_format (o : SharedOptions) :
    o.pairs.lookup "format" = if o.format then some (.bool true) else none := by
  rw [lookup_pairs, ← filter_bool]
  simp [allPairs]

theorem lookup_prependHeader (o : SharedOptions) :
    o.pairs.lookup "prepend_header" = if o.prependHeader then some (.bool true) else none := by
  rw [lookup_pairs, ← filter_bool]
  simp [allPairs, List.lookup_cons]

theorem lookup_toplevelAttribute (o : SharedOptions) :
    o.pairs.lookup "toplevel_attribute" = (writtenText o.toplevelAttribute).map .text := by
  rw [lookup_pairs, ← filter_optionalText]
  simp [allPairs, List.lookup_cons]

theorem lookup_disableComments (o : SharedOptions) :
    o.pairs.lookup "disable_comments" =
      if o.disableComments = [] then none else some (textList o.disableComments) := by
  rw [lookup_pairs, ← filter_textList]
  simp [allPairs, List.lookup_cons]

theorem lookup_edition (o : SharedOptions) :
    o.pairs.lookup "edition" = (writtenText o.edition).map .text := by
  rw [lookup_pairs, ← filter_optionalText]
  simp [allPairs, List.lookup_cons]

theorem lookup_jobs (o : SharedOptions) :
    o.pairs.lookup "jobs" = (o.jobs.filter (· != 0)).map .int := by
  rw [lookup_pairs, ← filter_number]
  simp [allPairs, List.lookup_cons]

theorem lookup_of_lookup_pairs {n : String} {v : Value} (set : o.pairs.lookup n = some v) :
    o.allPairs.lookup n = some v := by
  rw [lookup_pairs, Option.filter_eq_some_iff] at set
  exact set.1

theorem mem_allPairs_of_lookup_pairs {n : String} {v : Value} (set : o.pairs.lookup n = some v) :
    (n, v) ∈ o.allPairs := by
  obtain ⟨before, after, parts, -⟩ := List.lookup_eq_some_iff.1 (lookup_of_lookup_pairs set)
  rw [parts]
  exact List.mem_append_right before List.mem_cons_self

theorem not_table_of_lookup_pairs {n : String} {v : Value} (set : o.pairs.lookup n = some v)
    (fields : List (Value × Value)) : v ≠ .table fields := by
  rintro rfl
  have member := mem_allPairs_of_lookup_pairs set
  cases top : o.toplevelAttribute <;> cases edition : o.edition <;> cases jobs : o.jobs <;>
    simp [allPairs, ProtoModules.optionalText, textList, top, edition, jobs] at member

theorem mem_settingNames_of_lookup_pairs {n : String} {v : Value}
    (set : o.pairs.lookup n = some v) : n ∈ settingNames := by
  have named : n ∈ o.allPairs.map Prod.fst :=
    List.mem_map_of_mem (mem_allPairs_of_lookup_pairs set)
  have known : o.allPairs.map Prod.fst ⊆ settingNames := by simp [allPairs, settingNames]
  exact known named

/-- What a shared field has to be: the option, or what the environment says if it was not set. -/
def value? (o : SharedOptions) (env : Environment) (name : String) : Option Value :=
  (o.pairs.lookup name).or (env.given? {} name)

theorem value?_unset (env : Environment) (name : String) :
    ({} : SharedOptions).value? env name = env.given? {} name := rfl

structure Makes (o : SharedOptions) (env : Environment) (s : Settings) : Prop where
  prependHeader : Gives (o.value? env "prepend_header") false flag s.prependHeader
  toplevelAttribute :
    Gives (o.value? env "toplevel_attribute") none Check.optionalText s.toplevelAttribute
  disableComments : Gives (o.value? env "disable_comments") [] (listOf text) s.disableComments
  format : Gives (o.value? env "format") false flag s.format
  edition : Gives (o.value? env "edition") "2021" text s.edition
  jobs : Gives (o.value? env "jobs") 1 positive s.jobs

theorem Makes.others {env : Environment} {s : Settings} (makes : o.Makes env s)
    (workspaces : List Workspace) (generator : GeneratorSettings) :
    o.Makes env { s with workspaces := workspaces, generator := generator } :=
  ⟨makes.prependHeader, makes.toplevelAttribute, makes.disableComments, makes.format, makes.edition,
    makes.jobs⟩

theorem eq_or_of_gives {b x y : Bool}
    (gives : Gives (if b then some (.bool true) else none) y flag x) : x = (b || y) := by
  cases b with
  | false => exact gives
  | true => exact (Except.ok.inj gives).symm

theorem eq_orElseList_of_gives {texts x y : List String}
    (gives : Gives (if texts = [] then none else some (textList texts)) y (listOf text) x) :
    x = orElseList texts y := by
  by_cases unset : texts = []
  · rw [if_pos unset] at gives
    subst unset
    exact gives
  · rw [if_neg unset] at gives
    have same : x = texts := Except.ok.inj (Eq.trans (Eq.symm gives) (listOf_textList texts))
    simp [orElseList, unset, same]

theorem eq_orElse_of_gives {t x y : Option String}
    (gives : Gives (t.map .text) y Check.optionalText x) : x = (t <|> y) := by
  cases t with
  | none => exact gives
  | some t => exact (Except.ok.inj gives).symm

theorem eq_getD_of_gives {t : Option String} {x y : String} (gives : Gives (t.map .text) y text x) :
    x = t.getD y := by
  cases t with
  | none => exact gives
  | some t => exact (Except.ok.inj gives).symm

theorem eq_getD_of_gives_number {n : Option Int} {x y : Int}
    (gives : Gives (n.map .int) y positive x) : x = n.getD y := by
  cases n with
  | none => exact gives
  | some n =>
    have positive : (if 1 ≤ n then .ok n else refused : Check Int) = .ok x := gives
    split at positive
    · exact (Except.ok.inj positive).symm
    · cases positive

/-- Options that are put over settings which only the environment made say the same as options
that the settings are made with. -/
theorem Makes.applyTo {env : Environment} {s base : Settings} (made : o.Makes env s)
    (below : ({} : SharedOptions).Makes env base) :
    o.applyTo base = { s with workspaces := base.workspaces, generator := base.generator } := by
  have prependHeader := made.prependHeader.over below.prependHeader
  have toplevelAttribute := made.toplevelAttribute.over below.toplevelAttribute
  have disableComments := made.disableComments.over below.disableComments
  have format := made.format.over below.format
  have edition := made.edition.over below.edition
  have jobs := made.jobs.over below.jobs
  rw [lookup_prependHeader] at prependHeader
  rw [lookup_toplevelAttribute] at toplevelAttribute
  rw [lookup_disableComments] at disableComments
  rw [lookup_format] at format
  rw [lookup_edition] at edition
  rw [lookup_jobs] at jobs
  rw [SharedOptions.applyTo, eq_or_of_gives prependHeader, eq_orElse_of_gives toplevelAttribute,
    eq_orElseList_of_gives disableComments, eq_or_of_gives format, eq_getD_of_gives edition,
    eq_getD_of_gives_number jobs]

end SharedOptions

end ProtoModules
