import Mathlib.Data.List.Basic
import ProtoModules.Settings.Environment

/-! Fields by their names. A table of settings is known by what is looked up in it: joining tables sets
each field of the upper one, and the environment has a value for a field or has none. -/

namespace ProtoModules
open Data

section

variable {α β ε : Type} {c : Except ε α}

theorem bind_eq_ok_iff {next : α → Except ε β} {y : β} :
    c >>= next = .ok y ↔ ∃ x, c = .ok x ∧ next x = .ok y := by
  cases c <;> simp [bind, Except.bind]

theorem bind_eq_error_iff {next : α → Except ε β} {f : ε} :
    c >>= next = .error f ↔ c = .error f ∨ ∃ x, c = .ok x ∧ next x = .error f := by
  cases c <;> simp [bind, Except.bind]

theorem mapError_eq_ok_iff {δ : Type} {g : ε → δ} {x : α} : c.mapError g = .ok x ↔ c = .ok x := by
  cases c <;> simp [Except.mapError]

theorem exists_of_mapM_eq_ok {xs : List α} {g : α → Except ε β} {ys : List β}
    (ran : xs.mapM g = .ok ys) : ∀ x ∈ xs, ∃ y, g x = .ok y := by
  induction xs generalizing ys with
  | nil => simp
  | cons x rest ih =>
    rw [List.mapM_cons] at ran
    obtain ⟨y, first, ran⟩ := bind_eq_ok_iff.1 ran
    obtain ⟨more, later, -⟩ := bind_eq_ok_iff.1 ran
    exact List.forall_mem_cons.2 ⟨⟨y, first⟩, ih later⟩

theorem exists_of_mapM_eq_error {xs : List α} {g : α → Except ε β} {f : ε}
    (failed : xs.mapM g = .error f) : ∃ x ∈ xs, g x = .error f := by
  induction xs with
  | nil => cases failed
  | cons x rest ih =>
    rw [List.mapM_cons] at failed
    obtain first | ⟨y, -, failed⟩ := bind_eq_error_iff.1 failed
    · exact ⟨x, List.mem_cons_self, first⟩
    · obtain later | ⟨more, -, failed⟩ := bind_eq_error_iff.1 failed
      · obtain ⟨z, member, wrong⟩ := ih later
        exact ⟨z, List.mem_cons_of_mem x member, wrong⟩
      · cases failed

end

def fieldsOf (pairs : List (String × Value)) : List (Value × Value) :=
  pairs.map fun (name, v) => (.text name, v)

theorem fieldsOf_append (above below : List (String × Value)) :
    fieldsOf (above ++ below) = fieldsOf above ++ fieldsOf below := List.map_append

theorem lookup_eq_none_of_notMem {n : String} {pairs : List (String × Value)}
    (fresh : n ∉ pairs.map Prod.fst) : pairs.lookup n = none :=
  List.lookup_eq_none_iff.2 fun item member => by
    have listed : item.1 ∈ pairs.map Prod.fst := List.mem_map_of_mem member
    have other : n ≠ item.1 := fun named => fresh (named ▸ listed)
    simpa using other

namespace Data.Value

theorem lookup_fieldsOf (n : String) (pairs : List (String × Value)) :
    lookup n (fieldsOf pairs) = pairs.lookup n := by
  induction pairs with
  | nil => rfl
  | cons item rest ih =>
    obtain ⟨name, v⟩ := item
    have tail : lookup n (fieldsOf rest) = rest.lookup n := ih
    rw [fieldsOf, List.map_cons, lookup, key?, List.lookup_cons]
    by_cases same : n = name
    · simp [same]
    · have other : (n == name) = false := by simpa using same
      rw [if_neg (by simpa using Ne.symm same), other]
      exact tail

theorem lookup_filter_key (q : String → Bool) (n : String) (fields : List (Value × Value)) :
    lookup n (fields.filter fun item => item.1.key?.all q) =
      if q n then lookup n fields else none := by
  induction fields with
  | nil => simp [lookup]
  | cons item rest ih =>
    obtain ⟨key, v⟩ := item
    by_cases here : key.key? = some n
    · by_cases good : q n <;> simp [lookup, here, good, ih]
    · by_cases good : key.key?.all q <;> simp [lookup, here, good, ih]

end Data.Value

namespace Value
open Data.Value

theorem lookup_joinField (n name : String) (join : Value → Value) (v : Value)
    (fields : List (Value × Value)) :
    lookup n (joinField name join v fields) =
      if n = name then some ((lookup name fields).elim v join) else lookup n fields := by
  induction fields with
  | nil =>
    by_cases same : n = name
    · simp [joinField, lookup, key?, same]
    · simp [joinField, lookup, key?, same, Ne.symm same]
  | cons item rest ih =>
    obtain ⟨key, old⟩ := item
    rw [joinField]
    by_cases here : key.key? = some name
    · rw [if_pos here, lookup, lookup, lookup, here]
      by_cases same : n = name
      · simp [same]
      · simp [same, Ne.symm same]
    · rw [if_neg here, lookup, ih, lookup, lookup]
      by_cases same : n = name
      · subst same
        simp [here]
      · simp [same]

theorem lookup_joinFields (n : String) (below : List (Value × Value))
    {pairs : List (String × Value)} (once : (pairs.map Prod.fst).Nodup) :
    lookup n (joinFields below (fieldsOf pairs)) =
      match pairs.lookup n with
      | some v => some ((lookup n below).elim v fun old => onTop old v)
      | none => lookup n below := by
  induction pairs generalizing below with
  | nil => rw [fieldsOf, List.map_nil, joinFields, List.lookup_nil]
  | cons item rest ih =>
    obtain ⟨name, v⟩ := item
    rw [List.map_cons, List.nodup_cons] at once
    rw [fieldsOf, List.map_cons, joinFields]
    have later := ih (joinField name (fun old => onTop old v) v below) once.2
    rw [fieldsOf] at later
    rw [later, lookup_joinField, List.lookup_cons]
    by_cases same : n = name
    · subst same
      simp [lookup_eq_none_of_notMem once.1]
    · have other : (n == name) = false := by simpa using same
      simp [same, other]

theorem onTop_of_not_table {v : Value} (plain : ∀ fields, v ≠ .table fields) (below : Value) :
    onTop below v = v := by
  rw [onTop]
  exact fun fields same => plain fields same

theorem lookup_joinFields_of_plain {n : String} {below : List (Value × Value)}
    {pairs : List (String × Value)} (once : (pairs.map Prod.fst).Nodup)
    (plain : ∀ v, pairs.lookup n = some v → lookup n below = none ∨ ∀ fields, v ≠ .table fields) :
    lookup n (joinFields below (fieldsOf pairs)) = (pairs.lookup n).or (lookup n below) := by
  rw [lookup_joinFields n below once]
  cases above : pairs.lookup n with
  | none => rfl
  | some v =>
    obtain missing | plain := plain v above
    · simp [missing]
    · cases lookup n below <;> simp [onTop_of_not_table plain]

end Value

/-- The folded name in terms of its characters, which is quick to evaluate. -/
theorem Text.foldName_eq (name : String) :
    foldName name = String.ofList (name.toList.map fun c => if c = '\u212a' then 'k' else toLower c) := by
  apply String.toList_injective
  simp [foldName]

namespace Environment
open Data.Value

/-- Every list and every table that the environment gives is written in JSON. -/
def Readable (env : Environment) (r : Reading) : Prop :=
  ∀ name ∈ structured, ∀ written, env.written? r name = some written →
    ∃ v, Json.read written = .ok v

def given? (env : Environment) (r : Reading) (name : String) : Option Value :=
  (env.fieldValue r name).toOption.join

variable {env : Environment} {r : Reading} {name : String} {f : Failure}

theorem exists_fieldValue (readable : env.Readable r) (name : String) :
    ∃ v, env.fieldValue r name = .ok v := by
  rw [fieldValue]
  cases given : env.written? r name with
  | none => exact ⟨none, rfl⟩
  | some written =>
    dsimp only
    by_cases listed : structured.contains name
    · obtain ⟨v, read⟩ := readable name (by simpa using listed) written given
      rw [if_pos listed, read]
      cases v <;> exact ⟨_, rfl⟩
    · rw [if_neg listed]
      exact ⟨_, rfl⟩

theorem fieldValue_eq (readable : env.Readable r) (name : String) :
    env.fieldValue r name = .ok (env.given? r name) := by
  obtain ⟨v, value⟩ := exists_fieldValue readable name
  rw [given?, value]
  rfl

theorem given?_of_unwritten (unwritten : env.written? r name = none) : env.given? r name = none := by
  rw [given?, fieldValue, unwritten]
  rfl

theorem given?_of_unstructured (plain : name ∉ structured) :
    env.given? r name = (env.written? r name).map .text := by
  rw [given?, fieldValue]
  cases env.written? r name with
  | none => rfl
  | some written =>
    dsimp only
    rw [if_neg (by simpa using plain)]
    rfl

theorem failure_of_fieldValue (failed : env.fieldValue r name = .error f) :
    f = .tooDeep ∨ f = .badVariable name := by
  rw [fieldValue] at failed
  split at failed
  · cases failed
  · split at failed
    · split at failed <;> cases failed
      · exact .inl rfl
      · exact .inr rfl
    · cases failed

def pairs (env : Environment) (r : Reading) : List (String × Value) :=
  Check.settingNames.filterMap fun name => (env.given? r name).map fun v => (name, v)

theorem fields_of_readable (readable : env.Readable r) :
    env.fields r = .ok (fieldsOf (env.pairs r)) := by
  have each : (fun name => do
      return (← env.fieldValue r name).map fun v => (Value.text name, v)) =
      fun name => (pure ((env.given? r name).map fun v => (Value.text name, v)) : Except Failure _) := by
    funext name
    rw [fieldValue_eq readable]
    rfl
  have named : (Check.settingNames.map fun name =>
      (env.given? r name).map fun v => (Value.text name, v)).filterMap id = fieldsOf (env.pairs r) := by
    rw [fieldsOf, pairs, List.map_filterMap, List.filterMap_map]
    congr 1
    funext name
    rw [Function.comp, Option.map_map]
    rfl
  rw [fields, each, List.mapM_pure, ← named]
  rfl

theorem failure_of_fields (failed : env.fields r = .error f) :
    f = .tooDeep ∨ ∃ name, f = .badVariable name := by
  rw [fields] at failed
  obtain found | ⟨_, -, failed⟩ := bind_eq_error_iff.1 failed
  · obtain ⟨name, -, wrong⟩ := exists_of_mapM_eq_error found
    obtain value | ⟨_, -, wrong⟩ := bind_eq_error_iff.1 wrong
    · exact (failure_of_fieldValue value).imp_right fun same => ⟨name, same⟩
    · cases wrong
  · cases failed

theorem mem_settingNames_of_structured : ∀ name ∈ structured, name ∈ Check.settingNames := by decide

theorem readable_of_fields {given : List (Value × Value)} (read : env.fields r = .ok given) :
    env.Readable r := by
  intro name listed written there
  rw [fields] at read
  obtain ⟨values, found, -⟩ := bind_eq_ok_iff.1 read
  obtain ⟨item, each⟩ :=
    exists_of_mapM_eq_ok found name (mem_settingNames_of_structured name listed)
  obtain ⟨v, value, -⟩ := bind_eq_ok_iff.1 each
  rw [fieldValue, there] at value
  dsimp only at value
  rw [if_pos (by simpa using listed)] at value
  cases parsed : Json.read written with
  | ok v => exact ⟨v, rfl⟩
  | error refusal =>
    rw [parsed] at value
    cases refusal <;> cases value

theorem fields_eq_ok_iff {given : List (Value × Value)} :
    env.fields r = .ok given ↔ env.Readable r ∧ given = fieldsOf (env.pairs r) := by
  constructor
  · intro read
    have readable := readable_of_fields read
    rw [fields_of_readable readable] at read
    exact ⟨readable, (Except.ok.inj read).symm⟩
  · rintro ⟨readable, rfl⟩
    exact fields_of_readable readable

theorem lookup_filterMap (told : String → Option Value) (n : String) (names : List String) :
    (names.filterMap fun name => (told name).map fun v => (name, v)).lookup n =
      if n ∈ names then told n else none := by
  induction names with
  | nil => rfl
  | cons name rest ih =>
    by_cases same : n = name
    · subst same
      cases said : told n with
      | none => simp [said, ih]
      | some v => simp [said]
    · have other : (n == name) = false := by simpa using same
      cases said : told name with
      | none => simp [said, ih, same]
      | some v => simp [said, ih, same, other, List.lookup_cons]

theorem lookup_pairs (env : Environment) (r : Reading) (name : String) :
    lookup name (fieldsOf (env.pairs r)) =
      if name ∈ Check.settingNames then env.given? r name else none := by
  rw [lookup_fieldsOf]
  exact lookup_filterMap _ _ _

end Environment

end ProtoModules
