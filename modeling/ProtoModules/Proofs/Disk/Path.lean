import Mathlib.Order.Lattice
import ProtoModules.Disk.Path
import ProtoModules.Proofs.Text.Lines

/-! Reading paths. What is read is made of parts: texts that are not empty, not a single dot and hold no
slash. A part reads as itself and is put behind a path by joining, so a path written out part by
part has just these parts behind those of its first text. -/

namespace ProtoModules.Disk.Path
open Text

structure IsPart (s : List Char) : Prop where
  present : s ≠ []
  noDot : s ≠ ['.']
  whole : '/' ∉ s

theorem isName_iff {s : List Char} : isName s = true ↔ IsPart s ∧ s ≠ upward := by
  simp only [isName, Bool.and_eq_true, Bool.not_eq_true', List.isEmpty_eq_false_iff, bne_iff_ne,
    List.contains_eq_mem, decide_eq_false_iff_not]
  constructor
  · rintro ⟨⟨⟨present, noDot⟩, noStep⟩, whole⟩
    exact ⟨⟨present, noDot, whole⟩, noStep⟩
  · rintro ⟨⟨present, noDot, whole⟩, noStep⟩
    exact ⟨⟨⟨present, noDot⟩, noStep⟩, whole⟩

theorem isPart_of_isName {s : List Char} (named : isName s = true) : IsPart s :=
  (isName_iff.1 named).1

theorem isPart_of_mem_namesOf {s name : List Char} (member : name ∈ namesOf s) : IsPart name := by
  obtain ⟨piece, kept⟩ := List.mem_filter.1 member
  simp only [Bool.and_eq_true, Bool.not_eq_true', List.isEmpty_eq_false_iff, bne_iff_ne] at kept
  exact ⟨kept.1, kept.2, separator_notMem_of_mem_splitOn piece⟩

theorem rootOf_cons_of_ne {c : Char} (other : c ≠ '/') (rest : List Char) :
    rootOf (c :: rest) = [] := by
  unfold rootOf
  split <;> simp_all

theorem rootOf_of_notMem {s : List Char} (whole : '/' ∉ s) : rootOf s = [] := by
  cases s with
  | nil => rfl
  | cons c rest =>
    refine rootOf_cons_of_ne ?_ rest
    rintro rfl
    simp at whole

theorem parse_of_notMem {s : List Char} (whole : '/' ∉ s) : parse s = ⟨[], namesOf s⟩ := by
  rw [parse, rootOf_of_notMem whole]

theorem IsPart.namesOf_eq {s : List Char} (part : IsPart s) : namesOf s = [s] := by
  rw [namesOf, splitOn_of_notMem part.whole]
  simp [part.present, part.noDot]

theorem IsPart.parse {s : List Char} (part : IsPart s) : parse s = ⟨[], [s]⟩ := by
  rw [parse_of_notMem part.whole, part.namesOf_eq]

theorem join_of_free (p : Path) {q : Path} (free : q.root = []) :
    p.join q = ⟨p.root, p.names ++ q.names⟩ := by
  simp [join, free]

theorem working_join (q : Path) : working.join q = q := by
  obtain ⟨root, names⟩ := q
  cases root <;> rfl

theorem foldl_join_parts {parts : List (List Char)} (good : ∀ s ∈ parts, IsPart s) (p : Path) :
    parts.foldl (fun p s => p.join (parse s)) p = ⟨p.root, p.names ++ parts⟩ := by
  induction parts generalizing p with
  | nil => simp
  | cons s rest ih =>
    have first := good s List.mem_cons_self
    rw [List.foldl_cons, first.parse, join_of_free p rfl,
      ih fun t member => good t (List.mem_cons_of_mem _ member)]
    simp

theorem ofTexts_cons (s : List Char) {parts : List (List Char)} (good : ∀ t ∈ parts, IsPart t) :
    ofTexts (s :: parts) = ⟨(parse s).root, (parse s).names ++ parts⟩ := by
  rw [ofTexts, List.foldl_cons, working_join, foldl_join_parts good]

theorem ofTexts_singleton (s : List Char) : ofTexts [s] = parse s := working_join _

theorem ofTexts_parts {parts : List (List Char)} (good : ∀ s ∈ parts, IsPart s) :
    ofTexts parts = ⟨[], parts⟩ := by
  rw [ofTexts, foldl_join_parts good]
  rfl

def Proper (p : Path) : Prop := ∀ name ∈ p.names, IsPart name

theorem proper_parse (s : List Char) : (parse s).Proper := fun _ => isPart_of_mem_namesOf

/-- A path that goes up nowhere. -/
def Plain (p : Path) : Prop := ∀ name ∈ p.names, isName name = true

instance (p : Path) : Decidable p.Plain := inferInstanceAs (Decidable (∀ name ∈ p.names, _))

theorem Plain.proper {p : Path} (plain : p.Plain) : p.Proper := fun name member =>
  isPart_of_isName (plain name member)

theorem Plain.upward_notMem {p : Path} (plain : p.Plain) : upward ∉ p.names := fun member =>
  (isName_iff.1 (plain _ member)).2 rfl

theorem Plain.of_above {p : Path} (plain : p.Plain) {names : List Name}
    (above : names <+: p.names) : Plain ⟨p.root, names⟩ :=
  fun _ member => plain _ (above.subset member)

/-- A plain path that is not anchored. -/
structure Relative (p : Path) : Prop where
  free : p.root = []
  plain : p.Plain

theorem relative_iff {p : Path} : p.Relative ↔ p.root = [] ∧ p.Plain :=
  ⟨fun own => ⟨own.free, own.plain⟩, fun ⟨free, plain⟩ => ⟨free, plain⟩⟩

instance (p : Path) : Decidable p.Relative := decidable_of_iff' _ relative_iff

theorem Relative.eq_mk {p : Path} (own : p.Relative) : p = ⟨[], p.names⟩ := by
  obtain ⟨root, names⟩ := p
  obtain rfl : root = [] := own.free
  rfl

theorem Relative.of_above {p : Path} (own : p.Relative) {names : List Name}
    (above : names <+: p.names) : Relative ⟨p.root, names⟩ :=
  ⟨own.free, own.plain.of_above above⟩

theorem Plain.join {p q : Path} (first : p.Plain) (second : q.Plain) : (p.join q).Plain := by
  rw [Path.join]
  split
  · intro name member
    rcases List.mem_append.1 member with above | below
    · exact first name above
    · exact second name below
  · exact second

theorem name_mem {p : Path} (present : p.names ≠ []) : p.name ∈ p.names := by
  rw [name, List.getLast?_eq_some_getLast present, Option.getD_some]
  exact List.getLast_mem present

theorem plain_parse {s : List Char} (level : upward ∉ namesOf s) : (parse s).Plain :=
  fun _ member => isName_iff.2 ⟨isPart_of_mem_namesOf member, fun step => level (step ▸ member)⟩

theorem IsPart.rootOf_joinWith {s : List Char} (part : IsPart s) (rest : List (List Char)) :
    rootOf (joinWith '/' (s :: rest)) = [] := by
  obtain ⟨c, more, rfl⟩ := List.exists_cons_of_ne_nil part.present
  have other : c ≠ '/' := by
    rintro rfl
    exact part.whole List.mem_cons_self
  cases rest <;> exact rootOf_cons_of_ne other _

theorem namesOf_joinWith {names : List Name} (proper : ∀ name ∈ names, IsPart name)
    (present : names ≠ []) : namesOf (joinWith '/' names) = names := by
  rw [namesOf, splitOn_joinWith present fun part member => (proper part member).whole]
  refine List.filter_eq_self.2 fun part member => ?_
  simp [(proper part member).present, (proper part member).noDot]

theorem rootOf_cases (s : List Char) : rootOf s = [] ∨ rootOf s = ['/'] ∨ rootOf s = ['/', '/'] := by
  rw [rootOf.eq_def]
  split <;> simp

theorem rootOf_rootOf (s : List Char) : rootOf (rootOf s) = rootOf s := by
  rcases rootOf_cases s with none | one | two
  · rw [none]
    rfl
  · rw [one]
    rfl
  · rw [two]
    rfl

theorem namesOf_cons_slash (s : List Char) : namesOf ('/' :: s) = namesOf s := by
  simp [namesOf, splitOn_cons_self]

theorem parse_append {root s : List Char} (slashes : rootOf root = root) (free : rootOf s = []) :
    parse (root ++ s) = ⟨root, namesOf s⟩ := by
  -- the slashes of the root end where the rest begins
  have other : ∀ more, s ≠ '/' :: more := by
    rintro more rfl
    rw [rootOf.eq_def] at free
    split at free <;> simp_all
  rcases rootOf_cases root with none | one | two
  · obtain rfl : root = [] := slashes.symm.trans none
    rw [List.nil_append, parse, free]
  · obtain rfl : root = ['/'] := slashes.symm.trans one
    have anchored : rootOf ('/' :: s) = ['/'] := by simp [rootOf, other]
    rw [List.singleton_append, parse, anchored, namesOf_cons_slash]
  · obtain rfl : root = ['/', '/'] := slashes.symm.trans two
    have anchored : rootOf ('/' :: '/' :: s) = ['/', '/'] := by simp [rootOf]
    rw [List.cons_append, List.singleton_append, parse, anchored, namesOf_cons_slash,
      namesOf_cons_slash]

theorem Proper.parse_toText {p : Path} (proper : p.Proper) (slashes : rootOf p.root = p.root) :
    Path.parse p.toText = p := by
  obtain ⟨root, names⟩ := p
  cases names with
  | nil =>
    rcases rootOf_cases root with none | one | two
    · obtain rfl : root = [] := slashes.symm.trans none
      decide
    · obtain rfl : root = ['/'] := slashes.symm.trans one
      decide
    · obtain rfl : root = ['/', '/'] := slashes.symm.trans two
      decide
  | cons name rest =>
    have first : IsPart name := proper name List.mem_cons_self
    have text : Path.toText ⟨root, name :: rest⟩ = root ++ joinWith '/' (name :: rest) := by
      rw [toText]
      split
      · rename_i empty
        obtain ⟨c, more, rfl⟩ := List.exists_cons_of_ne_nil first.present
        cases rest <;> simp [joinWith] at empty
      · rfl
    rw [text, parse_append slashes (first.rootOf_joinWith rest), namesOf_joinWith proper (by simp)]

theorem parse_toText_parse (s : List Char) : Path.parse (Path.parse s).toText = Path.parse s :=
  (proper_parse s).parse_toText (rootOf_rootOf s)

theorem eq_of_toString_of_mem {texts : List String} {p q : Path} (first : p ∈ texts.map ofString)
    (second : q ∈ texts.map ofString) (same : p.toString = q.toString) : p = q := by
  obtain ⟨s, -, rfl⟩ := List.mem_map.1 first
  obtain ⟨t, -, rfl⟩ := List.mem_map.1 second
  have written : (ofString s).toText = (ofString t).toText := String.ofList_injective same
  rw [ofString, ofString, ← parse_toText_parse s.toList, ← parse_toText_parse t.toList]
  exact congrArg parse written

theorem Relative.parse_toText {p : Path} (own : p.Relative) : Path.parse p.toText = p :=
  own.plain.proper.parse_toText (by rw [own.free]; rfl)

theorem Relative.eq_of_toText {p q : Path} (first : p.Relative) (second : q.Relative)
    (same : p.toText = q.toText) : p = q := by
  rw [← first.parse_toText, same, second.parse_toText]

theorem Relative.eq_of_toString {p q : Path} (first : p.Relative) (second : q.Relative)
    (same : p.toString = q.toString) : p = q :=
  first.eq_of_toText second (String.ofList_injective same)

theorem pairwise_mergeSort_of_iff {α β : Type} [LinearOrder β] {le : α → α → Bool} {key : α → β}
    (order : ∀ a b, le a b = true ↔ key a ≤ key b) (xs : List α) :
    (xs.mergeSort le).Pairwise fun a b => key a ≤ key b := by
  have sorted : (xs.mergeSort le).Pairwise fun a b => le a b = true := by
    apply List.pairwise_mergeSort
    · intro a b c first second
      rw [order] at first second ⊢
      exact le_trans first second
    · intro a b
      rw [Bool.or_eq_true, order, order]
      exact le_total (key a) (key b)
  exact sorted.imp fun {a b} least => (order a b).1 least

theorem pairwise_lt_mergeSort_of_iff {α β : Type} [LinearOrder β] {le : α → α → Bool} {key : α → β}
    (order : ∀ a b, le a b = true ↔ key a ≤ key b) {xs : List α} (once : xs.Nodup)
    (apart : ∀ a ∈ xs, ∀ b ∈ xs, key a = key b → a = b) :
    (xs.mergeSort le).Pairwise fun a b => key a < key b := by
  have sorted := pairwise_mergeSort_of_iff order xs
  have distinct : (xs.mergeSort le).Pairwise (· ≠ ·) :=
    List.nodup_iff_pairwise_ne.1 ((List.mergeSort_perm _ _).nodup_iff.2 once)
  refine (sorted.and distinct).imp_of_mem fun {a b} first second both => ?_
  exact lt_of_le_of_ne both.1 fun same => both.2
    (apart a (List.mem_mergeSort.1 first) b (List.mem_mergeSort.1 second) same)

theorem mem_sorted_iff {path : Path} {paths : List Path} : path ∈ sorted paths ↔ path ∈ paths := by
  rw [sorted, (List.mergeSort_perm _ _).mem_iff, List.mem_eraseDups]

theorem eq_of_key {p q : Path} (freeP : p.root = []) (freeQ : q.root = []) (same : p.key = q.key) :
    p = q := by
  obtain ⟨root, names⟩ := p
  obtain ⟨root', names'⟩ := q
  obtain rfl : root = [] := freeP
  obtain rfl : root' = [] := freeQ
  obtain rfl : names = names' := same
  rfl

end ProtoModules.Disk.Path
