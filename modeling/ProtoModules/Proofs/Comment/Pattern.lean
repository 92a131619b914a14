import ProtoModules.Comment.Pattern
import ProtoModules.Proofs.Text.Lines

/-! Patterns as lists of names. A declaration and a pattern are names joined with dots; cut at the dots
they are lists, and the tests on the beginning and the end of the text compare whole names: an
anchored pattern is matched by the lists that begin with its names, any other by those that end
in them. -/

namespace ProtoModules.Comment.Pattern
open Text

structure DottedPath where
  names : List (List Char)
  present : names ≠ []
  whole : ∀ name ∈ names, name ≠ [] ∧ '.' ∉ name

namespace DottedPath

def text (p : DottedPath) : List Char := joinWith '.' p.names

theorem splitOn_text (p : DottedPath) : splitOn '.' p.text = p.names :=
  splitOn_joinWith p.present fun name member => (p.whole name member).2

theorem exists_text (p : DottedPath) : ∃ c rest, p.text = c :: rest ∧ c ≠ '.' := by
  obtain ⟨name, more, names⟩ := List.exists_cons_of_ne_nil p.present
  obtain ⟨some, plain⟩ := p.whole name (by simp [names])
  obtain ⟨c, rest, rfl⟩ := List.exists_cons_of_ne_nil some
  have other : c ≠ '.' := fun same => plain (same ▸ List.mem_cons_self)
  cases more with
  | nil => exact ⟨c, rest, by rw [text, names]; rfl, other⟩
  | cons next more => exact ⟨c, _, by rw [text, names]; rfl, other⟩

end DottedPath

variable {p d : DottedPath}

/-- Behind a dot every path ends, so it begins with those that its names begin with. -/
theorem closed_prefix_iff : p.text ++ ['.'] <+: d.text ++ ['.'] ↔ p.names <+: d.names := by
  constructor
  · rintro ⟨rest, whole⟩
    have cut : d.names ++ [[]] = p.names ++ splitOn '.' rest := by
      calc d.names ++ [[]]
          = splitOn '.' (d.text ++ '.' :: []) := by rw [splitOn_append_cons, d.splitOn_text]; rfl
        _ = splitOn '.' (p.text ++ '.' :: rest) := by rw [← whole, List.append_assoc]; rfl
        _ = p.names ++ splitOn '.' rest := by rw [splitOn_append_cons, p.splitOn_text]
    obtain ⟨pieces, last, shape⟩ :=
      (List.eq_nil_or_concat' (splitOn '.' rest)).resolve_left (splitOn_ne_nil '.' rest)
    rw [shape, ← List.append_assoc] at cut
    exact ⟨pieces, (List.append_inj' cut rfl).1.symm⟩
  · rintro ⟨more, names⟩
    cases more with
    | nil =>
      have same : p.text = d.text := by
        rw [DottedPath.text, DottedPath.text, ← names, List.append_nil]
      exact same ▸ List.prefix_rfl
    | cons next more =>
      refine ⟨joinWith '.' (next :: more) ++ ['.'], ?_⟩
      rw [DottedPath.text, DottedPath.text, ← names, joinWith_append p.present (by simp)]
      simp

theorem opened_suffix_iff : '.' :: p.text <:+ '.' :: d.text ↔ p.names <:+ d.names := by
  constructor
  · rintro ⟨front, whole⟩
    have cut : splitOn '.' front ++ p.names = [] :: d.names := by
      calc splitOn '.' front ++ p.names
          = splitOn '.' (front ++ '.' :: p.text) := by rw [splitOn_append_cons, p.splitOn_text]
        _ = [] :: d.names := by rw [whole, splitOn_cons_self, d.splitOn_text]
    obtain ⟨first, pieces, shape⟩ := List.exists_cons_of_ne_nil (splitOn_ne_nil '.' front)
    rw [shape, List.cons_append] at cut
    exact ⟨pieces, (List.cons.inj cut).2⟩
  · rintro ⟨front, names⟩
    by_cases none : front = []
    · have same : p.text = d.text := by
        rw [DottedPath.text, DottedPath.text, ← names, none, List.nil_append]
      exact same ▸ List.suffix_rfl
    · refine ⟨'.' :: joinWith '.' front, ?_⟩
      rw [DottedPath.text, DottedPath.text, ← names, joinWith_append none p.present]
      rfl

theorem covers_anchored_iff :
    covers ('.' :: p.text) d.text = true ↔ p.names <+: d.names := by
  obtain ⟨c, rest, shape, -⟩ := p.exists_text
  have long : '.' :: p.text ≠ ['.'] := by simp [shape]
  rw [covers, if_neg long, ← closed_prefix_iff, List.prefix_concat_iff]
  simp only [Bool.or_eq_true, beq_iff_eq, List.isPrefixOf_iff_prefix, List.append_left_inj]
  exact or_congr_left eq_comm

theorem covers_ending_iff : covers p.text d.text = true ↔ p.names <:+ d.names := by
  obtain ⟨c, rest, shape, other⟩ := p.exists_text
  have plain : covers p.text d.text =
      (d.text == p.text || ('.' :: p.text).isSuffixOf d.text) := by
    unfold covers
    rw [if_neg (by simp [shape, other])]
    split
    · rename_i same
      rw [shape] at same
      exact absurd (List.cons.inj same).1 other
    · rfl
  rw [plain, ← opened_suffix_iff, List.suffix_cons_iff]
  simp only [Bool.or_eq_true, beq_iff_eq, List.isSuffixOf_iff_suffix, List.cons.injEq, true_and]
  exact or_congr_left eq_comm

theorem disables_singleton (pattern declaration : List Char) :
    disables [pattern] declaration = covers pattern declaration := by
  simp [disables]

/-- An anchored pattern disables the declarations that its names begin, any other pattern those that
its names end; a dot disables all, and several patterns what one of them does. -/
theorem disables_path_iff (p d : DottedPath) :
    (disables ['.' :: p.text] d.text = true ↔ p.names <+: d.names) ∧
    (disables [p.text] d.text = true ↔ p.names <:+ d.names) ∧
    disables [['.']] d.text = true ∧
    ∀ patterns : List (List Char), disables patterns d.text = true ↔
      ∃ pattern ∈ patterns, disables [pattern] d.text = true := by
  simp only [disables_singleton]
  refine ⟨covers_anchored_iff, covers_ending_iff, by simp [covers], fun patterns => ?_⟩
  exact List.any_eq_true

def message : DottedPath := ⟨["p".toList, "Message".toList], by simp, by decide⟩

def field : DottedPath := ⟨["p".toList, "Message".toList, "name".toList], by simp, by decide⟩

theorem disables_path_of_field :
    disables [".p.Message".toList] "p.Message.name".toList = true ∧
    disables ["p.Message".toList] "p.Message.name".toList = false := by
  obtain ⟨anchored, ending, -⟩ := disables_path_iff message field
  exact ⟨anchored.2 (by decide), Bool.eq_false_iff.2 (mt ending.1 (by decide))⟩

/-- A name that a pattern ends within is another name. -/
example : disables [".p.Message".toList] "p.MessageTwo".toList = false ∧
    disables ["field".toList] "p.Message.other_field".toList = false := by decide

end ProtoModules.Comment.Pattern
