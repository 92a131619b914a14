import Mathlib.Data.List.TakeWhile
import ProtoModules.Text.Blank

/-! Trimming. A run of characters ends at the first one that is not of its kind; a text that has no blank
at either end is trimmed already, and blanks around a text make no difference. -/

namespace ProtoModules.Text

theorem takeWhile_append_stop {α : Type} {p : α → Bool} {run rest : List α}
    (inside : ∀ a ∈ run, p a = true) (stop : ∀ a ∈ rest.head?, p a = false) :
    (run ++ rest).takeWhile p = run := by
  rw [List.takeWhile_append_of_pos inside]
  cases rest with
  | nil => simp
  | cons a more => simp [stop a rfl]

theorem dropWhile_append_stop {α : Type} {p : α → Bool} {run rest : List α}
    (inside : ∀ a ∈ run, p a = true) (stop : ∀ a ∈ rest.head?, p a = false) :
    (run ++ rest).dropWhile p = rest := by
  rw [List.dropWhile_append_of_pos inside]
  cases rest with
  | nil => rfl
  | cons a more => simp [stop a rfl]

theorem dropWhile_of_stop {α : Type} {p : α → Bool} {s : List α}
    (stop : ∀ a ∈ s.head?, p a = false) : s.dropWhile p = s := by
  cases s with
  | nil => rfl
  | cons a rest => simp [stop a rfl]

theorem allBlank_eq_false_of_mem {s : List Char} {c : Char} (member : c ∈ s)
    (ink : isBlank c = false) : allBlank s = false := by
  simp only [allBlank, List.all_eq_false]
  exact ⟨c, member, by simp [ink]⟩

theorem trim_of_ink {s : List Char} (first : ∀ c ∈ s.head?, isBlank c = false)
    (last : ∀ c ∈ s.getLast?, isBlank c = false) : trim s = s := by
  have finish : s.reverse.dropWhile isBlank = s.reverse :=
    dropWhile_of_stop (by rwa [List.head?_reverse])
  rw [trim, trimStart, dropWhile_of_stop first, trimEnd, finish, List.reverse_reverse]

theorem trim_append {pad : List Char} (blank : ∀ c ∈ pad, isBlank c = true) (s : List Char) :
    trim (pad ++ s) = trim s := by
  rw [trim, trim, trimStart, List.dropWhile_append_of_pos blank, trimStart]

theorem trim_append_blank {pad : List Char} (blank : ∀ c ∈ pad, isBlank c = true) (s : List Char) :
    trim (s ++ pad) = trim s := by
  have backwards : ∀ c ∈ pad.reverse, isBlank c = true := by simpa using blank
  have gone : pad.dropWhile isBlank = [] := List.dropWhile_eq_nil_iff.2 blank
  rw [trim, trim, trimStart, trimStart, List.dropWhile_append, gone]
  split
  · rename_i none
    rw [List.isEmpty_iff] at none
    rw [none]
  · rw [trimEnd, trimEnd, List.reverse_append, List.dropWhile_append_of_pos backwards]

theorem trimEnd_cons_ink {c : Char} (ink : isBlank c = false) (s : List Char) :
    trimEnd (c :: s) = c :: trimEnd s := by
  have last : [c].dropWhile isBlank = [c] := by simp [ink]
  rw [trimEnd, trimEnd, List.reverse_cons, List.dropWhile_append, last]
  split
  · rename_i gone
    rw [List.isEmpty_iff] at gone
    simp [gone]
  · simp

theorem trimEnd_isPrefix (s : List Char) : trimEnd s <+: s := by
  rw [← List.reverse_suffix, trimEnd, List.reverse_reverse]
  exact List.dropWhile_suffix _

theorem trim_trim (s : List Char) : trim (trim s) = trim s := by
  have start := List.head?_dropWhile_not isBlank s
  have finish := List.head?_dropWhile_not isBlank (trimStart s).reverse
  refine trim_of_ink (fun c first => ?_) fun c last => ?_
  · obtain ⟨more, shape⟩ := List.head?_eq_some_iff.1 first
    obtain ⟨rest, whole⟩ := trimEnd_isPrefix (trimStart s)
    rw [show trimEnd (trimStart s) = c :: more from shape] at whole
    rw [show s.dropWhile isBlank = c :: (more ++ rest) from whole.symm] at start
    exact start
  · rw [trim, trimEnd, List.getLast?_reverse] at last
    rwa [Option.mem_def.1 last] at finish

theorem trim_eq_nil {s : List Char} (blank : allBlank s = true) : trim s = [] := by
  have gone : s.dropWhile isBlank = [] := by
    rw [List.dropWhile_eq_nil_iff]
    simpa [allBlank] using blank
  rw [trim, trimStart, gone]
  rfl

end ProtoModules.Text
