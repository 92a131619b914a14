import Mathlib.Data.List.Basic
import ProtoModules.Text.Lines

/-! Cutting a text into lines and joining lines undo each other. A text has at least one line and no
line of it holds a newline; any lines of that kind are the lines of the text that they make up. -/

namespace ProtoModules.Text

theorem holds_iff (part s : List Char) : holds part s = true ↔ part <:+: s := by
  induction s with
  | nil => simp [holds]
  | cons c rest ih =>
    rw [holds, Bool.or_eq_true, ih, List.isPrefixOf_iff_prefix, List.infix_cons_iff]

theorem splitOn_ne_nil (separator : Char) (s : List Char) : splitOn separator s ≠ [] :=
  splitWhere_ne_nil _ s

theorem splitOn_cons_self (separator : Char) (s : List Char) :
    splitOn separator (separator :: s) = [] :: splitOn separator s := by
  simp [splitOn, splitWhere]

theorem splitOn_cons_of_ne {separator c : Char} (other : c ≠ separator) {s : List Char}
    {piece : List Char} {pieces : List (List Char)} (cut : splitOn separator s = piece :: pieces) :
    splitOn separator (c :: s) = (c :: piece) :: pieces := by
  have plain : (c == separator) = false := by simpa using other
  simp only [splitOn] at cut
  simp [splitOn, splitWhere, plain, cut]

theorem separator_notMem_of_mem_splitOn {separator : Char} {s piece : List Char}
    (member : piece ∈ splitOn separator s) : separator ∉ piece := by
  induction s generalizing piece with
  | nil =>
    have empty : piece = [] := by simpa [splitOn, splitWhere] using member
    simp [empty]
  | cons c rest ih =>
    by_cases same : c = separator
    · subst same
      rw [splitOn_cons_self] at member
      rcases List.mem_cons.1 member with rfl | later
      · simp
      · exact ih later
    · obtain ⟨first, pieces, cut⟩ := List.exists_cons_of_ne_nil (splitOn_ne_nil separator rest)
      rw [splitOn_cons_of_ne same cut] at member
      rcases List.mem_cons.1 member with rfl | later
      · have clean := ih (cut ▸ List.mem_cons_self)
        simp [Ne.symm same, clean]
      · exact ih (cut ▸ List.mem_cons_of_mem _ later)

theorem splitOn_of_notMem {separator : Char} {s : List Char} (clean : separator ∉ s) :
    splitOn separator s = [s] := by
  induction s with
  | nil => rfl
  | cons c rest ih =>
    simp only [List.mem_cons, not_or] at clean
    exact splitOn_cons_of_ne (Ne.symm clean.1) (ih clean.2)

theorem splitOn_append_separator {separator : Char} {piece : List Char} (clean : separator ∉ piece)
    (s : List Char) :
    splitOn separator (piece ++ separator :: s) = piece :: splitOn separator s := by
  induction piece with
  | nil => exact splitOn_cons_self separator s
  | cons c rest ih =>
    simp only [List.mem_cons, not_or] at clean
    exact splitOn_cons_of_ne (Ne.symm clean.1) (ih clean.2)

theorem splitOn_append_cons (separator : Char) (s t : List Char) :
    splitOn separator (s ++ separator :: t) = splitOn separator s ++ splitOn separator t := by
  induction s with
  | nil => exact splitOn_cons_self separator t
  | cons c rest ih =>
    by_cases same : c = separator
    · subst same
      simp only [List.cons_append, splitOn_cons_self, ih]
    · obtain ⟨piece, pieces, cut⟩ := List.exists_cons_of_ne_nil (splitOn_ne_nil separator rest)
      rw [cut, List.cons_append] at ih
      rw [List.cons_append, splitOn_cons_of_ne same ih, splitOn_cons_of_ne same cut,
        List.cons_append]

theorem splitOn_append_of_notMem {separator : Char} {behind : List Char}
    (clean : separator ∉ behind) (s : List Char) :
    ∃ pieces last, splitOn separator s = pieces ++ [last] ∧
      splitOn separator (s ++ behind) = pieces ++ [last ++ behind] := by
  induction s with
  | nil => exact ⟨[], [], rfl, splitOn_of_notMem clean⟩
  | cons c rest ih =>
    obtain ⟨pieces, last, own, longer⟩ := ih
    by_cases same : c = separator
    · subst same
      exact ⟨[] :: pieces, last, by rw [splitOn_cons_self, own]; rfl,
        by rw [List.cons_append, splitOn_cons_self, longer]; rfl⟩
    · cases pieces with
      | nil =>
        exact ⟨[], c :: last, splitOn_cons_of_ne same own, splitOn_cons_of_ne same longer⟩
      | cons piece pieces =>
        exact ⟨(c :: piece) :: pieces, last, splitOn_cons_of_ne same own,
          splitOn_cons_of_ne same longer⟩

theorem joinWith_cons_cons (separator : Char) (piece next : List Char) (pieces : List (List Char)) :
    joinWith separator (piece :: next :: pieces) =
      piece ++ separator :: joinWith separator (next :: pieces) := rfl

theorem joinWith_append {separator : Char} {first second : List (List Char)} (some : first ≠ [])
    (more : second ≠ []) :
    joinWith separator (first ++ second) =
      joinWith separator first ++ separator :: joinWith separator second := by
  induction first with
  | nil => exact absurd rfl some
  | cons piece rest ih =>
    cases rest with
    | nil =>
      obtain ⟨next, pieces, rfl⟩ := List.exists_cons_of_ne_nil more
      rfl
    | cons next pieces =>
      have later := ih (by simp)
      rw [List.cons_append] at later
      rw [List.cons_append, List.cons_append, joinWith_cons_cons, later, joinWith_cons_cons,
        List.append_assoc, List.cons_append]

theorem joinWith_nil_cons (separator : Char) {pieces : List (List Char)} (present : pieces ≠ []) :
    joinWith separator ([] :: pieces) = separator :: joinWith separator pieces := by
  obtain ⟨piece, more, rfl⟩ := List.exists_cons_of_ne_nil present
  rfl

theorem map_joinWith (f : Char → Char) (separator : Char) (ps : List (List Char)) :
    (joinWith separator ps).map f = joinWith (f separator) (ps.map (List.map f)) := by
  induction ps with
  | nil => rfl
  | cons piece rest ih =>
    cases rest with
    | nil => rfl
    | cons next more =>
      rw [joinWith_cons_cons, List.map_append, List.map_cons, ih]
      rfl

theorem filter_joinWith {separator : Char} {ps : List (List Char)}
    (clean : ∀ piece ∈ ps, separator ∉ piece) :
    (joinWith separator ps).filter (· != separator) = ps.flatten := by
  induction ps with
  | nil => rfl
  | cons piece rest ih =>
    have own : piece.filter (· != separator) = piece := by
      refine List.filter_eq_self.2 fun c member => ?_
      have other : c ≠ separator := fun same => clean piece List.mem_cons_self (same ▸ member)
      simpa using other
    have later := ih fun p member => clean p (List.mem_cons_of_mem piece member)
    cases rest with
    | nil => simpa [joinWith] using own
    | cons next more =>
      rw [joinWith_cons_cons, List.filter_append, List.filter_cons_of_neg (by simp), later, own]
      rfl

theorem splitOn_joinWith {separator : Char} {pieces : List (List Char)} (present : pieces ≠ [])
    (clean : ∀ piece ∈ pieces, separator ∉ piece) :
    splitOn separator (joinWith separator pieces) = pieces := by
  induction pieces with
  | nil => exact absurd rfl present
  | cons piece rest ih =>
    have first := clean piece List.mem_cons_self
    cases rest with
    | nil => exact splitOn_of_notMem first
    | cons next more =>
      rw [joinWith_cons_cons, splitOn_append_separator first,
        ih (by simp) fun p member => clean p (List.mem_cons_of_mem _ member)]

theorem lines_ne_nil (s : List Char) : lines s ≠ [] := splitOn_ne_nil '\n' s

theorem newline_notMem_of_mem_lines {s : List Char} {line : Line} (member : line ∈ lines s) :
    '\n' ∉ line :=
  separator_notMem_of_mem_splitOn member

theorem lines_unlines {ls : List Line} (present : ls ≠ []) (clean : ∀ line ∈ ls, '\n' ∉ line) :
    lines (unlines ls) = ls :=
  splitOn_joinWith present clean

theorem prefix_of_prefix_append_cons {word first second : List Char} {c : Char} (whole : c ∉ word)
    (begins : word <+: first ++ c :: second) : word <+: first := by
  rcases List.prefix_or_prefix_of_prefix begins (List.prefix_append first _) with within | ⟨rest, rfl⟩
  · exact within
  · rw [List.prefix_append_right_inj] at begins
    cases rest with
    | nil => simp
    | cons d more =>
      obtain ⟨rfl, -⟩ := List.cons_prefix_cons.1 begins
      simp at whole

theorem infix_append_cons_iff {word first second : List Char} {c : Char} (whole : c ∉ word) :
    word <:+: first ++ c :: second ↔ word <:+: first ∨ word <:+: second := by
  induction first with
  | nil =>
    rw [List.nil_append, List.infix_cons_iff, List.infix_nil]
    refine or_congr_left ⟨fun begins => ?_, fun none => by simp [none]⟩
    have none : word <+: [] := prefix_of_prefix_append_cons whole begins
    exact List.prefix_nil.1 none
  | cons d rest ih =>
    rw [List.cons_append, List.infix_cons_iff, List.infix_cons_iff, ih, or_assoc]
    refine or_congr_left ⟨fun begins => ?_, fun begins => ?_⟩
    · exact prefix_of_prefix_append_cons whole begins
    · exact begins.trans (List.prefix_append (d :: rest) _)

theorem infix_unlines_iff {word : List Char} (present : word ≠ []) (whole : '\n' ∉ word)
    (ls : List Line) : word <:+: unlines ls ↔ ∃ line ∈ ls, word <:+: line := by
  induction ls with
  | nil => simp [unlines, joinWith, present]
  | cons line rest ih =>
    cases rest with
    | nil => simp [unlines, joinWith]
    | cons next more =>
      have cut : unlines (line :: next :: more) = line ++ '\n' :: unlines (next :: more) := rfl
      rw [cut, infix_append_cons_iff whole, ih]
      simp

end ProtoModules.Text
