import ProtoModules.Comment.Fence
import ProtoModules.Proofs.Text.Trim

/-! The shape of the lines that open and close fences. A line opens a fence exactly if it is an
indentation, a run of the mark and an info string, so a line written for a fence, with the inert
info string or with none, opens or closes that very fence again. -/

namespace ProtoModules.Comment
open Text

theorem isBlank_of_isTabOrSpace {c : Char} (pad : isTabOrSpace c = true) : isBlank c = true := by
  simp only [isTabOrSpace, Bool.or_eq_true, beq_iff_eq] at pad
  rcases pad with rfl | rfl <;> decide

theorem indentFrom_append_ink {indent : Line} (pad : ∀ c ∈ indent, isTabOrSpace c = true)
    {c : Char} (ink : isTabOrSpace c = false) (rest : Line) (column : Nat) :
    indentFrom column (indent ++ c :: rest) = indentFrom column indent := by
  induction indent generalizing column with
  | nil =>
    simp only [isTabOrSpace, Bool.or_eq_false_iff, beq_eq_false_iff_ne] at ink
    simp [indentFrom, ink.1, ink.2]
  | cons d more ih =>
    have first := pad d List.mem_cons_self
    have tail := ih fun e member => pad e (List.mem_cons_of_mem _ member)
    simp only [isTabOrSpace, Bool.or_eq_true, beq_iff_eq] at first
    rcases first with rfl | rfl <;> simp [indentFrom, tail]

theorem indentWidth_replicate (n : Nat) : indentWidth (List.replicate n ' ') = n := by
  have run : ∀ column, indentFrom column (List.replicate n ' ') = column + n := by
    induction n with
    | zero => intro column; rfl
    | succ n ih =>
      intro column
      rw [List.replicate_succ, indentFrom, ih]
      omega
  simpa [indentWidth] using run 0

namespace Fence

structure Sound (f : Fence) : Prop where
  indent : ∀ c ∈ f.indent, isTabOrSpace c = true
  mark : f.mark = backtick ∨ f.mark = '~'
  size : 3 ≤ f.size

def markerLine (f : Fence) (tail : Line) : Line := f.indent ++ f.marker ++ tail

theorem inertOpener_eq (f : Fence) : f.inertOpener = f.markerLine inert := rfl

theorem closer_eq (f : Fence) : f.closer = f.markerLine [] := by simp [closer, markerLine]

namespace Sound

variable {f : Fence}

theorem mark_ink (sound : f.Sound) : isBlank f.mark = false := by
  rcases sound.mark with h | h <;> rw [h] <;> decide

theorem mark_not_pad (sound : f.Sound) : isTabOrSpace f.mark = false := by
  rcases sound.mark with h | h <;> rw [h] <;> decide

theorem marker_eq (sound : f.Sound) : f.marker = f.mark :: List.replicate (f.size - 1) f.mark := by
  have positive := sound.size
  obtain ⟨n, h⟩ : ∃ n, f.size = n + 1 := ⟨f.size - 1, by omega⟩
  rw [marker, h, List.replicate_succ, Nat.add_sub_cancel]

theorem markerLine_eq (sound : f.Sound) (tail : Line) :
    f.markerLine tail = f.indent ++ f.mark :: (List.replicate (f.size - 1) f.mark ++ tail) := by
  rw [markerLine, sound.marker_eq]
  simp

theorem indentWidth_markerLine (sound : f.Sound) (tail : Line) :
    indentWidth (f.markerLine tail) = indentWidth f.indent := by
  rw [sound.markerLine_eq]
  exact indentFrom_append_ink sound.indent sound.mark_not_pad _ 0

theorem markerLine_not_blank (sound : f.Sound) (tail : Line) :
    allBlank (f.markerLine tail) = false := by
  refine allBlank_eq_false_of_mem (c := f.mark) ?_ sound.mark_ink
  rw [sound.markerLine_eq]
  simp

theorem newline_notMem_markerLine (sound : f.Sound) {tail : Line} (clean : '\n' ∉ tail) :
    '\n' ∉ f.markerLine tail := by
  have padClean : '\n' ∉ f.indent := fun member => by
    have := sound.indent _ member
    exact absurd this (by decide)
  have markClean : '\n' ≠ f.mark := by
    rcases sound.mark with h | h <;> rw [h] <;> decide
  simp [markerLine, marker, padClean, markClean, clean]

theorem trim_closer (sound : f.Sound) : trim f.closer = f.marker := by
  have ink : ∀ c ∈ f.marker, isBlank c = false := by
    intro c member
    rw [List.eq_of_mem_replicate member]
    exact sound.mark_ink
  rw [closer, trim_append fun c member => isBlank_of_isTabOrSpace (sound.indent c member)]
  exact trim_of_ink (fun c h => ink c (List.mem_of_mem_head? h))
    fun c h => ink c (List.mem_of_mem_getLast? h)

theorem closes_closer {base : Nat} (sound : f.Sound) (shallow : indentWidth f.indent < base + 4) :
    f.closes base f.closer = true := by
  have width : indentWidth f.closer = indentWidth f.indent := by
    rw [closer_eq, sound.indentWidth_markerLine]
  have same : ∀ c ∈ f.marker, (c == f.mark) = true := by
    intro c member
    simp [List.eq_of_mem_replicate member]
  have run : f.marker.takeWhile (· == f.mark) = f.marker := List.takeWhile_eq_self_iff.2 same
  have behind : f.marker.dropWhile (· == f.mark) = [] := List.dropWhile_eq_nil_iff.2 same
  simp only [closes, sound.trim_closer, run, behind, isDeep, width]
  simp [marker, allBlank]
  omega

end Sound

theorem eq_of_open? {base : Nat} {line : Line} {f : Fence} (opens : open? base line = some f) :
    isDeep base line = false ∧ ∃ mark rest, line.dropWhile isTabOrSpace = mark :: rest ∧
      (mark = backtick ∨ mark = '~') ∧ 2 ≤ (rest.takeWhile (· == mark)).length ∧
      ¬ (mark = backtick ∧ backtick ∈ trim (rest.dropWhile (· == mark))) ∧
      f = ⟨line.takeWhile isTabOrSpace, mark, (rest.takeWhile (· == mark)).length + 1,
        trim (rest.dropWhile (· == mark))⟩ := by
  unfold open? at opens
  split at opens
  · contradiction
  rename_i shallow
  split at opens
  · contradiction
  rename_i mark rest ink
  split at opens
  case isFalse => contradiction
  rename_i marks
  simp only [Bool.or_eq_true, beq_iff_eq] at marks
  dsimp only at opens
  split at opens
  · contradiction
  rename_i fits
  simp only [Bool.or_eq_true, decide_eq_true_eq, Bool.and_eq_true, beq_iff_eq,
    List.contains_iff_mem, not_or, not_lt] at fits
  obtain ⟨long, plain⟩ := fits
  exact ⟨by simpa using shallow, mark, rest, ink, marks, long, plain, (Option.some.inj opens).symm⟩

theorem markerLine_of_open? {base : Nat} {line : Line} {f : Fence}
    (opens : open? base line = some f) :
    indentWidth f.indent < base + 4 ∧ f.Sound ∧
      ∃ tail, line = f.markerLine tail ∧ tail.head? ≠ some f.mark ∧ f.info = trim tail ∧
        ¬ (f.mark = backtick ∧ backtick ∈ f.info) := by
  obtain ⟨shallow, mark, rest, ink, marks, long, plain, same⟩ := eq_of_open? opens
  have whole : line.takeWhile isTabOrSpace ++ mark :: rest = line := by
    rw [← ink, List.takeWhile_append_dropWhile]
  have run : rest.takeWhile (· == mark)
      = List.replicate (rest.takeWhile (· == mark)).length mark := by
    refine List.eq_replicate_of_mem fun c member => ?_
    simpa using List.mem_takeWhile_imp member
  have sound : f.Sound := by
    rw [same]
    exact ⟨fun c member => List.mem_takeWhile_imp member, marks, by simpa using long⟩
  have shape : line = f.markerLine (rest.dropWhile (· == mark)) := by
    rw [sound.markerLine_eq, same, Nat.add_sub_cancel]
    dsimp only
    rw [← run, List.takeWhile_append_dropWhile, whole]
  refine ⟨?_, sound, _, shape, ?_, by rw [same], by rw [same]; exact plain⟩
  · rw [← sound.indentWidth_markerLine, ← shape]
    simpa [isDeep] using shallow
  · intro first
    have stop := List.head?_dropWhile_not (· == mark) rest
    rw [first, same] at stop
    simp at stop

theorem open?_markerLine {base : Nat} {f : Fence} (sound : f.Sound)
    (shallow : indentWidth f.indent < base + 4) {tail : Line} (ends : tail.head? ≠ some f.mark)
    (plain : ¬ (f.mark = backtick ∧ backtick ∈ trim tail)) :
    open? base (f.markerLine tail) = some { f with info := trim tail } := by
  have width : isDeep base (f.markerLine tail) = false := by
    rw [isDeep, sound.indentWidth_markerLine]
    simpa using shallow
  have ink : ∀ c ∈ (f.mark :: (List.replicate (f.size - 1) f.mark ++ tail)).head?,
      isTabOrSpace c = false := by
    simpa using sound.mark_not_pad
  have same : ∀ c ∈ List.replicate (f.size - 1) f.mark, (c == f.mark) = true := by
    intro c member
    simp [List.eq_of_mem_replicate member]
  have stop : ∀ c ∈ tail.head?, (c == f.mark) = false := by
    intro c first
    rw [Option.mem_def] at first
    simpa [first] using ends
  have long : ¬ f.size - 1 < 2 := by have := sound.size; omega
  have size : f.size - 1 + 1 = f.size := by have := sound.size; omega
  have marks : (f.mark == backtick || f.mark == '~') = true := by simpa using sound.mark
  rw [open?, width, sound.markerLine_eq, takeWhile_append_stop sound.indent ink,
    dropWhile_append_stop sound.indent ink]
  simpa [takeWhile_append_stop same stop, dropWhile_append_stop same stop, marks, long, size]
    using plain

theorem trim_inert : trim inert = inert := by decide

theorem open?_inertOpener {base : Nat} {f : Fence} (sound : f.Sound)
    (shallow : indentWidth f.indent < base + 4) :
    open? base f.inertOpener = some { f with info := inert } := by
  have ends : inert.head? ≠ some f.mark := by
    rcases sound.mark with h | h <;> rw [h] <;> decide
  have plain : backtick ∉ trim inert := by decide
  rw [inertOpener_eq, open?_markerLine sound shallow ends fun both => plain both.2, trim_inert]

theorem not_isTested_inert : isTested inert = false := by decide

theorem open?_of_isDeep {base : Nat} {line : Line} (deep : isDeep base line = true) :
    open? base line = none := by
  simp [open?, deep]

theorem open?_of_allBlank {base : Nat} {line : Line} (blank : allBlank line = true) :
    open? base line = none := by
  cases opens : open? base line with
  | none => rfl
  | some f =>
    obtain ⟨-, sound, tail, rfl, -⟩ := markerLine_of_open? opens
    rw [sound.markerLine_not_blank] at blank
    contradiction

theorem closes_of_isDeep {base : Nat} {line : Line} (f : Fence) (deep : isDeep base line = true) :
    f.closes base line = false := by
  simp [closes, deep]

theorem closes_of_allBlank {base : Nat} {line : Line} {f : Fence} (sound : f.Sound)
    (blank : allBlank line = true) : f.closes base line = false := by
  have size := sound.size
  simp [closes, trim_eq_nil blank]
  omega

end Fence

end ProtoModules.Comment
