import ProtoModules.Proofs.Comment.Program
import ProtoModules.Proofs.Comment.Settled

/-! Shifting a comment to the right. If every line moves by as many columns as spaces are put before it,
every line is read as before, so the sanitized comment is shifted too. A tab that ends at a stop of
its own takes up the spaces before it, unless they reach from stop to stop. -/

namespace ProtoModules.Comment
open Text

def shift (n : Nat) (text : List Char) : List Char := unlines ((lines text).map (shiftLine n))

def Moves (n : Nat) (line : Line) : Prop :=
  allBlank line = false → indentWidth (shiftLine n line) = indentWidth line + n

variable {n base : Nat} {inParagraph : Bool} {ls : List Line} {bs : List Block} {line : Line}

theorem shiftLine_of_blank (n : Nat) (blank : allBlank line = true) : shiftLine n line = line :=
  if_pos blank

theorem shiftLine_of_ink (n : Nat) (ink : allBlank line = false) :
    shiftLine n line = List.replicate n ' ' ++ line :=
  if_neg (by simp [ink])

theorem isTabOrSpace_of_mem_replicate {c : Char} (member : c ∈ List.replicate n ' ') :
    isTabOrSpace c = true := by
  rw [List.eq_of_mem_replicate member]
  rfl

theorem allBlank_shiftLine (n : Nat) (line : Line) :
    allBlank (shiftLine n line) = allBlank line := by
  by_cases blank : allBlank line = true
  · rw [shiftLine_of_blank n blank]
  · rw [Bool.not_eq_true] at blank
    have spaces : isBlank ' ' = true := by decide
    rw [shiftLine_of_ink n blank, blank]
    simp_all [allBlank]

theorem trim_shiftLine (n : Nat) (line : Line) : trim (shiftLine n line) = trim line := by
  rw [shiftLine]
  split
  · rfl
  · exact trim_append (fun c member => isBlank_of_isTabOrSpace
      (isTabOrSpace_of_mem_replicate member)) line

theorem isDeep_shiftLine (moves : Moves n line) (ink : allBlank line = false) :
    isDeep (base + n) (shiftLine n line) = isDeep base line := by
  rw [isDeep, isDeep, moves ink, decide_eq_decide]
  omega

theorem isIndentedCode_shiftLine (moves : Moves n line) :
    isIndentedCode (base + n) (shiftLine n line) = isIndentedCode base line := by
  rw [isIndentedCode, isIndentedCode, allBlank_shiftLine]
  cases ink : allBlank line with
  | true => rfl
  | false => rw [isDeep_shiftLine moves ink]

theorem endsParagraph_shiftLine (moves : Moves n line) :
    endsParagraph (base + n) (shiftLine n line) = endsParagraph base line := by
  rw [endsParagraph, endsParagraph, trim_shiftLine]
  cases ink : allBlank line with
  | true => simp [trim_eq_nil ink, isHeading, isBreak]
  | false => rw [isDeep_shiftLine moves ink]

theorem opensParagraph_shiftLine (moves : Moves n line) (inParagraph : Bool) :
    opensParagraph (base + n) inParagraph (shiftLine n line) =
      opensParagraph base inParagraph line := by
  rw [opensParagraph, opensParagraph, allBlank_shiftLine, endsParagraph_shiftLine moves,
    trim_shiftLine]

theorem codeRun_shift (moves : ∀ line ∈ ls, Moves n line) :
    codeRun (base + n) (ls.map (shiftLine n)) =
      ((codeRun base ls).1.map (shiftLine n), (codeRun base ls).2.map (shiftLine n)) := by
  induction ls with
  | nil => rfl
  | cons line rest ih =>
    have own := moves line List.mem_cons_self
    rw [List.map_cons, codeRun, codeRun, ih fun l member => moves l (List.mem_cons_of_mem _ member),
      isIndentedCode_shiftLine own, allBlank_shiftLine]
    dsimp only
    rw [List.isEmpty_map]
    split
    · rfl
    · split <;> rfl

theorem longestRun_shiftLine (n : Nat) (line : Line) :
    longestRun (shiftLine n line) = longestRun line := by
  rw [shiftLine]
  split
  · rfl
  · have spaces : (List.replicate n ' ').foldl longestRun.step (0, 0) = (0, 0) := by
      induction n with
      | zero => rfl
      | succ n ih => exact ih
    rw [longestRun, longestRun, List.foldl_append, spaces]

theorem wrappingFence_shift (base n : Nat) (ls : List Line) :
    (wrappingFence (base + n) (ls.map (shiftLine n))).indent =
      List.replicate n ' ' ++ (wrappingFence base ls).indent ∧
    (wrappingFence (base + n) (ls.map (shiftLine n))).size = (wrappingFence base ls).size := by
  have same : longestRun ∘ shiftLine n = longestRun := funext (longestRun_shiftLine n)
  refine ⟨?_, ?_⟩
  · rw [wrappingFence, Nat.add_comm, List.replicate_add]
    rfl
  · simp only [wrappingFence, List.map_map, same]

namespace Fence

def shifted (n : Nat) (f : Fence) : Fence := { f with indent := List.replicate n ' ' ++ f.indent }

variable {f : Fence}

theorem Sound.shifted (sound : f.Sound) (n : Nat) : (f.shifted n).Sound where
  indent c member := by
    rcases List.mem_append.1 member with before | own
    · exact isTabOrSpace_of_mem_replicate before
    · exact sound.indent c own
  mark := sound.mark
  size := sound.size

theorem shiftLine_markerLine (sound : f.Sound) (n : Nat) (tail : Line) :
    shiftLine n (f.markerLine tail) = (f.shifted n).markerLine tail := by
  rw [shiftLine_of_ink n (sound.markerLine_not_blank tail), markerLine, markerLine]
  simp [shifted, marker]

theorem open?_shiftLine (moves : Moves n line) :
    open? (base + n) (shiftLine n line) = (open? base line).map (shifted n) := by
  cases ink : allBlank line with
  | true => rw [shiftLine_of_blank n ink, open?_of_allBlank ink, open?_of_allBlank ink, Option.map_none]
  | false =>
    have pad : ∀ c ∈ List.replicate n ' ', isTabOrSpace c = true := fun _ member =>
      isTabOrSpace_of_mem_replicate member
    rw [open?, open?, isDeep_shiftLine moves ink, shiftLine_of_ink n ink,
      List.dropWhile_append_of_pos pad, List.takeWhile_append_of_pos pad]
    split
    · rfl
    · split
      · rfl
      · split
        · dsimp only
          split <;> rfl
        · rfl

theorem closes_shiftLine (sound : f.Sound) (moves : Moves n line) :
    (f.shifted n).closes (base + n) (shiftLine n line) = f.closes base line := by
  cases ink : allBlank line with
  | true =>
    rw [shiftLine_of_blank n ink, closes_of_allBlank sound ink,
      closes_of_allBlank (sound.shifted n) ink]
  | false =>
    rw [closes, closes, isDeep_shiftLine moves ink, trim_shiftLine]
    rfl

end Fence

namespace Block

def shifted (n : Nat) : Block → Block
  | .fenced fence opener body closer =>
    .fenced (fence.shifted n) (shiftLine n opener) (body.map (shiftLine n))
      (closer.map (shiftLine n))
  | .code ls => .code (ls.map (shiftLine n))
  | .prose line => .prose (shiftLine n line)

theorem Fits.sanitized_shifted {b : Block} (fits : b.Fits base) (n : Nat) :
    (b.shifted n).sanitized (base + n) = (b.sanitized base).map (shiftLine n) := by
  cases fits with
  | @fenced f opener body closer opens inside ends =>
    obtain ⟨-, sound, -⟩ := Fence.markerLine_of_open? opens
    have inertOpener := Fence.shiftLine_markerLine sound n Fence.inert
    have lastMarker := Fence.shiftLine_markerLine sound n []
    rw [← Fence.inertOpener_eq, ← Fence.inertOpener_eq] at inertOpener
    rw [← Fence.closer_eq, ← Fence.closer_eq] at lastMarker
    have last : (closer.map (shiftLine n)).getD (f.shifted n).closer =
        shiftLine n (closer.getD f.closer) := by
      cases closer with
      | none => exact lastMarker.symm
      | some line => rfl
    have info : (f.shifted n).info = f.info := rfl
    simp only [shifted, sanitized, looksRunnable_shift, info, last, List.map_append, List.map_cons,
      List.map_nil]
    split
    · rw [inertOpener]
    · rfl
  | @code first more indented run =>
    have sound := wrappingFence_sound base (first :: more)
    have moved : wrappingFence (base + n) ((first :: more).map (shiftLine n)) =
        (wrappingFence base (first :: more)).shifted n := by
      obtain ⟨indent, size⟩ := wrappingFence_shift base n (first :: more)
      rw [Fence.shifted, ← indent, ← size]
      rfl
    rw [shifted, sanitized_code, sanitized_code, moved, Fence.inertOpener_eq, Fence.inertOpener_eq,
      Fence.closer_eq, Fence.closer_eq, ← Fence.shiftLine_markerLine sound,
      ← Fence.shiftLine_markerLine sound]
    simp
  | prose plain => rfl

end Block

theorem Reads.shifted (reads : Reads base inParagraph ls bs) (moves : ∀ line ∈ ls, Moves n line) :
    Reads (base + n) inParagraph (ls.map (shiftLine n)) (bs.map (Block.shifted n)) := by
  -- a fence keeps its marker when it moves, so the same lines open and close it
  have opened : ∀ {opener : Line} {fence : Fence}, Moves n opener →
      Fence.open? base opener = some fence →
      Fence.open? (base + n) (shiftLine n opener) = some (fence.shifted n) := by
    intro opener fence own opens
    rw [Fence.open?_shiftLine own, opens, Option.map_some]
  have held : ∀ {fence : Fence} {body : List Line}, fence.Sound → (∀ line ∈ body, Moves n line) →
      (∀ line ∈ body, fence.closes base line = false) →
      ∀ line ∈ body.map (shiftLine n), (fence.shifted n).closes (base + n) line = false := by
    intro fence body sound own inside line member
    obtain ⟨l, listed, rfl⟩ := List.mem_map.1 member
    rw [Fence.closes_shiftLine sound (own l listed), inside l listed]
  induction reads with
  | done => exact .done
  | @closed inParagraph fence opener closer body rest bs opens inside ends next ih =>
    simp only [List.forall_mem_cons, List.forall_mem_append] at moves
    obtain ⟨first, middle, last, behind⟩ := moves
    obtain ⟨-, sound, -⟩ := Fence.markerLine_of_open? opens
    simp only [List.map_cons, List.map_append]
    refine .closed (opened first opens) (held sound middle inside) ?_ (ih behind)
    rw [Fence.closes_shiftLine sound last, ends]
  | @unclosed inParagraph fence opener body opens inside =>
    rw [List.forall_mem_cons] at moves
    obtain ⟨-, sound, -⟩ := Fence.markerLine_of_open? opens
    exact .unclosed (opened moves.1 opens) (held sound moves.2 inside)
  | @code line rest bs indented next ih =>
    rw [List.forall_mem_cons] at moves
    have run := @codeRun_shift n base rest moves.2
    have behind : ∀ l ∈ (codeRun base rest).2, Moves n l := by
      intro l member
      refine moves.2 l ?_
      rw [← codeRun_append base rest]
      exact List.mem_append_right _ member
    have whole := Reads.code (by rw [isIndentedCode_shiftLine moves.1, indented])
      (by rw [run]; exact ih behind)
    rw [run] at whole
    exact whole
  | @prose inParagraph line rest bs plain text next ih =>
    rw [List.forall_mem_cons] at moves
    refine .prose ?_ ?_ ?_
    · rw [Fence.open?_shiftLine moves.1, plain, Option.map_none]
    · rw [isIndentedCode_shiftLine moves.1, text]
    · rw [opensParagraph_shiftLine moves.1]
      exact ih moves.2

theorem widths_shift (moves : ∀ line ∈ ls, Moves n line) :
    widths (ls.map (shiftLine n)) = (widths ls).map (· + n) := by
  induction ls with
  | nil => rfl
  | cons line rest ih =>
    rw [List.forall_mem_cons] at moves
    have later := ih moves.2
    simp only [widths] at later
    cases ink : allBlank line with
    | true => simp [widths, allBlank_shiftLine, ink, later]
    | false => simp [widths, allBlank_shiftLine, ink, later, moves.1 ink]

theorem baseIndent_shift (moves : ∀ line ∈ ls, Moves n line) (present : widths ls ≠ []) :
    baseIndent (ls.map (shiftLine n)) = baseIndent ls + n := by
  obtain ⟨m, smallest⟩ := Option.ne_none_iff_exists'.1 (mt List.min?_eq_none_iff.1 present)
  obtain ⟨member, least⟩ := List.min?_eq_some_iff.1 smallest
  have moved : ((widths ls).map (· + n)).min? = some (m + n) := by
    refine List.min?_eq_some_iff.2 ⟨List.mem_map_of_mem member, fun w inside => ?_⟩
    obtain ⟨v, old, rfl⟩ := List.mem_map.1 inside
    exact Nat.add_le_add_right (least v old) n
  rw [baseIndent_eq, baseIndent_eq, widths_shift moves, moved, smallest]
  rfl

theorem reads_of_blank (base : Nat) (inParagraph : Bool)
    (blank : ∀ line ∈ ls, allBlank line = true) : Reads base inParagraph ls (ls.map Block.prose) := by
  induction ls generalizing inParagraph with
  | nil => exact .done
  | cons line rest ih =>
    rw [List.forall_mem_cons] at blank
    refine .prose (Fence.open?_of_allBlank blank.1) ?_ (ih _ blank.2)
    simp [isIndentedCode, blank.1]

theorem sanitizeLines_of_blank (blank : ∀ line ∈ ls, allBlank line = true) :
    sanitizeLines ls = ls :=
  sanitizeLines_of_prose (reads_of_blank _ _ blank)

theorem sanitizeLines_shift (moves : ∀ line ∈ ls, Moves n line) :
    sanitizeLines (ls.map (shiftLine n)) = (sanitizeLines ls).map (shiftLine n) := by
  by_cases none : widths ls = []
  · have blank : ∀ line ∈ ls, allBlank line = true := by simpa [widths] using none
    have still : ls.map (shiftLine n) = ls := by
      rw [List.map_congr_left fun line member => shiftLine_of_blank n (blank line member),
        List.map_id']
    rw [sanitizeLines_of_blank blank, still, sanitizeLines_of_blank blank]
  · have reads := reads_blocks ls
    have fits := reads.fits
    have moved := (reads.shifted moves).eq_blocksFrom
    rw [sanitizeLines, blocks, baseIndent_shift moves none, ← moved, List.flatMap_map,
      sanitizeLines, List.map_flatMap]
    exact List.flatMap_congr fun b member => (fits b member).sanitized_shifted n

theorem lines_shift (n : Nat) (text : List Char) :
    lines (shift n text) = (lines text).map (shiftLine n) := by
  refine lines_unlines (by simpa using lines_ne_nil text) fun line member => ?_
  obtain ⟨l, listed, rfl⟩ := List.mem_map.1 member
  have clean := newline_notMem_of_mem_lines listed
  rw [shiftLine]
  split <;> simp [clean]

theorem indentFrom_replicate_append (column n : Nat) (line : Line) :
    indentFrom column (List.replicate n ' ' ++ line) = indentFrom (column + n) line := by
  induction n generalizing column with
  | zero => rfl
  | succ n ih =>
    rw [List.replicate_succ, List.cons_append, indentFrom, ih]
    congr 1
    omega

theorem indentFrom_add (column : Nat)
    (stops : n % 4 = 0 ∨ '\t' ∉ line.takeWhile isTabOrSpace) :
    indentFrom (column + n) line = indentFrom column line + n := by
  induction line generalizing column with
  | nil => rfl
  | cons c rest ih =>
    by_cases space : c = ' '
    · subst space
      have later := ih (column + 1) (stops.imp_right fun none => by simp_all [isTabOrSpace])
      rw [indentFrom, indentFrom, ← later]
      congr 1
      omega
    · by_cases tab : c = '\t'
      · subst tab
        have whole : n % 4 = 0 := stops.resolve_right (by simp [isTabOrSpace])
        rw [indentFrom, indentFrom, ← ih _ (.inl whole)]
        congr 1
        omega
      · simp [indentFrom, space, tab]

theorem moves_of_stops (stops : n % 4 = 0 ∨ '\t' ∉ line.takeWhile isTabOrSpace) : Moves n line := by
  intro ink
  rw [shiftLine_of_ink n ink, indentWidth, indentFrom_replicate_append, indentFrom_add 0 stops]
  rfl

/-- A comment that is shifted by whole tab stops, or that is indented without tabs, is sanitized to what it
is sanitized to without the shift, shifted. -/
theorem sanitize_shift (n : Nat) (text : List Char)
    (stops : n % 4 = 0 ∨
      ∀ line ∈ lines text, allBlank line = false → '\t' ∉ line.takeWhile isTabOrSpace) :
    sanitize (shift n text) = shift n (sanitize text) := by
  have moves : ∀ line ∈ lines text, Moves n line := by
    intro line member ink
    exact moves_of_stops (stops.imp_right fun none => none line member ink) ink
  rw [sanitize, lines_shift, sanitizeLines_shift moves, shift, lines_sanitize]

def tabbed : List Char := "Intro\n\n\tcode".toList

theorem sanitize_shift_tabbed :
    (4 % 4 = 0 ∨
      ∀ line ∈ lines tabbed, allBlank line = false → '\t' ∉ line.takeWhile isTabOrSpace) ∧
    sanitize (shift 4 tabbed) = shift 4 (sanitize tabbed) :=
  ⟨.inl rfl, sanitize_shift 4 tabbed (.inl rfl)⟩

theorem not_shift_of_tab :
    ¬ ∀ (n : Nat) (text : List Char), sanitize (shift n text) = shift n (sanitize text) := by
  intro law
  have left : sanitize (shift 1 tabbed) = " Intro\n\n \tcode".toList := by decide +kernel
  have right : shift 1 (sanitize tabbed) =
      " Intro\n\n \x60\x60\x60text\n \tcode\n \x60\x60\x60".toList := by decide +kernel
  have same := law 1 tabbed
  rw [left, right] at same
  exact absurd same (by decide)

end ProtoModules.Comment
