import ProtoModules.Comment.Sanitize
import ProtoModules.Proofs.Comment.Reads
import ProtoModules.Proofs.Text.Lines

/-! Sanitizing a comment that is sanitized already. The lines that a block is sanitized to are read
as one block again, a closed fence or a line of prose, and the base of the comment stays what
it was; so a sanitized comment falls into the sanitized blocks. -/

namespace ProtoModules.Comment
open Text

def wrappingFence (base : Nat) (ls : List Line) : Fence where
  indent := List.replicate base ' '
  mark := Fence.backtick
  size := max 3 ((ls.map longestRun).foldl max 0 + 1)
  info := Fence.inert

theorem wrappingFence_sound (base : Nat) (ls : List Line) : (wrappingFence base ls).Sound where
  indent c member := by simp [isTabOrSpace, List.eq_of_mem_replicate member]
  mark := .inl rfl
  size := Nat.le_max_left _ _

theorem indentWidth_wrappingFence (base : Nat) (ls : List Line) :
    indentWidth (wrappingFence base ls).indent = base :=
  indentWidth_replicate base

namespace Block

def isRetagged (fence : Fence) (body : List Line) : Bool :=
  Fence.isTested fence.info && !looksRunnable body

def settled (base : Nat) : Block → Block
  | .fenced fence opener body closer =>
    if isRetagged fence body then
      .fenced { fence with info := Fence.inert } fence.inertOpener body
        (some (closer.getD fence.closer))
    else .fenced fence opener body (some (closer.getD fence.closer))
  | .code ls =>
    let fence := wrappingFence base ls
    .fenced fence fence.inertOpener ls (some fence.closer)
  | .prose line => .prose line

theorem sanitized_code (base : Nat) (ls : List Line) :
    (Block.code ls).sanitized base =
      (wrappingFence base ls).inertOpener :: ls ++ [(wrappingFence base ls).closer] := rfl

theorem lines_settled (base : Nat) (b : Block) : (b.settled base).lines = b.sanitized base := by
  cases b with
  | fenced fence opener body closer =>
    by_cases retag : isRetagged fence body
    all_goals
      simp only [isRetagged] at retag
      simp [settled, isRetagged, lines, sanitized, retag]
  | code ls => simp [settled, lines, sanitized_code]
  | prose line => rfl

theorem lines_closed_append (fence : Fence) (opener closer : Line) (body rest : List Line) :
    (Block.fenced fence opener body (some closer)).lines ++ rest =
      opener :: (body ++ closer :: rest) := by
  simp [lines]

theorem not_isRetagged_inert {fence : Fence} (inert : fence.info = Fence.inert)
    (body : List Line) : isRetagged fence body = false := by
  rw [isRetagged, inert, Fence.not_isTested_inert, Bool.false_and]

theorem settled_settled (base : Nat) (b : Block) :
    (b.settled base).settled base = b.settled base := by
  cases b with
  | fenced fence opener body closer =>
    by_cases retag : isRetagged fence body
    · simp [settled, retag, not_isRetagged_inert]
    · simp [settled, retag]
  | code ls =>
    have inert : (wrappingFence base ls).info = Fence.inert := rfl
    simp [settled, not_isRetagged_inert inert]
  | prose line => rfl

end Block

variable {base : Nat} {inParagraph : Bool} {ls : List Line} {bs : List Block}

theorem Block.Fits.reads_settled {b : Block} (fits : b.Fits base) (fence : ∀ line, b ≠ .prose line)
    {rest : List Line} (next : Reads base false rest bs) :
    Reads base inParagraph (b.sanitized base ++ rest) (b.settled base :: bs) := by
  rw [← Block.lines_settled]
  cases fits with
  | @fenced f opener body closer opens inside ends =>
    obtain ⟨shallow, sound, -⟩ := Fence.markerLine_of_open? opens
    have closed : f.closes base (closer.getD f.closer) = true := by
      cases closer with
      | none => exact sound.closes_closer shallow
      | some line => exact ends line rfl
    by_cases retag : Block.isRetagged f body
    · rw [Block.settled, if_pos retag, Block.lines_closed_append]
      exact .closed (Fence.open?_inertOpener sound shallow) inside closed next
    · rw [Block.settled, if_neg retag, Block.lines_closed_append]
      exact .closed opens inside closed next
  | @code first more indented run =>
    have sound := wrappingFence_sound base (first :: more)
    have shallow : indentWidth (wrappingFence base (first :: more)).indent < base + 4 := by
      rw [indentWidth_wrappingFence]
      omega
    have inside : ∀ line ∈ first :: more,
        (wrappingFence base (first :: more)).closes base line = false := by
      -- lines of code are too deep to close the fence around them, and blank ones do not close any
      have each : ∀ line, isIndentedCode base line = true ∨ allBlank line = true →
          (wrappingFence base (first :: more)).closes base line = false := by
        rintro line (deep | blank)
        · exact Fence.closes_of_isDeep _ (isDeep_of_isIndentedCode deep)
        · exact Fence.closes_of_allBlank sound blank
      exact List.forall_mem_cons.2
        ⟨each first (.inl indented), fun line member => each line (run line member)⟩
    rw [Block.settled, Block.lines_closed_append]
    exact .closed (Fence.open?_inertOpener sound shallow) inside (sound.closes_closer shallow) next
  | @prose line plain => exact absurd rfl (fence line)

theorem Reads.settled (reads : Reads base inParagraph ls bs) :
    Reads base inParagraph (bs.flatMap (Block.sanitized base)) (bs.map (Block.settled base)) := by
  induction reads with
  | done => exact .done
  | closed opens inside ends next ih =>
    rw [List.flatMap_cons, List.map_cons]
    exact (Block.Fits.fenced opens inside (by simpa using ends)).reads_settled (by simp) ih
  | unclosed opens inside =>
    rw [List.flatMap_cons, List.map_cons]
    exact (Block.Fits.fenced opens inside (by simp)).reads_settled (by simp) .done
  | code indented next ih =>
    rw [List.flatMap_cons, List.map_cons]
    exact (Block.Fits.code indented fun _ member => mem_codeRun member).reads_settled (by simp) ih
  | prose plain text next ih => exact .prose plain text ih

def widths (ls : List Line) : List Nat := (ls.filter fun l => !allBlank l).map indentWidth

theorem baseIndent_eq (ls : List Line) : baseIndent ls = (widths ls).min?.getD 0 := rfl

theorem mem_widths {w : Nat} :
    w ∈ widths ls ↔ ∃ line ∈ ls, allBlank line = false ∧ indentWidth line = w := by
  simp [widths, and_assoc]

theorem mem_widths_flatMap {w : Nat} {α : Type} {xs : List α} {f : α → List Line} :
    w ∈ widths (xs.flatMap f) ↔ ∃ x ∈ xs, w ∈ widths (f x) := by
  simp only [mem_widths, List.mem_flatMap]
  constructor
  · rintro ⟨line, ⟨x, member, own⟩, ink, width⟩
    exact ⟨x, member, line, own, ink, width⟩
  · rintro ⟨x, member, line, own, ink, width⟩
    exact ⟨line, ⟨x, member, own⟩, ink, width⟩

theorem baseIndent_eq_of_widths {first second : List Line}
    (kept : ∀ w ∈ widths first, w ∈ widths second)
    (added : ∀ w ∈ widths second, w ∈ widths first ∨ w = baseIndent first) :
    baseIndent second = baseIndent first := by
  rw [baseIndent_eq] at added
  rw [baseIndent_eq, baseIndent_eq]
  cases smallest : (widths first).min? with
  | none =>
    rw [List.min?_eq_none_iff] at smallest
    have zero : ∀ w ∈ widths second, w = 0 := by simpa [smallest] using added
    cases e : (widths second).min? with
    | none => rfl
    | some w => exact zero w (List.min?_mem e)
  | some m =>
    obtain ⟨member, least⟩ := List.min?_eq_some_iff.1 smallest
    have same : (widths second).min? = some m := by
      refine List.min?_eq_some_iff.2 ⟨kept m member, fun w inside => ?_⟩
      rcases added w inside with old | new
      · exact least w old
      · rw [new, smallest]
        exact Nat.le_refl m
    rw [same]

theorem widths_append (first second : List Line) :
    widths (first ++ second) = widths first ++ widths second := by
  simp [widths]

theorem widths_cons_of_ink {line : Line} (ink : allBlank line = false) (ls : List Line) :
    widths (line :: ls) = indentWidth line :: widths ls := by
  simp [widths, ink]

theorem widths_markerLine {f : Fence} (sound : f.Sound) (tail : Line) (ls : List Line) :
    widths (f.markerLine tail :: ls) = indentWidth f.indent :: widths ls := by
  rw [widths_cons_of_ink (sound.markerLine_not_blank tail), sound.indentWidth_markerLine]

namespace Block

theorem sanitized_fenced (base : Nat) (f : Fence) (tail : Line) (body : List Line)
    (closer : Option Line) :
    ∃ behind, (behind = tail ∨ behind = Fence.inert) ∧
      (fenced f (f.markerLine tail) body closer).sanitized base =
        f.markerLine behind :: (body ++ [closer.getD f.closer]) := by
  by_cases retag : isRetagged f body
  all_goals simp only [isRetagged] at retag
  · exact ⟨Fence.inert, .inr rfl, by simp [sanitized, retag, Fence.inertOpener_eq]⟩
  · exact ⟨tail, .inl rfl, by simp [sanitized, retag]⟩

theorem Fits.widths_sanitized {b : Block} (fits : b.Fits base) :
    (∀ w ∈ widths b.lines, w ∈ widths (b.sanitized base)) ∧
      ∀ w ∈ widths (b.sanitized base), w ∈ widths b.lines ∨ w = base := by
  cases fits with
  | @fenced f opener body closer opens inside ends =>
    obtain ⟨-, sound, tail, rfl, -⟩ := Fence.markerLine_of_open? opens
    obtain ⟨behind, -, lines⟩ := sanitized_fenced base f tail body closer
    rw [lines]
    cases closer with
    | none =>
      simp only [Block.lines, Option.toList_none, List.append_nil, Option.getD_none,
        Fence.closer_eq, widths_markerLine sound, widths_append, List.mem_cons, List.mem_append]
      tauto
    | some line =>
      simp only [Block.lines, Option.toList_some, Option.getD_some, List.cons_append,
        widths_markerLine sound, widths_append, List.mem_cons, List.mem_append]
      tauto
  | @code first more indented run =>
    have sound := wrappingFence_sound base (first :: more)
    have wrapped : widths ((Block.code (first :: more)).sanitized base) =
        base :: (widths (first :: more) ++ [base]) := by
      rw [sanitized_code, List.cons_append, Fence.inertOpener_eq, Fence.closer_eq,
        widths_markerLine sound, widths_append, widths_markerLine sound, indentWidth_wrappingFence]
      rfl
    rw [wrapped]
    simp only [lines, List.mem_cons, List.mem_append, List.not_mem_nil, or_false]
    tauto
  | prose plain => exact ⟨fun w member => member, fun w member => .inl member⟩

theorem Fits.mem_sanitized {b : Block} (fits : b.Fits base) {line : Line}
    (member : line ∈ b.sanitized base) :
    line ∈ b.lines ∨ ∃ f : Fence, f.Sound ∧ (line = f.inertOpener ∨ line = f.closer) := by
  cases fits with
  | @fenced f opener body closer opens inside ends =>
    obtain ⟨-, sound, tail, rfl, -⟩ := Fence.markerLine_of_open? opens
    obtain ⟨behind, old, lines⟩ := sanitized_fenced base f tail body closer
    rw [lines, List.mem_cons, List.mem_append, List.mem_singleton] at member
    rcases member with rfl | within | last
    · rcases old with rfl | rfl
      · exact .inl (by simp [Block.lines])
      · exact .inr ⟨f, sound, .inl rfl⟩
    · exact .inl (by simp [Block.lines, within])
    · cases closer with
      | none => exact .inr ⟨f, sound, .inr last⟩
      | some closer => exact .inl (by simp_all [Block.lines])
  | @code first more indented run =>
    have sound := wrappingFence_sound base (first :: more)
    rw [sanitized_code, List.cons_append, List.mem_cons, List.mem_append,
      List.mem_singleton] at member
    rcases member with first | within | last
    · exact .inr ⟨_, sound, .inl first⟩
    · exact .inl within
    · exact .inr ⟨_, sound, .inr last⟩
  | prose plain => exact .inl member

theorem sanitized_ne_nil (base : Nat) (b : Block) : b.sanitized base ≠ [] := by
  cases b <;> simp [sanitized]

end Block

theorem baseIndent_sanitizeLines (ls : List Line) : baseIndent (sanitizeLines ls) = baseIndent ls := by
  have reads := reads_blocks ls
  have fits := reads.fits
  have whole := reads.flatMap_lines
  refine baseIndent_eq_of_widths (fun w member => ?_) fun w member => ?_
  · rw [← whole, mem_widths_flatMap] at member
    obtain ⟨b, found, own⟩ := member
    exact mem_widths_flatMap.2 ⟨b, found, (fits b found).widths_sanitized.1 w own⟩
  · obtain ⟨b, found, own⟩ := mem_widths_flatMap.1 member
    rcases (fits b found).widths_sanitized.2 w own with old | new
    · refine .inl ?_
      rw [← whole]
      exact mem_widths_flatMap.2 ⟨b, found, old⟩
    · exact .inr new

theorem blocks_sanitizeLines (ls : List Line) :
    blocks (sanitizeLines ls) = (blocks ls).map (Block.settled (baseIndent ls)) := by
  rw [blocks, baseIndent_sanitizeLines]
  exact (reads_blocks ls).settled.eq_blocksFrom.symm

theorem sanitizeLines_sanitizeLines (ls : List Line) :
    sanitizeLines (sanitizeLines ls) = sanitizeLines ls := by
  have same : ∀ b, (Block.settled (baseIndent ls) b).sanitized (baseIndent ls) =
      b.sanitized (baseIndent ls) := by
    intro b
    rw [← Block.lines_settled, Block.settled_settled, Block.lines_settled]
  rw [sanitizeLines, blocks_sanitizeLines, baseIndent_sanitizeLines, List.flatMap_map]
  simp only [same, sanitizeLines]

theorem sanitizeLines_of_prose (reads : Reads (baseIndent ls) false ls (ls.map Block.prose)) :
    sanitizeLines ls = ls := by
  rw [sanitizeLines, blocks, ← reads.eq_blocksFrom, List.flatMap_map]
  simp [Block.sanitized]

theorem sanitizeLines_ne_nil {ls : List Line} (present : ls ≠ []) : sanitizeLines ls ≠ [] := by
  intro none
  rw [sanitizeLines, List.flatMap_eq_nil_iff] at none
  have noBlock : blocks ls = [] :=
    List.eq_nil_iff_forall_not_mem.2 fun b member => Block.sanitized_ne_nil _ b (none b member)
  have whole := (reads_blocks ls).flatMap_lines
  rw [noBlock] at whole
  exact present whole.symm

theorem mem_sanitizeLines {ls : List Line} {line : Line} (member : line ∈ sanitizeLines ls) :
    line ∈ ls ∨ ∃ f : Fence, f.Sound ∧ (line = f.inertOpener ∨ line = f.closer) := by
  have reads := reads_blocks ls
  obtain ⟨b, found, own⟩ := List.mem_flatMap.1 member
  rcases (reads.fits b found).mem_sanitized own with old | new
  · refine .inl ?_
    rw [← reads.flatMap_lines]
    exact List.mem_flatMap.2 ⟨b, found, old⟩
  · exact .inr new

theorem newline_notMem_of_mem_sanitizeLines {ls : List Line} (clean : ∀ line ∈ ls, '\n' ∉ line)
    {line : Line} (member : line ∈ sanitizeLines ls) : '\n' ∉ line := by
  rcases mem_sanitizeLines member with old | ⟨f, sound, rfl | rfl⟩
  · exact clean line old
  · exact sound.newline_notMem_markerLine (by decide)
  · rw [f.closer_eq]
    exact sound.newline_notMem_markerLine (by simp)

theorem lines_sanitize (text : List Char) : lines (sanitize text) = sanitizeLines (lines text) :=
  lines_unlines (sanitizeLines_ne_nil (lines_ne_nil text)) fun _ member =>
    newline_notMem_of_mem_sanitizeLines (fun _ => newline_notMem_of_mem_lines) member

/-- A comment that is sanitized already stays as it is. -/
theorem sanitize_idempotent (text : List Char) : sanitize (sanitize text) = sanitize text := by
  rw [sanitize, lines_sanitize, sanitizeLines_sanitizeLines, sanitize]

end ProtoModules.Comment
