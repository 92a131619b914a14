import ProtoModules.Proofs.Source.Piece
import ProtoModules.Source.Unit

/-! Sanitizing a unit, piece by piece: a run of documentation lines is left out if its declaration is
disabled and rewritten otherwise, and lines of code stay. The comments found in the new source are
then those that the sanitized unit carries, with their new places. -/

namespace ProtoModules.Source
open Text Comment

def rewrittenRun (run : List Line) : List Line :=
  if Comment.sanitize (docText run) = docText run then run
  else joinDocLines (Comment.sanitize (docText run)) (docIndent run)

def rewritten (patterns : List (List Char)) (package : List Line) : Scan → List Piece → List Piece
  | _, [] => []
  | scan, .code line :: rest => .code line :: rewritten patterns package (scan.passCode line) rest
  | scan, .doc run :: rest =>
    if Pattern.disables patterns (scan.declarationBelow package rest) then
      rewritten patterns package scan rest
    else .doc (rewrittenRun run) :: rewritten patterns package scan rest

variable {patterns : List (List Char)} {package : List Line}

theorem docText_rewrittenRun (run : List Line) :
    docText (rewrittenRun run) = Comment.sanitize (docText run) := by
  rw [rewrittenRun]
  split
  · rename_i same
    exact same.symm
  · exact docText_joinDocLines blank_of_mem_docIndent _

theorem docIndent_rewrittenRun (run : List Line) : docIndent (rewrittenRun run) = docIndent run := by
  rw [rewrittenRun]
  split
  · rfl
  · exact docIndent_joinDocLines blank_of_mem_docIndent _

theorem rewrittenRun_ne_nil {run : List Line} (present : run ≠ []) : rewrittenRun run ≠ [] := by
  rw [rewrittenRun]
  split
  · exact present
  · simp [joinDocLines, lines_ne_nil]

theorem lines_sanitize_docText {run : List Line} (present : run ≠ [])
    (clean : ∀ line ∈ run, '\n' ∉ line) :
    lines (Comment.sanitize (docText run)) = sanitizeLines (run.map docBody) := by
  rw [lines_sanitize, lines_docText present clean]

theorem isDocLine_of_mem_rewrittenRun {run : List Line} (present : run ≠ [])
    (docs : ∀ line ∈ run, isDocLine line = true) (clean : ∀ line ∈ run, '\n' ∉ line) :
    ∀ line ∈ rewrittenRun run, isDocLine line = true := by
  rw [rewrittenRun]
  split
  · exact docs
  · intro line member
    rw [joinDocLines, lines_sanitize_docText present clean] at member
    obtain ⟨body, inside, rfl⟩ := List.mem_map.1 member
    have three : ∀ body ∈ run.map docBody, body.head? ≠ some '/' := by
      intro body old
      obtain ⟨line, own, rfl⟩ := List.mem_map.1 old
      exact head?_docBody (docs line own)
    exact isDocLine_docLine blank_of_mem_docIndent (head?_of_mem_sanitizeLines three inside)

theorem newline_notMem_of_mem_rewrittenRun {run : List Line} (present : run ≠ [])
    (clean : ∀ line ∈ run, '\n' ∉ line) : ∀ line ∈ rewrittenRun run, '\n' ∉ line := by
  rw [rewrittenRun]
  split
  · exact clean
  · intro line member
    obtain ⟨body, inside, rfl⟩ := List.mem_map.1 member
    have first : '\n' ∉ docIndent run := by
      obtain ⟨line, rest, rfl⟩ := List.exists_cons_of_ne_nil present
      exact fun found => clean line List.mem_cons_self ((List.takeWhile_sublist _).mem found)
    have body := newline_notMem_of_mem_lines inside
    simp [docMark, first, body]

theorem declarationBelow_rewritten (scan other : Scan) (ps : List Piece) :
    scan.declarationBelow package (rewritten patterns package other ps) =
      scan.declarationBelow package ps := by
  induction ps generalizing scan other with
  | nil => rfl
  | cons p rest ih =>
    cases p with
    | code line => simp only [rewritten, Scan.declarationBelow, ih]
    | doc run =>
      rw [rewritten]
      split <;> simp only [Scan.declarationBelow, ih]

theorem cut_rewritten {ps : List Piece} (cut : Piece.Cut ps)
    (clean : ∀ line ∈ ps.flatMap Piece.lines, '\n' ∉ line) (scan : Scan) :
    Piece.Cut (rewritten patterns package scan ps) := by
  induction cut generalizing scan with
  | nil => exact .nil
  | code plain next ih =>
    exact .code plain (ih (fun l member => clean l (by simp [member])) _)
  | @doc run ps present docs apart next ih =>
    have later := ih (fun l member => clean l (by simp [member])) scan
    have own : ∀ line ∈ run, '\n' ∉ line := fun l member => clean l (by simp [Piece.lines, member])
    rw [rewritten]
    split
    · exact later
    · refine .doc (rewrittenRun_ne_nil present) (isDocLine_of_mem_rewrittenRun present docs own)
        (fun other first => ?_) later
      cases next with
      | nil => simp [rewritten] at first
      | code plain next => simp [rewritten] at first
      | @doc run ps present docs apart' next => exact apart run rfl

theorem newline_notMem_rewritten {ps : List Piece} (cut : Piece.Cut ps)
    (clean : ∀ line ∈ ps.flatMap Piece.lines, '\n' ∉ line) (scan : Scan) :
    ∀ line ∈ (rewritten patterns package scan ps).flatMap Piece.lines, '\n' ∉ line := by
  induction cut generalizing scan with
  | nil => simp [rewritten]
  | @code line ps plain next ih =>
    have own : '\n' ∉ line := clean line (by simp [Piece.lines])
    have later := ih (fun l member => clean l (by simp [member])) (scan.passCode line)
    simpa [rewritten, Piece.lines, own] using later
  | @doc run ps present docs apart next ih =>
    have own := newline_notMem_of_mem_rewrittenRun present
      fun l member => clean l (by simp [Piece.lines, member])
    have later := ih (fun l member => clean l (by simp [member])) scan
    rw [rewritten]
    split
    · exact later
    · rw [List.flatMap_cons, List.forall_mem_append]
      exact ⟨own, later⟩

namespace GeneratedUnit

theorem sanitizeFrom_line {ls rest : List Line} {line : Line} {cursor : Nat}
    (here : ls.drop cursor = line :: rest) (written : Nat) {cs : List DocComment}
    (later : ∀ c ∈ cs, cursor + 1 ≤ c.start) :
    sanitizeFrom patterns ls cursor written cs =
      (line :: (sanitizeFrom patterns ls (cursor + 1) (written + 1) cs).1,
        (sanitizeFrom patterns ls (cursor + 1) (written + 1) cs).2) := by
  have next : ls.drop (cursor + 1) = rest := by
    rw [← List.drop_drop, here]
    rfl
  cases cs with
  | nil => rw [sanitizeFrom, sanitizeFrom, here, next]
  | cons c more =>
    have behind := later c List.mem_cons_self
    have before : (ls.take c.start).drop cursor =
        line :: (ls.take c.start).drop (cursor + 1) := by
      obtain ⟨n, gap⟩ : ∃ n, c.start - cursor = n + 1 := ⟨c.start - cursor - 1, by omega⟩
      have rest' : c.start - (cursor + 1) = n := by omega
      rw [List.drop_take, List.drop_take, here, next, gap, rest', List.take_succ_cons]
    have count : written + ((ls.take c.start).drop (cursor + 1)).length + 1 =
        written + 1 + ((ls.take c.start).drop (cursor + 1)).length := by omega
    simp only [sanitizeFrom, before, List.length_cons, ← Nat.add_assoc, count]
    split <;> rfl

theorem sanitizeFrom_pieces {ls : List Line} {ps : List Piece} (cut : Piece.Cut ps) {cursor : Nat}
    (here : ls.drop cursor = ps.flatMap Piece.lines) (written : Nat) (scan : Scan) :
    sanitizeFrom patterns ls cursor written (scan.commentsOf package cursor ps) =
      ((rewritten patterns package scan ps).flatMap Piece.lines,
        scan.commentsOf package written (rewritten patterns package scan ps)) := by
  induction cut generalizing cursor written scan with
  | nil => simp [Scan.commentsOf, sanitizeFrom, rewritten, here]
  | @code line ps plain next ih =>
    have rest : ls.drop (cursor + 1) = ps.flatMap Piece.lines := by
      rw [← List.drop_drop, here]
      rfl
    rw [Scan.commentsOf, sanitizeFrom_line here written fun c => Scan.le_start_of_mem_commentsOf,
      ih rest]
    rfl
  | @doc run ps present docs apart next ih =>
    have rest : ls.drop (cursor + run.length) = ps.flatMap Piece.lines := by
      rw [← List.drop_drop, here, List.flatMap_cons, Piece.lines, List.drop_left]
    have before : (ls.take cursor).drop cursor = [] := by
      rw [List.drop_take, Nat.sub_self, List.take_zero]
    have own : (ls.take (cursor + run.length)).drop cursor = run := by
      rw [List.drop_take, here, Nat.add_sub_cancel_left, List.flatMap_cons, Piece.lines,
        List.take_left]
    have replaced : sanitizedLines ls
        (Scan.comment (scan.declarationBelow package ps) cursor run) = rewrittenRun run := by
      simp only [sanitizedLines, Scan.comment, own, rewrittenRun]
    -- a disabled run is dropped, any other one is written in its sanitized form
    by_cases disabled : Pattern.disables patterns (scan.declarationBelow package ps) = true
    · have gone : Pattern.disables patterns
          (Scan.comment (scan.declarationBelow package ps) cursor run).declaration = true := disabled
      rw [Scan.commentsOf, sanitizeFrom, if_pos gone, rewritten, if_pos disabled]
      simp only [Scan.comment, before, List.length_nil, Nat.add_zero, List.nil_append, ih rest]
    · have stays : ¬ Pattern.disables patterns
          (Scan.comment (scan.declarationBelow package ps) cursor run).declaration = true := disabled
      rw [Scan.commentsOf, sanitizeFrom, if_neg stays, replaced, rewritten, if_neg disabled]
      simp only [Scan.comment, before, List.length_nil, Nat.add_zero, List.nil_append, ih rest,
        Scan.commentsOf, declarationBelow_rewritten, docText_rewrittenRun, docIndent_rewrittenRun,
        List.flatMap_cons, Piece.lines]

theorem commentsOf_rewritten (ps : List Piece) (scan : Scan) (index written : Nat) :
    ((scan.commentsOf package written (rewritten patterns package scan ps)).map fun c =>
        (c.declaration, c.text, c.indent)) =
      ((scan.commentsOf package index ps).filter fun c =>
        !Pattern.disables patterns c.declaration).map fun c =>
          (c.declaration, Comment.sanitize c.text, c.indent) := by
  induction ps generalizing scan index written with
  | nil => rfl
  | cons p rest ih =>
    cases p with
    | code line => exact ih _ _ _
    | doc run =>
      by_cases disabled : Pattern.disables patterns (scan.declarationBelow package rest) = true
      · rw [rewritten, if_pos disabled, ih scan (index + run.length)]
        simp [Scan.commentsOf, Scan.comment, disabled]
      · rw [rewritten, if_neg disabled]
        simp [Scan.commentsOf, Scan.comment, disabled, declarationBelow_rewritten,
          docText_rewrittenRun, docIndent_rewrittenRun, ih scan (index + run.length)]

theorem docComments_eq (package : List Line) (source : List Char) :
    docComments package source =
      Scan.commentsOf package 0 {} (Piece.ofLines (Text.lines source)) := by
  rw [docComments, ← Scan.docComments_pieces (Piece.cut_ofLines _), Piece.flatMap_ofLines]

theorem docComments_unlines {ps : List Piece} (cut : Piece.Cut ps)
    (clean : ∀ line ∈ ps.flatMap Piece.lines, '\n' ∉ line) :
    docComments package (unlines (ps.flatMap Piece.lines)) = Scan.commentsOf package 0 {} ps := by
  by_cases empty : ps.flatMap Piece.lines = []
  · -- no lines at all make the same source as one empty line
    obtain rfl := cut.eq_nil empty
    rfl
  · rw [docComments, lines_unlines empty clean, Scan.docComments_pieces cut]

theorem sanitize_pieces {u : GeneratedUnit} {ps : List Piece} (cut : Piece.Cut ps)
    (clean : ∀ line ∈ ps.flatMap Piece.lines, '\n' ∉ line)
    (source : u.source = unlines (ps.flatMap Piece.lines))
    (own : u.comments = Scan.commentsOf package 0 {} ps) (patterns : List (List Char)) :
    u.sanitize patterns =
      { u with
        source := unlines ((rewritten patterns package {} ps).flatMap Piece.lines)
        comments := Scan.commentsOf package 0 {} (rewritten patterns package {} ps) } := by
  by_cases empty : ps.flatMap Piece.lines = []
  · obtain rfl := cut.eq_nil empty
    have gone : u.source = [] := source
    simp only [sanitize, own, gone, Scan.commentsOf, sanitizeFrom, rewritten]
    rfl
  · have here : (Text.lines u.source).drop 0 = ps.flatMap Piece.lines := by
      rw [source, lines_unlines empty clean, List.drop_zero]
    simp only [sanitize, own, sanitizeFrom_pieces cut here 0 {}]

theorem newline_notMem_ofLines (source : List Char) :
    ∀ line ∈ (Piece.ofLines (Text.lines source)).flatMap Piece.lines, '\n' ∉ line := by
  rw [Piece.flatMap_ofLines]
  exact fun _ => newline_notMem_of_mem_lines

theorem sanitize_extracted {u : GeneratedUnit} (own : u.comments = docComments package u.source)
    (patterns : List (List Char)) :
    u.sanitize patterns =
      { u with
        source := unlines ((rewritten patterns package {}
          (Piece.ofLines (Text.lines u.source))).flatMap Piece.lines)
        comments := Scan.commentsOf package 0 {}
          (rewritten patterns package {} (Piece.ofLines (Text.lines u.source))) } := by
  refine sanitize_pieces (Piece.cut_ofLines _) (newline_notMem_ofLines u.source) ?_ ?_ patterns
  · rw [Piece.flatMap_ofLines, unlines_lines]
  · rw [own, docComments_eq]

theorem sanitize_ofSource (patterns : List (List Char)) (package : List Line)
    (source : List Char) (origin : String) :
    (ofSource package source origin).sanitize patterns =
      ⟨package,
        unlines ((rewritten patterns package {}
          (Piece.ofLines (Text.lines source))).flatMap Piece.lines),
        Scan.commentsOf package 0 {}
          (rewritten patterns package {} (Piece.ofLines (Text.lines source))), origin⟩ :=
  sanitize_extracted rfl patterns

/-- The source of a sanitized unit holds just the comments that the unit carries: those that no
pattern disables, in their order and sanitized. -/
theorem docComments_sanitize (patterns : List (List Char)) (package : List Line)
    (source : List Char) (origin : String) :
    let u := ofSource package source origin
    docComments package (u.sanitize patterns).source = (u.sanitize patterns).comments ∧
      ((u.sanitize patterns).comments.map fun c => (c.declaration, c.text, c.indent)) =
        (u.comments.filter fun c => !Pattern.disables patterns c.declaration).map fun c =>
          (c.declaration, Comment.sanitize c.text, c.indent) := by
  have clean := newline_notMem_ofLines source
  have cut := Piece.cut_ofLines (Text.lines source)
  simp only [sanitize_ofSource]
  refine ⟨docComments_unlines (cut_rewritten cut clean {}) (newline_notMem_rewritten cut clean {}), ?_⟩
  simp only [ofSource, docComments_eq]
  exact commentsOf_rewritten _ {} 0 0

end GeneratedUnit

end ProtoModules.Source
