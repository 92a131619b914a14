import Mathlib.Data.List.Forall2
import ProtoModules.Proofs.Source.Rewrite

/-! What sanitizing a unit leaves alone. Only lines of comments are replaced or left out, by lines of
comments: the lines of code stay, in their order, and so do the lines of every comment that no
pattern disables and that is sanitized already. -/

namespace ProtoModules.Source
open Text Comment

def codeLines (ls : List Line) : List Line := ls.filter fun line => !isDocLine line

def lineSpan (ls : List Line) (c : DocComment) : List Line := (ls.take c.stop).drop c.start

/-- What a comment in the lines `old` that is not disabled becomes in the lines `new`. -/
structure KeptAs (old new : List Line) (c d : DocComment) : Prop where
  declaration : d.declaration = c.declaration
  text : d.text = Comment.sanitize c.text
  lines : Comment.sanitize c.text = c.text → lineSpan new d = lineSpan old c

variable {patterns : List (List Char)} {package : List Line}

theorem codeLines_append (first second : List Line) :
    codeLines (first ++ second) = codeLines first ++ codeLines second :=
  List.filter_append ..

theorem codeLines_of_docs {run : List Line} (docs : ∀ line ∈ run, isDocLine line = true) :
    codeLines run = [] := by
  simpa [codeLines, List.filter_eq_nil_iff] using docs

theorem codeLines_rewritten {ps : List Piece} (cut : Piece.Cut ps)
    (clean : ∀ line ∈ ps.flatMap Piece.lines, '\n' ∉ line) (scan : Scan) :
    codeLines ((rewritten patterns package scan ps).flatMap Piece.lines) =
      codeLines (ps.flatMap Piece.lines) := by
  induction cut generalizing scan with
  | nil => rfl
  | @code line ps plain next ih =>
    have later := ih (fun l member => clean l (by simp [member])) (scan.passCode line)
    rw [rewritten, List.flatMap_cons, List.flatMap_cons, codeLines_append, codeLines_append, later]
  | @doc run ps present docs apart next ih =>
    have own : ∀ line ∈ run, '\n' ∉ line := fun l member => clean l (by simp [Piece.lines, member])
    have later := ih (fun l member => clean l (by simp [member])) scan
    have gone := codeLines_of_docs (isDocLine_of_mem_rewrittenRun present docs own)
    rw [List.flatMap_cons, codeLines_append, Piece.lines, codeLines_of_docs docs, List.nil_append,
      rewritten]
    split
    · exact later
    · rw [List.flatMap_cons, codeLines_append, Piece.lines, gone, List.nil_append, later]

/-- No lines at all are read back as one empty line, which makes no difference to the text. -/
theorem unlines_codeLines_unlines {ls : List Line} (clean : ∀ line ∈ ls, '\n' ∉ line) :
    unlines (codeLines (lines (unlines ls))) = unlines (codeLines ls) := by
  by_cases none : ls = []
  · rw [none]
    rfl
  · rw [lines_unlines none clean]

theorem lineSpan_run {ls before run after : List Line} (whole : ls = before ++ (run ++ after))
    (declaration : List Char) :
    lineSpan ls (Scan.comment declaration before.length run) = run := by
  rw [lineSpan, Scan.comment, List.drop_take, whole, List.drop_left, Nat.add_sub_cancel_left,
    List.take_left]

theorem rewrittenRun_of_settled {run : List Line}
    (settled : Comment.sanitize (docText run) = docText run) : rewrittenRun run = run :=
  if_pos settled

theorem forall₂_keptAs_behind {old new : List Line} (ps : List Piece) (scan : Scan)
    {front back : List Line} (before : old = front ++ ps.flatMap Piece.lines)
    (after : new = back ++ (rewritten patterns package scan ps).flatMap Piece.lines) :
    List.Forall₂ (KeptAs old new)
      ((scan.commentsOf package front.length ps).filter fun c =>
        !Pattern.disables patterns c.declaration)
      (scan.commentsOf package back.length (rewritten patterns package scan ps)) := by
  -- what stands in front need not be of one length, so both fronts are general
  induction ps generalizing scan front back with
  | nil => exact .nil
  | cons p rest ih =>
    cases p with
    | code line =>
      have later := @ih (scan.passCode line) (front ++ [line]) (back ++ [line])
        (by rw [before]; simp [Piece.lines]) (by rw [after]; simp [rewritten, Piece.lines])
      simpa [Scan.commentsOf, rewritten] using later
    | doc run =>
      rw [List.flatMap_cons, Piece.lines] at before
      have before' : old = front ++ run ++ rest.flatMap Piece.lines := by
        rw [before, List.append_assoc]
      by_cases disabled : Pattern.disables patterns (scan.declarationBelow package rest) = true
      · rw [rewritten, if_pos disabled] at after ⊢
        have later := @ih scan (front ++ run) back before' after
        rw [List.length_append] at later
        simpa [Scan.commentsOf, Scan.comment, disabled] using later
      · rw [rewritten, if_neg disabled] at after ⊢
        rw [List.flatMap_cons, Piece.lines] at after
        have later := @ih scan (front ++ run) (back ++ rewrittenRun run) before'
          (by rw [after, List.append_assoc])
        rw [List.length_append, List.length_append] at later
        have kept : (!Pattern.disables patterns (Scan.comment (scan.declarationBelow package rest)
            front.length run).declaration) = true := by simpa [Scan.comment] using disabled
        rw [Scan.commentsOf, List.filter_cons, if_pos kept, Scan.commentsOf,
          declarationBelow_rewritten]
        refine .cons ⟨rfl, docText_rewrittenRun run, fun settled => ?_⟩ later
        rw [lineSpan_run after, lineSpan_run before]
        exact rewrittenRun_of_settled settled

theorem forall₂_keptAs (patterns : List (List Char)) (package : List Line) (ps : List Piece) :
    List.Forall₂ (KeptAs (ps.flatMap Piece.lines)
        ((rewritten patterns package {} ps).flatMap Piece.lines))
      ((Scan.commentsOf package 0 {} ps).filter fun c => !Pattern.disables patterns c.declaration)
      (Scan.commentsOf package 0 {} (rewritten patterns package {} ps)) :=
  @forall₂_keptAs_behind patterns package _ _ ps {} [] [] rfl rfl

namespace GeneratedUnit

variable {u : GeneratedUnit}

/-- Sanitizing a unit changes no line of code, and no line of a comment that is kept and is sanitized
already. -/
theorem frame_of_sanitize (own : u.comments = docComments package u.source)
    (patterns : List (List Char)) :
    unlines (codeLines (Text.lines (u.sanitize patterns).source)) =
        unlines (codeLines (Text.lines u.source)) ∧
      List.Forall₂ (KeptAs (Text.lines u.source) (Text.lines (u.sanitize patterns).source))
        (u.comments.filter fun c => !Pattern.disables patterns c.declaration)
        (u.sanitize patterns).comments := by
  have cut := Piece.cut_ofLines (Text.lines u.source)
  have clean := newline_notMem_ofLines u.source
  have clean' : ∀ line ∈ (rewritten patterns package {}
      (Piece.ofLines (Text.lines u.source))).flatMap Piece.lines, '\n' ∉ line :=
    newline_notMem_rewritten cut clean {}
  have kept := forall₂_keptAs patterns package (Piece.ofLines (Text.lines u.source))
  rw [Piece.flatMap_ofLines] at kept
  rw [sanitize_extracted own patterns]
  dsimp only
  refine ⟨?_, ?_⟩
  · rw [unlines_codeLines_unlines clean', codeLines_rewritten cut clean, Piece.flatMap_ofLines]
  · rw [own, docComments_eq]
    by_cases none : (rewritten patterns package {}
        (Piece.ofLines (Text.lines u.source))).flatMap Piece.lines = []
    · -- nothing is left, so no comment was kept
      rw [(cut_rewritten cut clean {}).eq_nil none] at kept ⊢
      rw [List.forall₂_nil_right_iff.1 kept]
      exact .nil
    · rw [lines_unlines none clean']
      exact kept

def bordered : GeneratedUnit :=
  ofSource ["p".toList]
    "/// a\n\t/// b\nmod m \x7b\n/// \x60\x60\x60\n/// c\n\x7d\nstruct A;\n//// d\n/// e".toList "p.rs"

theorem frame_of_bordered :
    bordered.comments = docComments bordered.package bordered.source ∧
    unlines (codeLines (Text.lines (bordered.sanitize [".p.m".toList]).source)) =
      unlines (codeLines (Text.lines bordered.source)) ∧
    List.Forall₂
      (KeptAs (Text.lines bordered.source) (Text.lines (bordered.sanitize [".p.m".toList]).source))
      (bordered.comments.filter fun c => !Pattern.disables [".p.m".toList] c.declaration)
      (bordered.sanitize [".p.m".toList]).comments :=
  ⟨rfl, frame_of_sanitize rfl [".p.m".toList]⟩

end GeneratedUnit

end ProtoModules.Source
