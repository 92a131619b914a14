import Mathlib.Data.List.Pairwise
import ProtoModules.Proofs.Source.Frame
import ProtoModules.Proofs.Source.Runs

/-! The places of comments. The comments of a source stand in the order of its lines and apart from each
other, each is a maximal run of documentation lines, and no documentation line is left over; text
and indentation make up the lines of the run again. -/

namespace ProtoModules.Source
open Text

/-- A comment is a maximal run of lines, and it can be written out again: as these lines with the
indentation of the first one in front of each. -/
structure IsRunOf (ls : List Line) (c : DocComment) : Prop where
  filled : c.start < c.stop
  inside : c.stop ≤ ls.length
  maximal : MaximalRun ls (ls.take c.start) (lineSpan ls c) (ls.drop c.stop)
  restored : joinDocLines c.text c.indent =
    (lineSpan ls c).map fun line => docIndent (lineSpan ls c) ++ trimStart line

theorem Piece.Cut.last_plain {qs ps : List Piece} {run : List Line}
    (cut : Piece.Cut (qs ++ .doc run :: ps)) :
    ∀ line ∈ (qs.flatMap Piece.lines).getLast?, isDocLine line = false := by
  induction qs with
  | nil => simp
  | cons q rest ih =>
    have later : Piece.Cut (rest ++ .doc run :: ps) := by
      cases cut with
      | code plain next => exact next
      | doc present docs apart next => exact next
    by_cases some : rest.flatMap Piece.lines = []
    · -- nothing stands between the first piece and the run, so that piece is no run
      rw [List.flatMap_cons, some, List.append_nil]
      cases cut with
      | code plain next => simpa [Piece.lines] using plain
      | doc present docs apart next =>
        cases rest with
        | nil => exact absurd rfl (apart run)
        | cons r more =>
          cases next with
          | code plain next => simp [Piece.lines] at some
          | doc present docs apart next => simp [Piece.lines, present] at some
    · rw [List.flatMap_cons, List.getLast?_append_of_ne_nil _ some]
      exact ih later

theorem Piece.Cut.head_plain {ps : List Piece} {run : List Line}
    (cut : Piece.Cut (.doc run :: ps)) :
    ∀ line ∈ (ps.flatMap Piece.lines).head?, isDocLine line = false := by
  cases cut with
  | doc present docs apart next =>
    cases next with
    | nil => simp
    | code plain next => simpa [Piece.lines] using plain
    | @doc other ps present docs apart' next => exact absurd rfl (apart other)

theorem Piece.Cut.suffix {qs ps : List Piece} (cut : Piece.Cut (qs ++ ps)) : Piece.Cut ps := by
  induction qs with
  | nil => exact cut
  | cons q rest ih =>
    cases cut with
    | code plain next => exact ih next
    | doc present docs apart next => exact ih next

theorem Piece.Cut.maximalRun {qs ps : List Piece} {run : List Line}
    (cut : Piece.Cut (qs ++ .doc run :: ps)) :
    MaximalRun ((qs ++ .doc run :: ps).flatMap Piece.lines) (qs.flatMap Piece.lines) run
      (ps.flatMap Piece.lines) where
  whole := by simp [Piece.lines]
  present := by
    cases cut.suffix with
    | doc present docs apart next => exact present
  docs := by
    cases cut.suffix with
    | doc present docs apart next => exact docs
  start := cut.last_plain
  stop := cut.suffix.head_plain

namespace Scan

variable {package : List Line} {index : Nat} {scan : Scan} {c : DocComment}

theorem exists_split_of_mem_commentsOf {ps : List Piece}
    (member : c ∈ commentsOf package index scan ps) :
    ∃ qs run rs declaration, ps = qs ++ .doc run :: rs ∧
      c = comment declaration (index + (qs.flatMap Piece.lines).length) run := by
  induction ps generalizing index scan with
  | nil => simp [commentsOf] at member
  | cons p rest ih =>
    cases p with
    | code line =>
      obtain ⟨qs, run, rs, declaration, rfl, rfl⟩ := ih member
      refine ⟨.code line :: qs, run, rs, declaration, rfl, ?_⟩
      congr 1
      simp only [List.flatMap_cons, Piece.lines, List.length_append, List.length_singleton]
      omega
    | doc run =>
      rcases List.mem_cons.1 member with rfl | later
      · exact ⟨[], run, rest, _, rfl, rfl⟩
      · obtain ⟨qs, other, rs, declaration, rfl, rfl⟩ := ih later
        refine ⟨.doc run :: qs, other, rs, declaration, rfl, ?_⟩
        congr 1
        simp only [List.flatMap_cons, Piece.lines, List.length_append]
        omega

theorem pairwise_commentsOf (ps : List Piece) (index : Nat) (scan : Scan) :
    (commentsOf package index scan ps).Pairwise fun c d => c.stop ≤ d.start := by
  induction ps generalizing index scan with
  | nil => exact .nil
  | cons p rest ih =>
    cases p with
    | code line => exact ih _ _
    | doc run => exact .cons (fun d later => le_start_of_mem_commentsOf later) (ih _ _)

theorem exists_comment_of_docLine {ps : List Piece} (cut : Piece.Cut ps) {i : Nat} {line : Line}
    (found : (ps.flatMap Piece.lines)[i]? = some line) (doc : isDocLine line = true) :
    ∃ c ∈ commentsOf package index scan ps, c.start ≤ index + i ∧ index + i < c.stop := by
  induction cut generalizing index scan i with
  | nil => simp at found
  | @code first ps plain next ih =>
    cases i with
    | zero =>
      obtain rfl : first = line := by simpa [Piece.lines] using found
      simp [plain] at doc
    | succ i =>
      obtain ⟨c, member, lower, upper⟩ :=
        @ih (index + 1) (scan.passCode first) i (by simpa [Piece.lines] using found)
      exact ⟨c, member, by omega, by omega⟩
  | @doc run ps present docs apart next ih =>
    by_cases inside : i < run.length
    · exact ⟨_, List.mem_cons_self, Nat.le_add_right .., by simpa [comment] using inside⟩
    · rw [List.flatMap_cons, Piece.lines, List.getElem?_append_right (by omega)] at found
      obtain ⟨c, member, lower, upper⟩ := @ih (index + run.length) scan _ found
      exact ⟨c, List.mem_cons_of_mem _ member, by omega, by omega⟩

end Scan

theorem docMark_append_docBody {line : Line} (doc : isDocLine line = true) :
    docMark ++ docBody line = trimStart line := by
  obtain ⟨body, whole, -⟩ := (isDocLine_iff line).1 doc
  rw [docBody, whole, List.drop_left]

theorem joinDocLines_docText {run : List Line} (present : run ≠ [])
    (docs : ∀ line ∈ run, isDocLine line = true) (clean : ∀ line ∈ run, '\n' ∉ line) :
    joinDocLines (docText run) (docIndent run) =
      run.map fun line => docIndent run ++ trimStart line := by
  rw [joinDocLines, lines_docText present clean, List.map_map]
  refine List.map_congr_left fun line member => ?_
  rw [← docMark_append_docBody (docs line member), ← List.append_assoc]
  rfl

theorem MaximalRun.isRunOf {ls before run after : List Line}
    (maximal : MaximalRun ls before run after) (clean : ∀ line ∈ ls, '\n' ∉ line)
    (declaration : List Char) : IsRunOf ls (Scan.comment declaration before.length run) := by
  have span : lineSpan ls (Scan.comment declaration before.length run) = run :=
    lineSpan_run (by rw [maximal.whole, List.append_assoc]) declaration
  have front : ls.take before.length = before := by
    rw [maximal.whole, List.append_assoc, List.take_left]
  have back : ls.drop (before.length + run.length) = after := by
    rw [maximal.whole, ← List.length_append, List.drop_left]
  have own : ∀ line ∈ run, '\n' ∉ line := fun line member =>
    clean line (by rw [maximal.whole]; simp [member])
  have size : ls.length = before.length + run.length + after.length := by
    rw [maximal.whole, List.length_append, List.length_append]
  refine ⟨?_, ?_, ?_, ?_⟩
  · exact Nat.lt_add_of_pos_right (List.length_pos_of_ne_nil maximal.present)
  · exact size ▸ Nat.le_add_right _ _
  · rw [span]
    simpa only [Scan.comment, front, back] using maximal
  · rw [span]
    exact joinDocLines_docText maximal.present maximal.docs own

variable {package : List Line} {source : List Char} {c d : DocComment}

theorem isRunOf_of_mem (member : c ∈ docComments package source) : IsRunOf (lines source) c := by
  rw [GeneratedUnit.docComments_eq] at member
  obtain ⟨qs, run, rs, declaration, split, rfl⟩ := Scan.exists_split_of_mem_commentsOf member
  have cut := Piece.cut_ofLines (lines source)
  have whole := Piece.flatMap_ofLines (lines source)
  rw [split] at cut whole
  have maximal := cut.maximalRun
  rw [whole] at maximal
  rw [Nat.zero_add]
  exact maximal.isRunOf (fun _ => newline_notMem_of_mem_lines) declaration

theorem pairwise_docComments (package : List Line) (source : List Char) :
    (docComments package source).Pairwise fun c d => c.stop ≤ d.start := by
  rw [GeneratedUnit.docComments_eq]
  exact Scan.pairwise_commentsOf _ _ _

theorem eq_of_common_line (first : c ∈ docComments package source)
    (second : d ∈ docComments package source) {i : Nat} (inside : c.start ≤ i ∧ i < c.stop)
    (inside' : d.start ≤ i ∧ i < d.stop) : c = d := by
  by_contra other
  have swap : Std.Symm fun c d : DocComment => c.stop ≤ d.start ∨ d.stop ≤ c.start :=
    ⟨fun _ _ => Or.symm⟩
  have either : (docComments package source).Pairwise fun c d =>
      c.stop ≤ d.start ∨ d.stop ≤ c.start := (pairwise_docComments package source).imp Or.inl
  have apart := either.forall first second other
  omega

/-- The comments of a source in order, one apart from the next: each is a maximal run, every
documentation line is in exactly one of them, and each gives back its lines with one indentation. -/
theorem spans_of_docComments (package : List Line) (source : List Char) :
    (docComments package source).Pairwise (fun c d => c.stop ≤ d.start) ∧
    (∀ c ∈ docComments package source, IsRunOf (lines source) c) ∧
    ∀ i line, (lines source)[i]? = some line → isDocLine line = true →
      ∃! c, c ∈ docComments package source ∧ c.start ≤ i ∧ i < c.stop := by
  refine ⟨pairwise_docComments package source, fun c => isRunOf_of_mem, fun i line found doc => ?_⟩
  have inside : ((Piece.ofLines (lines source)).flatMap Piece.lines)[i]? = some line := by
    rwa [Piece.flatMap_ofLines]
  obtain ⟨c, member, here⟩ :=
    @Scan.exists_comment_of_docLine package 0 {} _ (Piece.cut_ofLines _) _ _ inside doc
  rw [← GeneratedUnit.docComments_eq] at member
  rw [Nat.zero_add] at here
  exact ⟨c, ⟨member, here⟩, fun d other => eq_of_common_line other.1 member other.2 here⟩

end ProtoModules.Source
