import ProtoModules.Proofs.Source.Rewrite
import ProtoModules.Proofs.Source.Runs

/-! The source of a sanitized unit, line by line. Every run of documentation lines in it has a text that
is sanitized already, a pattern for all declarations leaves no run at all, and a source that does
not end in a documentation line still does not. -/

namespace ProtoModules.Source
open Text Comment

def withoutFinalNewline (s : List Char) : List Char :=
  if s.getLast? = some '\n' then s.dropLast else s

def EndsPlain (s : List Char) : Prop :=
  ∀ line ∈ (lines (withoutFinalNewline s)).getLast?, isDocLine line = false

theorem withoutFinalNewline_append (s : List Char) : withoutFinalNewline (s ++ ['\n']) = s := by
  simp [withoutFinalNewline]

theorem withoutFinalNewline_of_ne {s : List Char} (other : s.getLast? ≠ some '\n') :
    withoutFinalNewline s = s := if_neg other

theorem getLast?_lines_ne_nil {s : List Char} (present : s ≠ []) (other : s.getLast? ≠ some '\n') :
    (lines s).getLast? ≠ some [] := by
  obtain ⟨front, c, rfl⟩ := List.eq_nil_or_concat' s |>.resolve_left present
  have clean : '\n' ∉ [c] := by
    simpa [eq_comm] using other
  obtain ⟨pieces, last, -, longer⟩ := splitOn_append_of_notMem clean front
  rw [lines, longer]
  simp

theorem endsPlain_iff {s : List Char} {front : List Line} {last : Line}
    (cut : lines s = front ++ [last]) :
    EndsPlain s ↔ isDocLine last = false ∧
      (last = [] → ∀ line ∈ front.getLast?, isDocLine line = false) := by
  by_cases newline : s.getLast? = some '\n'
  · obtain ⟨rest, rfl⟩ := List.getLast?_eq_some_iff.1 newline
    rw [WholeLines.lines_append_newline] at cut
    obtain ⟨rfl, same⟩ := List.append_inj' cut rfl
    obtain rfl := List.singleton_inj.1 same
    rw [EndsPlain, withoutFinalNewline_append]
    exact ⟨fun ended => ⟨by decide, fun _ => ended⟩, fun ended => ended.2 rfl⟩
  · rw [EndsPlain, withoutFinalNewline_of_ne newline, cut]
    by_cases empty : s = []
    · subst empty
      obtain ⟨rfl, same⟩ := List.append_inj' (show [] ++ [[]] = front ++ [last] from cut) rfl
      obtain rfl := List.singleton_inj.1 same
      simp
    · have some : last ≠ [] := by
        intro none
        exact getLast?_lines_ne_nil empty newline (by rw [cut, none, List.getLast?_concat])
      simp [some]

theorem mem_ofLines_of_withoutFinalNewline {s : List Char} (ended : EndsPlain s) {run : List Line}
    (member : Piece.doc run ∈ Piece.ofLines (lines (withoutFinalNewline s))) :
    Piece.doc run ∈ Piece.ofLines (lines s) := by
  by_cases newline : s.getLast? = some '\n'
  · obtain ⟨rest, rfl⟩ := List.getLast?_eq_some_iff.1 newline
    rw [EndsPlain, withoutFinalNewline_append] at ended
    rw [withoutFinalNewline_append] at member
    rw [WholeLines.lines_append_newline, Piece.ofLines_append ended]
    exact List.mem_append_left _ member
  · rwa [withoutFinalNewline_of_ne newline] at member

variable {patterns : List (List Char)} {package : List Line} {source : List Char} {origin : String}

theorem Piece.Cut.append_code {ps : List Piece} (cut : Piece.Cut ps) {ls : List Line}
    (plain : ∀ line ∈ ls, isDocLine line = false) : Piece.Cut (ps ++ ls.map Piece.code) := by
  induction cut with
  | nil =>
    induction ls with
    | nil => exact .nil
    | cons line rest ih =>
      exact .code (plain line List.mem_cons_self)
        (ih fun l member => plain l (List.mem_cons_of_mem _ member))
  | code first next ih => exact .code first ih
  | @doc run ps present docs apart next ih =>
    refine .doc present docs (fun other first => ?_) ih
    cases ps with
    | nil => cases ls <;> simp at first
    | cons p ps => exact apart other first

theorem Piece.flatMap_code (ls : List Line) : (ls.map Piece.code).flatMap Piece.lines = ls := by
  induction ls with
  | nil => rfl
  | cons line rest ih => rw [List.map_cons, List.flatMap_cons, ih]; rfl

theorem Piece.ofLines_append_code (front : List Line) {ls : List Line}
    (plain : ∀ line ∈ ls, isDocLine line = false) :
    Piece.ofLines (front ++ ls) = Piece.ofLines front ++ ls.map Piece.code := by
  have found := Piece.ofLines_flatMap ((Piece.cut_ofLines front).append_code plain)
  rwa [List.flatMap_append, Piece.flatMap_ofLines, Piece.flatMap_code] at found

theorem rewritten_code (scan : Scan) (ls : List Line) :
    rewritten patterns package scan (ls.map Piece.code) = ls.map Piece.code := by
  induction ls generalizing scan with
  | nil => rfl
  | cons line rest ih => rw [List.map_cons, rewritten, ih]

theorem rewritten_append_code (patterns : List (List Char)) (package : List Line) (scan : Scan)
    (ps : List Piece) (ls : List Line) :
    ∃ qs, rewritten patterns package scan (ps ++ ls.map Piece.code) = qs ++ ls.map Piece.code := by
  induction ps generalizing scan with
  | nil => exact ⟨[], rewritten_code scan ls⟩
  | cons p rest ih =>
    cases p with
    | code line =>
      obtain ⟨qs, same⟩ := ih (scan.passCode line)
      exact ⟨.code line :: qs, by rw [List.cons_append, rewritten, same, List.cons_append]⟩
    | doc run =>
      obtain ⟨qs, same⟩ := ih scan
      rw [List.cons_append, rewritten]
      split
      · exact ⟨qs, same⟩
      · exact ⟨.doc (rewrittenRun run) :: qs, by rw [same, List.cons_append]⟩

theorem mem_rewritten {scan : Scan} {ps : List Piece} {run : List Line}
    (member : Piece.doc run ∈ rewritten patterns package scan ps) :
    ∃ old declaration, run = rewrittenRun old ∧ ¬ Pattern.disables patterns declaration = true := by
  induction ps generalizing scan with
  | nil => simp [rewritten] at member
  | cons p rest ih =>
    cases p with
    | code line => exact ih (by simpa [rewritten] using member)
    | doc old =>
      rw [rewritten] at member
      split at member
      · exact ih member
      · rename_i enabled
        rcases List.mem_cons.1 member with same | later
        · exact ⟨old, _, Piece.doc.inj same, enabled⟩
        · exact ih later

theorem disables_of_dot (every : ['.'] ∈ patterns) (declaration : List Char) :
    Pattern.disables patterns declaration = true := by
  rw [Pattern.disables, List.any_eq_true]
  exact ⟨['.'], every, by simp [Pattern.covers]⟩

def SettledRun (patterns : List (List Char)) (run : List Line) : Prop :=
  ['.'] ∉ patterns ∧ Comment.sanitize (docText run) = docText run

theorem sanitize_sanitized (text : List Char) :
    Comment.sanitize (Comment.sanitize text) = unlines (sanitizeLines (lines text)) := by
  rw [Comment.sanitize, lines_sanitize, sanitizeLines_sanitizeLines]

theorem settledRun_of_mem_rewritten {scan : Scan} {ps : List Piece} {run : List Line}
    (member : Piece.doc run ∈ rewritten patterns package scan ps) : SettledRun patterns run := by
  obtain ⟨old, declaration, rfl, enabled⟩ := mem_rewritten member
  refine ⟨fun every => enabled (disables_of_dot every declaration), ?_⟩
  rw [docText_rewrittenRun, sanitize_sanitized, Comment.sanitize]

namespace GeneratedUnit

theorem lines_sanitize_source
    (some : (rewritten patterns package {} (Piece.ofLines (Text.lines source))).flatMap
      Piece.lines ≠ []) :
    Text.lines ((ofSource package source origin).sanitize patterns).source =
      (rewritten patterns package {} (Piece.ofLines (Text.lines source))).flatMap Piece.lines := by
  have cut := Piece.cut_ofLines (Text.lines source)
  rw [sanitize_ofSource]
  exact lines_unlines some (newline_notMem_rewritten cut (newline_notMem_ofLines source) {})

theorem settledRun_of_sanitize {run : List Line}
    (member : Piece.doc run ∈
      Piece.ofLines (Text.lines ((ofSource package source origin).sanitize patterns).source)) :
    SettledRun patterns run := by
  by_cases gone : (rewritten patterns package {} (Piece.ofLines (Text.lines source))).flatMap
      Piece.lines = []
  · -- nothing is left, which makes the same source as one empty line
    have plain : ∀ line ∈ Text.lines (unlines []), isDocLine line = false := by decide
    rw [sanitize_ofSource, gone] at member
    exact absurd member (Piece.doc_notMem_ofLines plain run)
  · have cut : Piece.Cut (rewritten patterns package {} (Piece.ofLines (Text.lines source))) :=
      cut_rewritten (Piece.cut_ofLines _) (newline_notMem_ofLines source) {}
    rw [lines_sanitize_source gone, Piece.ofLines_flatMap cut] at member
    exact settledRun_of_mem_rewritten member

theorem exists_lines_sanitize (patterns : List (List Char)) (package : List Line) (origin : String)
    {front ls : List Line} (present : ls ≠ []) (plain : ∀ line ∈ ls, isDocLine line = false) (cut : Text.lines source = front ++ ls) :
    ∃ before, Text.lines ((ofSource package source origin).sanitize patterns).source =
      before ++ ls := by
  have pieces : Piece.ofLines (Text.lines source) = Piece.ofLines front ++ ls.map Piece.code := by
    rw [cut, Piece.ofLines_append_code front plain]
  obtain ⟨qs, same⟩ := rewritten_append_code patterns package {} (Piece.ofLines front) ls
  have whole : (rewritten patterns package {} (Piece.ofLines (Text.lines source))).flatMap
      Piece.lines = qs.flatMap Piece.lines ++ ls := by
    rw [pieces, same, List.flatMap_append, Piece.flatMap_code]
  refine ⟨qs.flatMap Piece.lines, ?_⟩
  rw [lines_sanitize_source (by simp [whole, present]), whole]

theorem endsPlain_sanitize (ended : EndsPlain source) :
    EndsPlain ((ofSource package source origin).sanitize patterns).source := by
  obtain ⟨front, last, cut⟩ := (List.eq_nil_or_concat' (Text.lines source)).resolve_left
    (lines_ne_nil source)
  obtain ⟨plain, before⟩ := (endsPlain_iff cut).1 ended
  by_cases some : last = []
  · subst some
    rcases List.eq_nil_or_concat' front with rfl | ⟨front, line, rfl⟩
    · -- an empty source stays empty
      have empty : source = [] := by rw [← unlines_lines source, cut]; rfl
      have gone : ((ofSource package source origin).sanitize patterns).source = [] := by
        rw [empty, sanitize_ofSource]
        rfl
      rw [gone, ← empty]
      exact ended
    · have own : isDocLine line = false := before rfl line (by simp)
      have both : ∀ l ∈ [line, []], isDocLine l = false := by simp [own, plain]
      obtain ⟨kept, same⟩ := exists_lines_sanitize patterns package origin (by simp) both
        (by rw [cut, List.append_assoc]; rfl)
      rw [List.append_cons] at same
      exact (endsPlain_iff same).2 ⟨plain, by simp [own]⟩
  · have one : ∀ l ∈ [last], isDocLine l = false := by simp [plain]
    obtain ⟨kept, same⟩ := exists_lines_sanitize patterns package origin (by simp) one cut
    exact (endsPlain_iff same).2 ⟨plain, by simp [some]⟩

end GeneratedUnit

end ProtoModules.Source
