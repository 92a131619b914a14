import Mathlib.Data.List.Induction
import ProtoModules.Proofs.Comment.LiveCode

/-! Comments that are prose throughout: no line opens a fence and no line is live code. Sanitizing
leaves such a comment as it is, unless it takes a line for the underline of a heading that is none
and wraps the indented line right below. -/

namespace ProtoModules.Comment
open Text

def inParagraphBehind (base : Nat) (before : List Line) : Bool :=
  before.foldl (opensParagraph base) false

/-- A line that sanitizing takes for the underline of a heading although the paragraph that it continues
is still open behind it. -/
structure IsFalseUnderline (base : Nat) (front : List Line) (line : Line) : Prop where
  inParagraph : inParagraphBehind base front = true
  equals : isUnderline (trim line) = true
  goesOn : Spot.behind base (front ++ [line]) = .text true

/-- An indented line is covered by the paragraph that sanitizing takes to be open before it. -/
def Covered (base : Nat) (before : List Line) (line : Line) : Prop :=
  isIndentedCode base line = true → inParagraphBehind base before = true

variable {base : Nat} {inParagraph : Bool} {before ls : List Line} {bs : List Block} {line : Line}

theorem inParagraphBehind_concat (base : Nat) (before : List Line) (line : Line) :
    inParagraphBehind base (before ++ [line]) =
      opensParagraph base (inParagraphBehind base before) line :=
  List.foldl_concat ..

theorem reads_of_covered (plain : ∀ line ∈ ls, Fence.open? base line = none)
    (covered : Each (Covered base) before ls) :
    Reads base (inParagraphBehind base before) ls (ls.map Block.prose) := by
  induction ls generalizing before with
  | nil => exact .done
  | cons line rest ih =>
    obtain ⟨own, later⟩ := covered
    rw [List.forall_mem_cons] at plain
    have next := ih plain.2 later
    rw [inParagraphBehind_concat] at next
    refine .prose plain.1 ?_ next
    cases indented : isIndentedCode base line with
    | true => simp [own indented]
    | false => simp

theorem Reads.each_covered (reads : Reads base inParagraph ls bs)
    (plain : ∀ line ∈ ls, Fence.open? base line = none) (unwrapped : ∀ run, Block.code run ∉ bs)
    (here : inParagraphBehind base before = inParagraph) : Each (Covered base) before ls := by
  induction reads generalizing before with
  | done => trivial
  | closed opens inside ends next ih => simp [opens] at plain
  | unclosed opens inside => simp [opens] at plain
  | code indented next ih => exact absurd List.mem_cons_self (unwrapped _)
  | @prose inParagraph line rest bs own text next ih =>
    rw [List.forall_mem_cons] at plain
    refine ⟨fun indented => ?_, ih plain.2 (fun run member =>
      unwrapped run (List.mem_cons_of_mem _ member)) ?_⟩
    · simpa [here, indented] using text
    · rw [inParagraphBehind_concat, here]

theorem sanitizeLines_eq_self_iff (plain : ∀ line ∈ ls, Fence.open? (baseIndent ls) line = none) :
    sanitizeLines ls = ls ↔ Each (Covered (baseIndent ls)) [] ls := by
  constructor
  · intro same
    have unwrapped := code_notMem_blocks_sanitizeLines ls
    rw [same] at unwrapped
    exact (reads_blocks ls).each_covered plain unwrapped rfl
  · exact fun covered => sanitizeLines_of_prose (reads_of_covered plain covered)

theorem exists_behind_of_plain (plain : ∀ line ∈ before, Fence.open? base line = none) :
    ∃ open?, Spot.behind base before = .text open? := by
  induction before using List.reverseRecOn with
  | nil => exact ⟨false, rfl⟩
  | append_singleton front line ih =>
    rw [List.forall_mem_append, List.forall_mem_singleton] at plain
    obtain ⟨open?, spot⟩ := ih plain.1
    exact ⟨_, by rw [Spot.behind_concat, spot, Spot.next, plain.2]⟩

theorem covered_iff (plain : ∀ line ∈ before, Fence.open? base line = none)
    (inert : ¬ IsLive base before line) :
    Covered base before line ↔ (isIndentedCode base line = true →
      ∀ front taken, before = front ++ [taken] → ¬ IsFalseUnderline base front taken) := by
  refine forall_congr' fun indented => ?_
  constructor
  · rintro covered front taken rfl wrong
    have closed : opensParagraph base (inParagraphBehind base front) taken = false := by
      simp [opensParagraph, wrong.inParagraph, wrong.equals]
    rw [inParagraphBehind_concat, closed] at covered
    contradiction
  · intro right
    obtain ⟨open?, spot⟩ := exists_behind_of_plain plain
    obtain rfl : open? = true := by
      by_contra closed
      rw [Bool.not_eq_true] at closed
      exact inert ⟨by rw [spot, closed], indented⟩
    rcases List.eq_nil_or_concat' before with rfl | ⟨front, taken, rfl⟩
    · cases spot
    · rw [List.forall_mem_append, List.forall_mem_singleton] at plain
      obtain ⟨earlier, spot'⟩ := exists_behind_of_plain plain.1
      -- what ends a paragraph for both readings does not stand here
      have stays : allBlank taken = false ∧ endsParagraph base taken = false := by
        rw [Spot.behind_concat, spot', Spot.next, plain.2] at spot
        simp only [Spot.text.injEq, Bool.not_eq_true', Bool.or_eq_false_iff] at spot
        exact spot.1
      by_contra closed
      rw [Bool.not_eq_true, inParagraphBehind_concat, opensParagraph, stays.1, stays.2] at closed
      simp only [Bool.false_or, Bool.not_eq_false', Bool.and_eq_true] at closed
      exact right front taken rfl ⟨closed.1, closed.2, spot⟩

/-- A comment without fences and live code stays as it is exactly if none of its indented lines stands
right below a line that is mistaken for the underline of a heading. -/
theorem sanitize_prose_iff (text : List Char)
    (fenceless : ∀ line ∈ lines text, Fence.open? (baseIndent (lines text)) line = none)
    (inert : ∀ before line after, lines text = before ++ line :: after →
      ¬ IsLive (baseIndent (lines text)) before line) :
    sanitize text = text ↔ ∀ front taken line after, lines text = front ++ taken :: line :: after →
      isIndentedCode (baseIndent (lines text)) line = true →
        ¬ IsFalseUnderline (baseIndent (lines text)) front taken := by
  have byLines : sanitize text = text ↔ sanitizeLines (lines text) = lines text := by
    constructor
    · intro same
      rw [← lines_sanitize, same]
    · intro same
      rw [sanitize, same, unlines_lines]
  have covered_here : ∀ before line after, lines text = before ++ line :: after →
      (Covered (baseIndent (lines text)) before line ↔
        (isIndentedCode (baseIndent (lines text)) line = true → ∀ front taken,
          before = front ++ [taken] → ¬ IsFalseUnderline (baseIndent (lines text)) front taken)) := by
    intro before line after whole
    refine covered_iff (fun l member => fenceless l ?_) (inert before line after whole)
    rw [whole]
    exact List.mem_append_left _ member
  rw [byLines, sanitizeLines_eq_self_iff fenceless, each_iff]
  constructor
  · intro covered front taken line after whole indented
    have behind : lines text = (front ++ [taken]) ++ line :: after := by simpa using whole
    exact (covered_here _ _ _ behind).1 (covered _ _ _ behind) indented _ _ rfl
  · intro right before line after whole
    refine (covered_here before line after whole).2 fun indented front taken cut => ?_
    exact right front taken line after (by simpa [cut] using whole) indented

def deeplyUnderlined : List Char := "foo\n        ===\n    bar".toList

theorem lines_deeplyUnderlined :
    lines deeplyUnderlined = ["foo".toList, "        ===".toList, "    bar".toList] := by
  decide

theorem deeplyUnderlined_inert :
    (∀ line ∈ lines deeplyUnderlined,
      Fence.open? (baseIndent (lines deeplyUnderlined)) line = none) ∧
    ∀ before line after, lines deeplyUnderlined = before ++ line :: after →
      ¬ IsLive (baseIndent (lines deeplyUnderlined)) before line := by
  have each : Each (fun before line => ¬ IsLive (baseIndent (lines deeplyUnderlined)) before line)
      [] (lines deeplyUnderlined) := by
    rw [lines_deeplyUnderlined]
    refine ⟨fun live => ?_, fun live => ?_, fun live => ?_, trivial⟩
    · exact absurd live.indented (by decide)
    · exact absurd live.spot nofun
    · exact absurd live.spot nofun
  exact ⟨by decide +kernel, (each_iff _ _).1 each⟩

theorem isFalseUnderline_deep :
    IsFalseUnderline (baseIndent (lines deeplyUnderlined)) ["foo".toList] "        ===".toList :=
  ⟨by decide, by decide, rfl⟩

theorem sanitize_prose_deep :
    ((∀ line ∈ lines deeplyUnderlined,
        Fence.open? (baseIndent (lines deeplyUnderlined)) line = none) ∧
      ∀ before line after, lines deeplyUnderlined = before ++ line :: after →
        ¬ IsLive (baseIndent (lines deeplyUnderlined)) before line) ∧
    sanitize deeplyUnderlined ≠ deeplyUnderlined := by
  obtain ⟨fenceless, inert⟩ := deeplyUnderlined_inert
  refine ⟨⟨fenceless, inert⟩, fun same => ?_⟩
  have right := (sanitize_prose_iff deeplyUnderlined fenceless inert).1 same
  exact right ["foo".toList] _ "    bar".toList [] lines_deeplyUnderlined (by decide)
    isFalseUnderline_deep

theorem sanitize_deeplyUnderlined :
    sanitize deeplyUnderlined =
      "foo\n        ===\n\x60\x60\x60text\n    bar\n\x60\x60\x60".toList := by
  decide +kernel

theorem not_prose_of_deep_underline :
    ¬ ∀ text : List Char,
      (∀ line ∈ lines text, Fence.open? (baseIndent (lines text)) line = none) →
      (∀ before line after, lines text = before ++ line :: after →
        ¬ IsLive (baseIndent (lines text)) before line) →
      sanitize text = text := by
  intro kept
  obtain ⟨fenceless, inert⟩ := deeplyUnderlined_inert
  have same := kept deeplyUnderlined fenceless inert
  rw [sanitize_deeplyUnderlined] at same
  exact absurd same (by decide)

end ProtoModules.Comment
