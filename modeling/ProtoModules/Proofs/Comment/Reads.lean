import ProtoModules.Comment.Block
import ProtoModules.Proofs.Comment.Fence

/-! How the lines of a comment fall into blocks, as a relation with one rule for each kind of block. The
blocks that a comment is cut into are the only ones that the rules allow, so whatever holds rule by
rule holds of all comments. -/

namespace ProtoModules.Comment
open Text

/-- The lines fall into the blocks if they start behind an open paragraph, or not. -/
inductive Reads (base : Nat) : (inParagraph : Bool) → List Line → List Block → Prop where
  | done {inParagraph : Bool} : Reads base inParagraph [] []
  | closed {inParagraph : Bool} {fence : Fence} {opener closer : Line} {body rest : List Line}
      {bs : List Block} (opens : Fence.open? base opener = some fence)
      (inside : ∀ line ∈ body, fence.closes base line = false)
      (ends : fence.closes base closer = true) (next : Reads base false rest bs) :
      Reads base inParagraph (opener :: (body ++ closer :: rest))
        (.fenced fence opener body (some closer) :: bs)
  | unclosed {inParagraph : Bool} {fence : Fence} {opener : Line} {body : List Line}
      (opens : Fence.open? base opener = some fence)
      (inside : ∀ line ∈ body, fence.closes base line = false) :
      Reads base inParagraph (opener :: body) [.fenced fence opener body none]
  | code {line : Line} {rest : List Line} {bs : List Block}
      (indented : isIndentedCode base line = true)
      (next : Reads base false (codeRun base rest).2 bs) :
      Reads base false (line :: rest) (.code (line :: (codeRun base rest).1) :: bs)
  | prose {inParagraph : Bool} {line : Line} {rest : List Line} {bs : List Block}
      (plain : Fence.open? base line = none)
      (text : (!inParagraph && isIndentedCode base line) = false)
      (next : Reads base (opensParagraph base inParagraph line) rest bs) :
      Reads base inParagraph (line :: rest) (.prose line :: bs)

variable {base : Nat} {inParagraph : Bool} {ls : List Line} {bs : List Block}

theorem isDeep_of_isIndentedCode {line : Line} (indented : isIndentedCode base line = true) :
    isDeep base line = true := by
  simp only [isIndentedCode, Bool.and_eq_true] at indented
  exact indented.2

theorem reads_blocksFrom (base : Nat) (inParagraph : Bool) (ls : List Line) :
    Reads base inParagraph ls (blocksFrom base inParagraph ls) := by
  fun_induction blocksFrom base inParagraph ls with
  | case1 => exact .done
  | case2 inParagraph line rest fence opens body none =>
    have inside : ∀ l ∈ rest, fence.closes base l = false := by
      simpa [List.dropWhile_eq_nil_iff] using none
    have whole : body = rest := List.takeWhile_eq_self_iff.2 (by simpa using inside)
    rw [whole]
    exact .unclosed opens inside
  | case3 inParagraph line rest fence opens body closer after found ih =>
    have cut : body ++ closer :: after = rest := by
      rw [← found]
      exact List.takeWhile_append_dropWhile
    have inside : ∀ l ∈ body, fence.closes base l = false := by
      intro l member
      simpa using List.mem_takeWhile_imp member
    have ends : fence.closes base closer = true := by
      have stop := List.head?_dropWhile_not (fun l => !fence.closes base l) rest
      simpa [found] using stop
    rw [← cut]
    exact .closed opens inside ends ih
  | case4 inParagraph line rest plain indented ih =>
    simp only [Bool.and_eq_true, Bool.not_eq_true'] at indented
    obtain ⟨rfl, code⟩ := indented
    exact .code code ih
  | case5 inParagraph line rest plain text ih =>
    exact .prose plain (by simpa using text) ih

theorem Reads.eq_blocksFrom (reads : Reads base inParagraph ls bs) :
    bs = blocksFrom base inParagraph ls := by
  induction reads with
  | done => rw [blocksFrom]
  | @closed inParagraph fence opener closer body rest bs opens inside ends next ih =>
    have run : ∀ l ∈ body, (!fence.closes base l) = true := by simpa using inside
    have stop : ∀ l ∈ (closer :: rest).head?, (!fence.closes base l) = false := by simpa using ends
    rw [blocksFrom, opens, ih]
    dsimp only
    split
    · rename_i none
      rw [dropWhile_append_stop run stop] at none
      contradiction
    · rename_i found
      rw [dropWhile_append_stop run stop] at found
      obtain ⟨rfl, rfl⟩ := List.cons.inj found
      rw [takeWhile_append_stop run stop]
  | @unclosed inParagraph fence opener body opens inside =>
    have run : ∀ l ∈ body, (!fence.closes base l) = true := by simpa using inside
    rw [blocksFrom, opens]
    dsimp only
    split
    · rw [List.takeWhile_eq_self_iff.2 run]
    · rename_i found
      rw [List.dropWhile_eq_nil_iff.2 run] at found
      contradiction
  | @code line rest bs indented next ih =>
    rw [blocksFrom, Fence.open?_of_isDeep (isDeep_of_isIndentedCode indented), ih]
    simp [indented]
  | @prose inParagraph line rest bs plain text next ih =>
    rw [blocksFrom, plain, ih]
    simp [text]

theorem reads_blocks (ls : List Line) : Reads (baseIndent ls) false ls (blocks ls) :=
  reads_blocksFrom _ _ _

theorem Reads.flatMap_lines (reads : Reads base inParagraph ls bs) :
    bs.flatMap Block.lines = ls := by
  induction reads with
  | done => rfl
  | closed opens inside ends next ih => simp [Block.lines, ih]
  | unclosed opens inside => simp [Block.lines]
  | code indented next ih =>
    rw [List.flatMap_cons, ih, Block.lines, List.cons_append, codeRun_append]
  | prose plain text next ih => simp [Block.lines, ih]

theorem mem_codeRun {line : Line} (member : line ∈ (codeRun base ls).1) :
    isIndentedCode base line = true ∨ allBlank line = true := by
  induction ls with
  | nil => simp [codeRun] at member
  | cons first rest ih =>
    simp only [codeRun] at member
    split at member
    · rename_i indented
      rcases List.mem_cons.1 member with rfl | later
      · exact .inl indented
      · exact ih later
    · split at member
      · rename_i blank
        rcases List.mem_cons.1 member with rfl | later
        · simp only [Bool.and_eq_true] at blank
          exact .inr blank.1
        · exact ih later
      · simp at member

theorem open?_of_code_or_blank {line : Line}
    (code : isIndentedCode base line = true ∨ allBlank line = true) :
    Fence.open? base line = none := by
  rcases code with indented | blank
  · exact Fence.open?_of_isDeep (isDeep_of_isIndentedCode indented)
  · exact Fence.open?_of_allBlank blank

namespace Block

inductive Fits (base : Nat) : Block → Prop where
  | fenced {fence : Fence} {opener : Line} {body : List Line} {closer : Option Line}
      (opens : Fence.open? base opener = some fence)
      (inside : ∀ line ∈ body, fence.closes base line = false)
      (ends : ∀ line ∈ closer, fence.closes base line = true) :
      Fits base (.fenced fence opener body closer)
  | code {first : Line} {more : List Line} (indented : isIndentedCode base first = true)
      (run : ∀ line ∈ more, isIndentedCode base line = true ∨ allBlank line = true) :
      Fits base (.code (first :: more))
  | prose {line : Line} (plain : Fence.open? base line = none) : Fits base (.prose line)

end Block

theorem Reads.fits (reads : Reads base inParagraph ls bs) : ∀ b ∈ bs, b.Fits base := by
  induction reads with
  | done => simp
  | closed opens inside ends next ih =>
    exact List.forall_mem_cons.2 ⟨.fenced opens inside (by simpa using ends), ih⟩
  | unclosed opens inside => simpa using .fenced opens inside (by simp)
  | code indented next ih =>
    exact List.forall_mem_cons.2 ⟨.code indented fun _ member => mem_codeRun member, ih⟩
  | prose plain text next ih => exact List.forall_mem_cons.2 ⟨.prose plain, ih⟩

end ProtoModules.Comment
