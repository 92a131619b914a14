import ProtoModules.Proofs.Comment.Settled

/-! Reading the fences of a comment from the top, one line at a time and by the fence rule alone: behind
an opening line all is body up to the first line that closes the fence. In a sanitized comment
every fence is closed, and what a documentation build compiles is a complete program. -/

namespace ProtoModules.Comment
open Text

structure FencedBlock where
  fence : Fence
  body : List Line

/-- The fenced blocks that have been closed, and the one that is open. -/
structure FenceScan where
  closed : List FencedBlock
  open? : Option FencedBlock

namespace FenceScan

def step (base : Nat) (scan : FenceScan) (line : Line) : FenceScan :=
  match scan.open? with
  | none => { scan with open? := (Fence.open? base line).map fun fence => ⟨fence, []⟩ }
  | some block =>
    if block.fence.closes base line then ⟨scan.closed ++ [block], none⟩
    else { scan with open? := some { block with body := block.body ++ [line] } }

def run (base : Nat) (scan : FenceScan) (ls : List Line) : FenceScan := ls.foldl (step base) scan

def ofLines (ls : List Line) : FenceScan := run (baseIndent ls) ⟨[], none⟩ ls

variable {base : Nat} {inParagraph : Bool} {ls : List Line} {bs : List Block}

@[simp] theorem run_nil (base : Nat) (scan : FenceScan) : run base scan [] = scan := rfl

@[simp] theorem run_cons (base : Nat) (scan : FenceScan) (line : Line) (ls : List Line) :
    run base scan (line :: ls) = run base (step base scan line) ls := rfl

theorem run_append (base : Nat) (scan : FenceScan) (first second : List Line) :
    run base scan (first ++ second) = run base (run base scan first) second :=
  List.foldl_append

theorem step_open {line : Line} {fence : Fence} (opens : Fence.open? base line = some fence)
    (done : List FencedBlock) :
    step base ⟨done, none⟩ line = ⟨done, some ⟨fence, []⟩⟩ := by
  simp [step, opens]

theorem step_plain {line : Line} (plain : Fence.open? base line = none)
    (done : List FencedBlock) : step base ⟨done, none⟩ line = ⟨done, none⟩ := by
  simp [step, plain]

theorem step_close {line : Line} {block : FencedBlock}
    (ends : block.fence.closes base line = true) (done : List FencedBlock) :
    step base ⟨done, some block⟩ line = ⟨done ++ [block], none⟩ := by
  simp [step, ends]

theorem run_plain (plain : ∀ line ∈ ls, Fence.open? base line = none) (done : List FencedBlock) :
    run base ⟨done, none⟩ ls = ⟨done, none⟩ := by
  induction ls with
  | nil => rfl
  | cons line rest ih =>
    rw [run_cons, step_plain (plain line List.mem_cons_self)]
    exact ih fun l member => plain l (List.mem_cons_of_mem _ member)

theorem run_body {fence : Fence} {body : List Line}
    (inside : ∀ line ∈ body, fence.closes base line = false) (done : List FencedBlock)
    (before : List Line) :
    run base ⟨done, some ⟨fence, before⟩⟩ body = ⟨done, some ⟨fence, before ++ body⟩⟩ := by
  induction body generalizing before with
  | nil => simp
  | cons line rest ih =>
    have stays : step base ⟨done, some ⟨fence, before⟩⟩ line =
        ⟨done, some ⟨fence, before ++ [line]⟩⟩ := by
      simp [step, inside line List.mem_cons_self]
    rw [run_cons, stays, ih fun l member => inside l (List.mem_cons_of_mem _ member)]
    simp

end FenceScan

namespace Block

def closed? : Block → Option FencedBlock
  | .fenced fence _ body (some _) => some ⟨fence, body⟩
  | _ => none

def unclosed? : Block → Option FencedBlock
  | .fenced fence _ body none => some ⟨fence, body⟩
  | _ => none

end Block

variable {base : Nat} {inParagraph : Bool} {ls : List Line} {bs : List Block}

theorem Reads.run_fenceScan (reads : Reads base inParagraph ls bs) (done : List FencedBlock) :
    FenceScan.run base ⟨done, none⟩ ls =
      ⟨done ++ bs.filterMap Block.closed?, bs.findSome? Block.unclosed?⟩ := by
  induction reads generalizing done with
  | done => simp
  | @closed inParagraph fence opener closer body rest bs opens inside ends next ih =>
    rw [FenceScan.run_cons, FenceScan.step_open opens, FenceScan.run_append,
      FenceScan.run_body inside, FenceScan.run_cons, FenceScan.step_close ends, ih]
    simp [List.findSome?_cons, Block.closed?, Block.unclosed?]
  | @unclosed inParagraph fence opener body opens inside =>
    rw [FenceScan.run_cons, FenceScan.step_open opens, FenceScan.run_body inside]
    simp [Block.closed?, Block.unclosed?]
  | @code line rest bs indented next ih =>
    have plain : ∀ l ∈ (codeRun base rest).1, Fence.open? base l = none :=
      fun _ member => open?_of_code_or_blank (mem_codeRun member)
    have first := Fence.open?_of_isDeep (isDeep_of_isIndentedCode indented)
    rw [FenceScan.run_cons, FenceScan.step_plain first]
    -- no line of the code opens a fence, so the scan passes it
    conv_lhs => rw [← codeRun_append base rest]
    rw [FenceScan.run_append, FenceScan.run_plain plain, ih]
    simp [List.filterMap_cons, List.findSome?_cons, Block.closed?, Block.unclosed?]
  | @prose inParagraph line rest bs plain text next ih =>
    rw [FenceScan.run_cons, FenceScan.step_plain plain, ih]
    simp [List.filterMap_cons, List.findSome?_cons, Block.closed?, Block.unclosed?]

namespace Block

theorem unclosed?_settled (base : Nat) (b : Block) : (b.settled base).unclosed? = none := by
  cases b with
  | fenced fence opener body closer =>
    rw [settled]
    split <;> rfl
  | code ls => rfl
  | prose line => rfl

theorem looksRunnable_of_settled {b : Block} {found : FencedBlock}
    (closed : (b.settled base).closed? = some found)
    (tested : Fence.isTested found.fence.info = true) : looksRunnable found.body = true := by
  cases b with
  | fenced fence opener body closer =>
    by_cases retag : isRetagged fence body
    · rw [settled, if_pos retag] at closed
      obtain rfl := Option.some.inj closed
      rw [Fence.not_isTested_inert] at tested
      contradiction
    · rw [settled, if_neg retag] at closed
      obtain rfl := Option.some.inj closed
      simpa [isRetagged, tested] using retag
  | code ls =>
    obtain rfl := Option.some.inj closed
    have inert : (wrappingFence base ls).info = Fence.inert := rfl
    rw [inert, Fence.not_isTested_inert] at tested
    contradiction
  | prose line => contradiction

end Block

theorem FenceScan.ofLines_sanitizeLines (ls : List Line) :
    FenceScan.ofLines (sanitizeLines ls) =
      ⟨((blocks ls).map (Block.settled (baseIndent ls))).filterMap Block.closed?, none⟩ := by
  have reads := reads_blocks (sanitizeLines ls)
  rw [blocks_sanitizeLines] at reads
  have noneOpen : ((blocks ls).map (Block.settled (baseIndent ls))).findSome?
      Block.unclosed? = none := by
    simp [List.findSome?_eq_none_iff, Block.unclosed?_settled]
  rw [FenceScan.ofLines, reads.run_fenceScan, noneOpen, List.nil_append]

theorem looksRunnable_iff (body : List Line) :
    looksRunnable body = true ↔ "fn main".toList <:+: unlines body ∧
      bracketsBalance (unlines body) = true ∧ ¬ "...".toList <:+: unlines body := by
  rw [← holds_iff, ← holds_iff]
  simp only [looksRunnable, Bool.and_eq_true, Bool.not_eq_true', Bool.not_eq_true]
  tauto

/-- Sanitizing keeps the base of a comment, leaves no fence open and no block to be compiled that
is not a complete program. -/
theorem fences_of_sanitize (text : List Char) :
    baseIndent (lines (sanitize text)) = baseIndent (lines text) ∧
      (FenceScan.ofLines (lines (sanitize text))).open? = none ∧
      ∀ block ∈ (FenceScan.ofLines (lines (sanitize text))).closed,
        Fence.isTested block.fence.info = true →
          "fn main".toList <:+: unlines block.body ∧
            bracketsBalance (unlines block.body) = true ∧
            ¬ "...".toList <:+: unlines block.body := by
  rw [lines_sanitize, FenceScan.ofLines_sanitizeLines]
  refine ⟨baseIndent_sanitizeLines _, rfl, fun block member tested => ?_⟩
  obtain ⟨settled, found, closed⟩ := List.mem_filterMap.1 member
  obtain ⟨b, -, rfl⟩ := List.mem_map.1 found
  exact (looksRunnable_iff _).1 (Block.looksRunnable_of_settled closed tested)

end ProtoModules.Comment
