import ProtoModules.Proofs.Source.DocLine
import ProtoModules.Source.DocComment

/-! A source as lines of code and runs of documentation lines, and its comments run by run: the
declaration that a run belongs to depends on the lines of code alone. So runs can be changed or
left out without touching the declarations of the others. -/

namespace ProtoModules.Source
open Text

inductive Piece where
  | code (line : Line)
  | doc (run : List Line)

namespace Piece

def lines : Piece → List Line
  | code line => [line]
  | doc run => run

def ofLines : List Line → List Piece
  | [] => []
  | line :: rest =>
    if isDocLine line then
      match ofLines rest with
      | doc run :: more => doc (line :: run) :: more
      | ps => doc [line] :: ps
    else code line :: ofLines rest

/-- Every piece holds lines of its kind, and no run stands right before another one. -/
inductive Cut : List Piece → Prop where
  | nil : Cut []
  | code {line : Line} {ps : List Piece} (plain : isDocLine line = false) (next : Cut ps) :
      Cut (code line :: ps)
  | doc {run : List Line} {ps : List Piece} (present : run ≠ [])
      (docs : ∀ line ∈ run, isDocLine line = true) (apart : ∀ other, ps.head? ≠ some (doc other))
      (next : Cut ps) : Cut (doc run :: ps)

theorem Cut.eq_nil {ps : List Piece} (cut : Cut ps) (empty : ps.flatMap lines = []) : ps = [] := by
  cases cut with
  | nil => rfl
  | code plain next => simp [lines] at empty
  | doc present docs apart next => simp [lines, present] at empty

theorem flatMap_ofLines (ls : List Line) : (ofLines ls).flatMap lines = ls := by
  induction ls with
  | nil => rfl
  | cons line rest ih =>
    rw [ofLines]
    split
    · split
      · rename_i run more found
        rw [found] at ih
        simpa [lines] using ih
      · simpa [lines] using ih
    · simpa [lines] using ih

theorem cut_ofLines (ls : List Line) : Cut (ofLines ls) := by
  induction ls with
  | nil => exact .nil
  | cons line rest ih =>
    rw [ofLines]
    split
    · rename_i doc
      split
      · rename_i run more found
        rw [found] at ih
        cases ih with
        | doc present docs apart next =>
          exact .doc (by simp) (List.forall_mem_cons.2 ⟨doc, docs⟩) apart next
      · rename_i other
        refine .doc (by simp) (by simpa using doc) (fun run first => ?_) ih
        obtain ⟨more, found⟩ := List.head?_eq_some_iff.1 first
        exact other run more found
    · rename_i plain
      exact .code (by simpa using plain) ih

end Piece

namespace Scan

def still (scan : Scan) : Scan := { scan with pending := [], open? := none }

def passCode (line : Line) (scan : Scan) : Scan :=
  scan.enter (Declaration.ofLine? (trim line)) (Declaration.codePart (trim line))

def declared (package : List Line) (line : Line) (scan : Scan) : List Char :=
  scan.path package ((Declaration.ofLine? (trim line)).map (·.name))

def declarationBelow (package : List Line) : Scan → List Piece → List Char
  | scan, [] => scan.path package none
  | scan, .doc _ :: rest => declarationBelow package scan rest
  | scan, .code line :: rest =>
    if isAttribute (trim line) then declarationBelow package (scan.passCode line) rest
    else scan.declared package line

def comment (declaration : List Char) (index : Nat) (run : List Line) : DocComment :=
  ⟨declaration, docText run, index, index + run.length, docIndent run⟩

def commentsOf (package : List Line) : (index : Nat) → Scan → List Piece → List DocComment
  | _, _, [] => []
  | index, scan, .code line :: rest => commentsOf package (index + 1) (scan.passCode line) rest
  | index, scan, .doc run :: rest =>
    comment (declarationBelow package scan rest) index run
      :: commentsOf package (index + run.length) scan rest

variable {package : List Line}

theorem step_docLine {line : Line} (doc : isDocLine line = true) (index : Nat) (scan : Scan) :
    scan.step package index line = ([], scan.addDocLine index line) := by
  simp [step, doc]

theorem step_code {line : Line} (plain : isDocLine line = false) (index : Nat) {scan : Scan}
    (closed : scan.open? = none) :
    scan.step package index line =
      if isAttribute (trim line) then ([], scan.passCode line)
      else (attach (scan.declared package line) scan.pending,
        { scan with pending := [] }.passCode line) := by
  have same : scan.closeRun = scan := by simp [closeRun, closed]
  simp only [step, plain, Bool.false_eq_true, if_false, same, passCode, declared]

theorem step_closeRun {line : Line} (plain : isDocLine line = false) (index : Nat) (scan : Scan) :
    scan.step package index line = scan.closeRun.step package index line := by
  have same : scan.closeRun.closeRun = scan.closeRun := by
    cases e : scan.open? <;> simp [closeRun, e]
  simp only [step, plain, Bool.false_eq_true, if_false, same]

theorem attach_append (declaration : List Char) (first second : List Run) :
    attach declaration (first ++ second) = attach declaration second ++ attach declaration first := by
  simp [attach]

theorem attach_run (declaration : List Char) {run : Run} (present : run.ls ≠ []) :
    attach declaration [run] = [comment declaration run.start run.ls] := by
  simp [attach, splitDocLines_eq present, comment]

theorem comments_openRun {run : List Line} (docs : ∀ line ∈ run, isDocLine line = true)
    (index : Nat) (scan : Scan) (start : Nat) (before rest : List Line) :
    comments package index { scan with open? := some ⟨start, before⟩ } (run ++ rest) =
      comments package (index + run.length)
        { scan with open? := some ⟨start, before ++ run⟩ } rest := by
  induction run generalizing index before with
  | nil => simp
  | cons line more ih =>
    have doc := docs line List.mem_cons_self
    rw [List.cons_append, comments, step_docLine doc]
    simp only [addDocLine, List.nil_append]
    rw [ih fun l member => docs l (List.mem_cons_of_mem _ member)]
    simp only [List.length_cons, List.append_assoc, List.cons_append, List.nil_append]
    congr 1
    omega

theorem comments_run {run : List Line} (present : run ≠ [])
    (docs : ∀ line ∈ run, isDocLine line = true) (index : Nat) {scan : Scan}
    (closed : scan.open? = none) (rest : List Line) :
    comments package index scan (run ++ rest) =
      comments package (index + run.length) { scan with open? := some ⟨index, run⟩ } rest := by
  obtain ⟨line, more, rfl⟩ := List.exists_cons_of_ne_nil present
  have doc := docs line List.mem_cons_self
  rw [List.cons_append, comments, step_docLine doc]
  simp only [addDocLine, closed, List.nil_append]
  rw [comments_openRun fun l member => docs l (List.mem_cons_of_mem _ member)]
  simp only [List.length_cons, List.cons_append, List.nil_append]
  congr 1
  omega

theorem comments_closeRun {rest : List Line} (plain : ∀ line ∈ rest.head?, isDocLine line = false)
    (index : Nat) (scan : Scan) :
    comments package index scan rest = comments package index scan.closeRun rest := by
  cases rest with
  | nil => cases e : scan.open? <;> simp [comments, closeRun, e, path]
  | cons line more => rw [comments, comments, step_closeRun (plain line rfl)]

/-- A scan of pieces first attaches the runs that wait, to the declaration below, and then goes on as
if none had waited. -/
theorem comments_pieces {ps : List Piece} (cut : Piece.Cut ps) (index : Nat) {scan : Scan}
    (closed : scan.open? = none) :
    comments package index scan (ps.flatMap Piece.lines) =
      attach (declarationBelow package scan.still ps) scan.pending ++
        commentsOf package index scan.still ps := by
  induction cut generalizing index scan with
  | nil => simp [comments, closeRun, closed, declarationBelow, commentsOf, path, still]
  | @code line ps plain next ih =>
    rw [List.flatMap_cons, Piece.lines, List.singleton_append, comments, step_code plain index closed]
    by_cases skipped : isAttribute (trim line) = true
    · have later := @ih (index + 1) (scan.passCode line) closed
      rw [if_pos skipped, List.nil_append, later, declarationBelow, if_pos skipped]
      rfl
    · have later := @ih (index + 1) ({ scan with pending := [] }.passCode line) closed
      rw [if_neg skipped, later, declarationBelow, if_neg skipped]
      rfl
  | @doc run ps present docs apart next ih =>
    have plain : ∀ line ∈ (ps.flatMap Piece.lines).head?, isDocLine line = false := by
      cases next with
      | nil => simp
      | code plain next => simpa [Piece.lines] using plain
      | @doc other ps present docs apart next => exact absurd rfl (apart other)
    have later := @ih (index + run.length)
      { scan with pending := [⟨index, run⟩] ++ scan.pending, open? := none } rfl
    have own : attach (declarationBelow package scan.still ps) [⟨index, run⟩] =
        [comment (declarationBelow package scan.still ps) index run] := attach_run _ present
    rw [List.flatMap_cons, Piece.lines, comments_run present docs index closed,
      comments_closeRun plain]
    calc comments package (index + run.length)
          { scan with pending := [⟨index, run⟩] ++ scan.pending, open? := none }
          (ps.flatMap Piece.lines)
        = attach (declarationBelow package scan.still ps) ([(⟨index, run⟩ : Run)] ++ scan.pending) ++
            commentsOf package (index + run.length) scan.still ps := later
      _ = _ := by
        rw [attach_append, own, List.append_assoc]
        rfl

theorem docComments_pieces {ps : List Piece} (cut : Piece.Cut ps) :
    comments package 0 {} (ps.flatMap Piece.lines) = commentsOf package 0 {} ps := by
  rw [comments_pieces cut 0 rfl]
  rfl

theorem le_start_of_mem_commentsOf {ps : List Piece} {index : Nat} {scan : Scan} {c : DocComment}
    (member : c ∈ commentsOf package index scan ps) : index ≤ c.start := by
  induction ps generalizing index scan with
  | nil => simp [commentsOf] at member
  | cons p rest ih =>
    cases p with
    | code line =>
      have later := ih member
      omega
    | doc run =>
      rcases List.mem_cons.1 member with rfl | later
      · exact Nat.le_refl index
      · have after := ih later
        omega

end Scan

end ProtoModules.Source
