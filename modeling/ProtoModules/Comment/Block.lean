import ProtoModules.Comment.Fence
import ProtoModules.Comment.Program

/-! The blocks of a comment: fenced blocks, runs of indented code and single lines of prose. Indented
lines are code only where no paragraph is open; blank lines belong to a run of code if it goes on
behind them. -/

namespace ProtoModules.Comment
open Text

inductive Block where
  /-- A block whose fence is never closed has no closing line and reaches to the end. -/
  | fenced (fence : Fence) (opener : Line) (body : List Line) (closer : Option Line)
  | code (ls : List Line)
  | prose (line : Line)

/-- One to six number signs and nothing but a blank behind them. -/
def isHeading (s : Line) : Bool :=
  let level := (s.takeWhile (· == '#')).length
  1 ≤ level && level ≤ 6 &&
    match s.dropWhile (· == '#') with
    | [] => true
    | c :: _ => isTabOrSpace c

/-- Three or more of one of the characters `-`, `*` and `_`, perhaps with blanks between them. -/
def isBreak : Line → Bool
  | [] => false
  | c :: rest =>
    (c == '-' || c == '*' || c == '_') && rest.all (fun d => d == c || isTabOrSpace d)
      && 2 ≤ rest.count c

def isUnderline (s : Line) : Bool :=
  !s.isEmpty && s.head? == some '=' && (s.dropWhile (· == '=')).all isTabOrSpace

/-- A heading or a break, after which no paragraph is open. -/
def endsParagraph (base : Nat) (line : Line) : Bool :=
  !isDeep base line && (isHeading (trim line) || isBreak (trim line))

/-- Whether a paragraph is open behind a line of prose. -/
def opensParagraph (base : Nat) (inParagraph : Bool) (line : Line) : Bool :=
  !(allBlank line || endsParagraph base line || (inParagraph && isUnderline (trim line)))

/-- The lines that continue a run of indented code, and the lines behind it. -/
def codeRun (base : Nat) : List Line → List Line × List Line
  | [] => ([], [])
  | line :: rest =>
    let (run, after) := codeRun base rest
    if isIndentedCode base line then (line :: run, after)
    else if allBlank line && !run.isEmpty then (line :: run, after)
    else ([], line :: rest)

theorem codeRun_append (base : Nat) (ls : List Line) :
    (codeRun base ls).1 ++ (codeRun base ls).2 = ls := by
  induction ls with
  | nil => rfl
  | cons line rest ih =>
    simp only [codeRun]
    split
    · simpa using ih
    · split
      · simpa using ih
      · rfl

theorem codeRun_length (base : Nat) (ls : List Line) :
    (codeRun base ls).2.length ≤ ls.length := by
  have whole := congrArg List.length (codeRun_append base ls)
  simp only [List.length_append] at whole
  omega

def blocksFrom (base : Nat) (inParagraph : Bool) : List Line → List Block
  | [] => []
  | line :: rest =>
    match Fence.open? base line with
    | some fence =>
      let body := rest.takeWhile fun l => !fence.closes base l
      match _h : rest.dropWhile fun l => !fence.closes base l with
      | [] => [.fenced fence line body none]
      | closer :: after => .fenced fence line body (some closer) :: blocksFrom base false after
    | none =>
      if !inParagraph && isIndentedCode base line then
        .code (line :: (codeRun base rest).1) :: blocksFrom base false (codeRun base rest).2
      else .prose line :: blocksFrom base (opensParagraph base inParagraph line) rest
termination_by ls => ls.length
decreasing_by
  · have shorter : (rest.dropWhile fun l => !fence.closes base l).length ≤ rest.length :=
      (List.dropWhile_sublist _).length_le
    rw [_h] at shorter
    simp only [List.length_cons] at shorter ⊢
    omega
  · have := codeRun_length base rest
    simp only [List.length_cons]
    omega
  · simp

def blocks (ls : List Line) : List Block := blocksFrom (baseIndent ls) false ls

namespace Block

def lines : Block → List Line
  | .fenced _ opener body closer => opener :: body ++ closer.toList
  | .code ls => ls
  | .prose line => [line]

end Block

end ProtoModules.Comment
