import ProtoModules.Comment.Block

/-! Sanitizing a comment, so that a documentation build runs nothing in it but complete programs. A
fenced block that would be compiled and does not look runnable gets an inert info string, a fence
that is never closed is closed at the end, a run of indented code is wrapped in an inert fence and
prose is left alone. -/

namespace ProtoModules.Comment
open Text

def longestRun (line : Line) : Nat :=
  (line.foldl step (0, 0)).1
where
  step : Nat × Nat → Char → Nat × Nat
    | (longest, current), c =>
      if c = Fence.backtick then (max longest (current + 1), current + 1) else (longest, 0)

/-- A backtick fence longer than any run of backticks in the lines. -/
def wrappingMarker (ls : List Line) : Line :=
  let longest := (ls.map longestRun).foldl max 0
  List.replicate (max 3 (longest + 1)) Fence.backtick

namespace Block

def sanitized (base : Nat) : Block → List Line
  | .fenced fence opener body closer =>
    let first :=
      if Fence.isTested fence.info && !looksRunnable body then fence.inertOpener else opener
    first :: body ++ [closer.getD fence.closer]
  | .code ls =>
    let marker := List.replicate base ' ' ++ wrappingMarker ls
    (marker ++ Fence.inert) :: ls ++ [marker]
  | .prose line => [line]

end Block

def sanitizeLines (ls : List Line) : List Line :=
  (blocks ls).flatMap (Block.sanitized (baseIndent ls))

def sanitize (text : List Char) : List Char := unlines (sanitizeLines (lines text))

end ProtoModules.Comment
