import ProtoModules.Text.Blank
import ProtoModules.Text.Lines

/-! Documentation lines. A documentation line is one that starts, behind blanks, with exactly three
slashes; a run of them is the shared indentation, taken from the first line, and the text behind
the slashes. -/

namespace ProtoModules.Source
open Text

def docMark : Line := ['/', '/', '/']

def isDocLine (line : Line) : Bool :=
  let s := trim line
  docMark.isPrefixOf s && !(docMark ++ ['/']).isPrefixOf s

/-- The indentation and the text of a run of documentation lines, which has at least one line. -/
def splitDocLines : List Line → Option (Line × List Char)
  | [] => none
  | first :: rest =>
    some (first.takeWhile isBlank,
      unlines ((first :: rest).map fun line => (trimStart line).drop docMark.length))

def joinDocLines (text : List Char) (indent : Line) : List Line :=
  (lines text).map fun line => indent ++ docMark ++ line

end ProtoModules.Source
