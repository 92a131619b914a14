import ProtoModules.CommandLine.Emoji
import ProtoModules.CommandLine.Style
import ProtoModules.Text.Lines

/-! Texts for the console. Words in brackets that begin with a small letter or one of `#`, `/` and `@`
are marks of style and are not shown; a backslash in front makes them plain text. A mark that
begins with a slash ends the style it names, or the last one, and there has to be one. Names between
colons are shown as pictures. -/

namespace ProtoModules.CommandLine.Markup
open Text

inductive Piece where
  | plain (text : List Char)
  | mark (name : List Char)

def isMarkStart (c : Char) : Bool :=
  (0x61 ≤ c.toNat && c.toNat ≤ 0x7a) || c == '#' || c == '/' || c == '@'

/-- The content of a mark and the text behind it. -/
def mark? : List Char → Option (List Char × List Char)
  | '[' :: c :: rest =>
    let more := rest.takeWhile fun c => c != '[' && c != ']'
    match rest.drop more.length with
    | ']' :: behind => if isMarkStart c then some (c :: more, behind) else none
    | _ => none
  | _ => none

/-- An opening bracket behind a backslash is shown without it. -/
def unescape : List Char → List Char
  | '\\' :: '[' :: rest => '[' :: unescape rest
  | c :: rest => c :: unescape rest
  | [] => []

/-- The pieces of a text; `done` holds the plain text read last, last character first. -/
def pieces (done : List Char) : (fuel : Nat) → List Char → List Piece
  | 0, s => [.plain (unescape (done.reverse ++ s))]
  | fuel + 1, s =>
    let slashes := s.takeWhile (· == '\\')
    match mark? (s.drop slashes.length) with
    | some (content, behind) =>
      let before : Piece := .plain (unescape done.reverse)
      let kept : Piece := .plain (slashes.take (slashes.length / 2))
      let shown : Piece :=
        if slashes.length % 2 == 1 then .plain ('[' :: content ++ [']'])
        else .mark (content.takeWhile (· != '='))
      before :: kept :: shown :: pieces [] fuel behind
    | none =>
      match s.drop slashes.length with
      | [] => [.plain (unescape (done.reverse ++ slashes))]
      | c :: rest => pieces (c :: slashes.reverse ++ done) fuel rest

/-- The styles without the innermost one of that name. -/
def close? (name : List Char) : List (List Char) → Option (List (List Char))
  | [] => none
  | style :: rest => if style = name then some rest else (close? name rest).map (style :: ·)

/-- The text of some pieces, `styles` being open before them, the innermost first. -/
def shown? (styles : List (List Char)) : List Piece → Option (List Char)
  | [] => some []
  | .plain text :: rest => (shown? styles rest).map (Emoji.shown text ++ ·)
  | .mark ('/' :: name) :: rest =>
    match trim name, styles with
    | [], [] => none
    | [], _ :: outer => shown? outer rest
    | name, _ => do shown? (← close? (Style.name name) styles) rest
  | .mark name :: rest => shown? (Style.name name :: styles) rest

/-- Characters that move the cursor instead of being shown. -/
def isCursorControl (c : Char) : Bool := [0x07, 0x08, 0x0b, 0x0c, 0x0d].contains c.toNat

/-- A tab goes on to the next column that is a multiple of eight. -/
def expandTabs (column : Nat) : Line → Line
  | [] => []
  | c :: rest =>
    if c == '\t' then List.replicate (8 - column % 8) ' ' ++ expandTabs (column + 8 - column % 8) rest
    else c :: expandTabs (column + 1) rest

/-- The lines that a text is shown as, unless one of its marks closes nothing. -/
def lines? (s : List Char) : Option (List Line) :=
  (shown? [] (pieces [] (s.length + 1) s)).map fun text =>
    (lines (text.filter fun c => !isCursorControl c)).map (expandTabs 0)

end ProtoModules.CommandLine.Markup
