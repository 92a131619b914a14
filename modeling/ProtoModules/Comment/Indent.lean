import ProtoModules.Text.Blank
import ProtoModules.Text.Lines

/-! Indentation. A tab reaches to the next multiple of four columns. The base of a comment is the
smallest indentation of its lines that are not blank: a line is indented four columns or more past
the base, or it is not indented. -/

namespace ProtoModules.Comment
open Text

def isTabOrSpace (c : Char) : Bool := c == ' ' || c == '\t'

def indentFrom (column : Nat) : Line → Nat
  | ' ' :: rest => indentFrom (column + 1) rest
  | '\t' :: rest => indentFrom (column + (4 - column % 4)) rest
  | _ => column

def indentWidth (line : Line) : Nat := indentFrom 0 line

def baseIndent (ls : List Line) : Nat :=
  (((ls.filter fun l => !allBlank l).map indentWidth).min?).getD 0

/-- Four columns or more past the base. -/
def isDeep (base : Nat) (line : Line) : Bool := base + 4 ≤ indentWidth line

/-- A line that is code by its indentation, unless a paragraph is open before it. -/
def isIndentedCode (base : Nat) (line : Line) : Bool := !allBlank line && isDeep base line

end ProtoModules.Comment
