import ProtoModules.Text.Lines
import ProtoModules.Text.Literal

/-! Which code looks like a complete program: it defines a main function, holds no `...` and its
brackets balance once the string literals are emptied. -/

namespace ProtoModules.Comment
open Text

def openerOf? : Char → Option Char
  | ')' => some '('
  | ']' => some '['
  | '}' => some '{'
  | _ => none

def isOpener (c : Char) : Bool := c == '(' || c == '[' || c == '{'

/-- `pending` holds the brackets that are open, the innermost first. -/
def balancesAfter (pending : List Char) : List Char → Bool
  | [] => pending.isEmpty
  | c :: rest =>
    if isOpener c then balancesAfter (c :: pending) rest
    else
      match openerOf? c, pending with
      | none, _ => balancesAfter pending rest
      | some _, [] => false
      | some o, p :: outer => if p = o then balancesAfter outer rest else false

def bracketsBalance (code : List Char) : Bool := balancesAfter [] (blankLiterals code)

def looksRunnable (body : List Line) : Bool :=
  let code := unlines body
  holds "fn main".toList code && !holds "...".toList code && bracketsBalance code

end ProtoModules.Comment
