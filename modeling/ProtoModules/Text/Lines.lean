import ProtoModules.Text.Split

/-! Lines. A newline separates two lines and nothing else does: a carriage return or a Unicode line
separator is an ordinary character of its line. -/

namespace ProtoModules.Text

abbrev Line := List Char

def lines (s : List Char) : List Line := splitOn '\n' s

def unlines (ls : List Line) : List Char := joinWith '\n' ls

/-- Writes every line break, also `\r\n` and `\r` alone, as one newline. -/
def unifyBreaks : List Char → List Char
  | [] => []
  | '\r' :: '\n' :: rest => '\n' :: unifyBreaks rest
  | c :: rest => (if c = '\r' then '\n' else c) :: unifyBreaks rest

theorem unlines_lines (s : List Char) : unlines (lines s) = s := joinWith_splitOn '\n' s

end ProtoModules.Text
