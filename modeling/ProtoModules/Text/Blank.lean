/-! Blank characters. A text may hold any of the characters that count as white space in Unicode,
the separators `U+001C` to `U+001F` included; byte order marks and zero width spaces are not
among them. Trimming and the test for a blank line rest on this one class. -/

namespace ProtoModules.Text

/-- The 29 characters of white space. -/
def isBlank (c : Char) : Bool :=
  let n := c.toNat
  (0x09 ≤ n && n ≤ 0x0d) || (0x1c ≤ n && n ≤ 0x20) || n == 0x85 || n == 0xa0 || n == 0x1680
    || (0x2000 ≤ n && n ≤ 0x200a) || n == 0x2028 || n == 0x2029 || n == 0x202f || n == 0x205f
    || n == 0x3000

def trimStart (s : List Char) : List Char := s.dropWhile isBlank

def trimEnd (s : List Char) : List Char := (s.reverse.dropWhile isBlank).reverse

def trim (s : List Char) : List Char := trimEnd (trimStart s)

/-- Holds of the empty text too. -/
def allBlank (s : List Char) : Bool := s.all isBlank

end ProtoModules.Text
