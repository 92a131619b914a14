import ProtoModules.Text.Blank

/-! Quoting a text for a message. The text stands in single quotes, in double ones if it holds single
quotes only; a backslash, the quote and whatever cannot be seen are written as escapes, so the
quoted text stays on one line. -/

namespace ProtoModules.Text

/-- Characters that show as themselves: no controls, no blanks but the space, no marks of formatting and
none from the areas of private use. -/
def isShown (c : Char) : Bool :=
  let n := c.toNat
  c == ' ' ||
    !(n < 0x20 || (0x7f ≤ n && n ≤ 0x9f) || isBlank c || n == 0xad || n == 0x61c || n == 0x180e
      || (0x200b ≤ n && n ≤ 0x200f) || (0x202a ≤ n && n ≤ 0x202e) || (0x2060 ≤ n && n ≤ 0x206f)
      || (0xe000 ≤ n && n ≤ 0xf8ff) || n == 0xfeff || (0xfff0 ≤ n && n ≤ 0xfffb)
      || (0xfffe ≤ n && n ≤ 0xffff) || 0xe0000 ≤ n)

/-- The digits of a number in hexadecimal, at least `width` of them. -/
def hexDigits (width n : Nat) : List Char :=
  let digits := Nat.toDigits 16 n
  List.replicate (width - digits.length) '0' ++ digits

def escapeCode (n : Nat) : List Char :=
  if n < 0x100 then '\\' :: 'x' :: hexDigits 2 n
  else if n < 0x10000 then '\\' :: 'u' :: hexDigits 4 n
  else '\\' :: 'U' :: hexDigits 8 n

def escapeIn (quote c : Char) : List Char :=
  if c = quote || c = '\\' then ['\\', c]
  else if c = '\n' then ['\\', 'n']
  else if c = '\r' then ['\\', 'r']
  else if c = '\t' then ['\\', 't']
  else if isShown c then [c]
  else escapeCode c.toNat

def quoted (s : List Char) : List Char :=
  let quote := if s.contains '\'' && !s.contains '"' then '"' else '\''
  quote :: s.flatMap (escapeIn quote) ++ [quote]

end ProtoModules.Text
