import ProtoModules.Text.Split

/-! Sets of characters as lists of code point ranges, written in hexadecimal one row or more with a blank between
two ranges: `30-39` is a range, `5f` a single code point. -/

namespace ProtoModules.Text

/-- Any other character counts as a zero. -/
def hexDigit (c : Char) : Nat :=
  let n := c.toNat
  if 0x30 ≤ n && n ≤ 0x39 then n - 0x30
  else if 0x61 ≤ n && n ≤ 0x66 then n - 0x57
  else if 0x41 ≤ n && n ≤ 0x46 then n - 0x37
  else 0

def hexValue (digits : List Char) : Nat :=
  digits.foldl (fun value c => 16 * value + hexDigit c) 0

structure CodeRange where
  first : Nat
  last : Nat

namespace CodeRange

def holds (r : CodeRange) (c : Char) : Bool := r.first ≤ c.toNat && c.toNat ≤ r.last

def parse (written : List Char) : CodeRange :=
  match splitOn '-' written with
  | [first, last] => ⟨hexValue first, hexValue last⟩
  | _ => ⟨hexValue written, hexValue written⟩

def parseList (rows : List String) : List CodeRange :=
  rows.flatMap fun row => (splitOn ' ' row.toList).map parse

end CodeRange

end ProtoModules.Text
