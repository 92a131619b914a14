import Std.Data.HashMap
import ProtoModules.Text.MarkTable
import ProtoModules.Text.DecompositionTable

/-! Compatibility decomposition and the removal of combining marks. Canonical reordering moves marks
only, so the text that is left after removing them does not depend on it. -/

namespace ProtoModules.Text

def parseDecomposition (written : List Char) : Nat × List Char :=
  match splitOn ':' written with
  | [source, target] =>
    (hexValue source, (splitOn ',' target).map fun digits => Char.ofNat (hexValue digits))
  | _ => (0, [])

def decompositions : Std.HashMap Nat (List Char) :=
  Std.HashMap.ofList
    (decompositionData.flatMap fun row => (splitOn ' ' row.toList).map parseDecomposition)

/-- A Hangul syllable is a leading consonant, a vowel and perhaps a trailing consonant. -/
def decomposeHangul (index : Nat) : List Char :=
  let leading := Char.ofNat (0x1100 + index / 588)
  let vowel := Char.ofNat (0x1161 + index % 588 / 28)
  if index % 28 = 0 then [leading, vowel]
  else [leading, vowel, Char.ofNat (0x11a7 + index % 28)]

def decompose (c : Char) : List Char :=
  let n := c.toNat
  if n < 0x80 then [c]
  else if 0xac00 ≤ n && n ≤ 0xd7a3 then decomposeHangul (n - 0xac00)
  else (decompositions[n]?).getD [c]

def isMark (c : Char) : Bool := 0x80 ≤ c.toNat && markTable.any (·.holds c)

def withoutMarks (s : List Char) : List Char :=
  (s.flatMap decompose).filter fun c => !isMark c

end ProtoModules.Text
