import ProtoModules.Text.WordTable
import ProtoModules.Text.DigitTable

/-! Word characters: the letters and numbers of Unicode and the underscore. Names in generated code
are runs of them. -/

namespace ProtoModules.Text

def isUpper (c : Char) : Bool := 0x41 ≤ c.toNat && c.toNat ≤ 0x5a

def isLower (c : Char) : Bool := 0x61 ≤ c.toNat && c.toNat ≤ 0x7a

def isDigit (c : Char) : Bool := 0x30 ≤ c.toNat && c.toNat ≤ 0x39

def isAlnum (c : Char) : Bool := isUpper c || isLower c || isDigit c

/-- A capital becomes its small letter; all else stays. -/
def toLower (c : Char) : Char := if isUpper c then Char.ofNat (c.toNat + 0x20) else c

/-- The name in small letters. Of the capitals outside of ASCII only the Kelvin sign has a small letter
inside of it, so no other can make up a name that is declared in ASCII. -/
def foldName (name : String) : String := name.map fun c => if c = '\u212a' then 'k' else toLower c

def isDecimal (c : Char) : Bool := digitTable.any (·.holds c)

/-- What a decimal digit counts; every script has its digits from zero to nine in a row. -/
def decimalValue? (c : Char) : Option Nat :=
  (digitTable.find? (·.holds c)).map fun row => (c.toNat - row.first) % 10

def isWord (c : Char) : Bool :=
  c == '_' || if c.toNat < 0x80 then isAlnum c else wordTable.any (·.holds c)

end ProtoModules.Text
