/-! Bytes written in base 64, four characters for three bytes. Characters outside the alphabet are
skipped; what is behind complete padding is not looked at. -/

namespace ProtoModules.Data.Base64

def sextet? (c : Char) : Option Nat :=
  let n := c.toNat
  if 0x41 ≤ n && n ≤ 0x5a then some (n - 0x41)
  else if 0x61 ≤ n && n ≤ 0x7a then some (n - 0x61 + 26)
  else if 0x30 ≤ n && n ≤ 0x39 then some (n - 0x30 + 52)
  else if c = '+' then some 62
  else if c = '/' then some 63
  else none

/-- The bytes of what follows `place` characters of a group, which left some bits over; `padding` equals
signs have been met since. A group that is begun has to be completed. -/
def bytesFrom? (place left padding : Nat) : List Char → Option (List UInt8)
  | [] => if place = 0 then some [] else none
  | c :: rest =>
    if c = '=' then
      if place < 2 then bytesFrom? place left padding rest
      else if 4 ≤ place + padding + 1 then some []
      else bytesFrom? place left (padding + 1) rest
    else
      match sextet? c, place with
      | none, _ => bytesFrom? place left padding rest
      | some bits, 0 => bytesFrom? 1 bits 0 rest
      | some bits, 1 =>
        (bytesFrom? 2 (bits % 16) 0 rest).map (UInt8.ofNat (left * 4 + bits / 16) :: ·)
      | some bits, 2 =>
        (bytesFrom? 3 (bits % 4) 0 rest).map (UInt8.ofNat (left * 16 + bits / 4) :: ·)
      | some bits, _ => (bytesFrom? 0 0 0 rest).map (UInt8.ofNat (left * 64 + bits) :: ·)

def decode? (s : List Char) : Option (List UInt8) := bytesFrom? 0 0 0 s

end ProtoModules.Data.Base64
