/-! UTF-8. The decoder refuses bytes that are no UTF-8 and says where the first bad sequence is and what
is wrong with it. -/

namespace ProtoModules.Text

inductive Malformed where
  | badStart
  | badContinuation
  | truncated
  deriving DecidableEq

structure DecodeError where
  start : Nat
  length : Nat
  byte : Nat
  reason : Malformed
  deriving DecidableEq

/-- How many continuation bytes follow a start byte, and the range of the first of them. -/
def continuation? (b : Nat) : Option (Nat × Nat × Nat) :=
  if 0xc2 ≤ b && b ≤ 0xdf then some (1, 0x80, 0xbf)
  else if b == 0xe0 then some (2, 0xa0, 0xbf)
  else if b == 0xed then some (2, 0x80, 0x9f)
  else if 0xe1 ≤ b && b ≤ 0xef then some (2, 0x80, 0xbf)
  else if b == 0xf0 then some (3, 0x90, 0xbf)
  else if b == 0xf4 then some (3, 0x80, 0x8f)
  else if 0xf1 ≤ b && b ≤ 0xf3 then some (3, 0x80, 0xbf)
  else none

/-- Looks at the bytes from position `start` on. `due` continuation bytes are still to come, of which
the next lies between `low` and `high`; `taken` bytes of the sequence have been read. -/
def firstBad (start taken due low high byte : Nat) : List UInt8 → Option DecodeError
  | [] => if due = 0 then none else some ⟨start, taken, byte, .truncated⟩
  | b :: rest =>
    let b := b.toNat
    if due = 0 then
      if b < 0x80 then firstBad (start + 1) 0 0 0 0 0 rest
      else
        match continuation? b with
        | some (due, low, high) => firstBad start 1 due low high b rest
        | none => some ⟨start, 1, b, .badStart⟩
    else if low ≤ b && b ≤ high then
      if due = 1 then firstBad (start + taken + 1) 0 0 0 0 0 rest
      else firstBad start (taken + 1) (due - 1) 0x80 0xbf byte rest
    else some ⟨start, taken, byte, .badContinuation⟩

def decode (bytes : ByteArray) : Except DecodeError String :=
  match String.fromUTF8? bytes with
  | some s => .ok s
  | none => .error ((firstBad 0 0 0 0 0 0 bytes.toList).getD ⟨0, 0, 0, .truncated⟩)

namespace DecodeError

def hexByte (n : Nat) : String :=
  let digits := Nat.toDigits 16 n
  String.ofList (if digits.length < 2 then '0' :: digits else digits)

def message (e : DecodeError) : String :=
  let place :=
    if e.length = 1 then "byte 0x" ++ hexByte e.byte ++ " in position " ++ toString e.start
    else "bytes in position " ++ toString e.start ++ "-" ++ toString (e.start + e.length - 1)
  let reason := match e.reason with
    | .badStart => "invalid start byte"
    | .badContinuation => "invalid continuation byte"
    | .truncated => "unexpected end of data"
  "'utf-8' codec can't decode " ++ place ++ ": " ++ reason

end DecodeError

end ProtoModules.Text
