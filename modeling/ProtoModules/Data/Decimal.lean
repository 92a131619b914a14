/-! Decimal numbers: digits read as a natural number, and the floating point number nearest to a
written decimal. -/

namespace ProtoModules.Data

def isDecimalDigit (c : Char) : Bool := 0x30 ≤ c.toNat && c.toNat ≤ 0x39

def digitsValue (digits : List Char) : Nat :=
  digits.foldl (fun value c => 10 * value + (c.toNat - 0x30)) 0

/-- The double nearest to `mantissa * 10 ^ exponent`. Far beyond the range of doubles the exponent
no longer matters. -/
def nearestReal (negative : Bool) (mantissa : Nat) (exponent : Int) : Float :=
  let digits : Int := (toString mantissa).length
  let magnitude : Float :=
    if mantissa = 0 then 0
    else if exponent > 400 then 1.0 / 0.0
    else if exponent + digits < -400 then 0
    else if exponent < 0 then Float.ofScientific mantissa true exponent.natAbs
    else Float.ofScientific mantissa false exponent.natAbs
  if negative then -magnitude else magnitude

end ProtoModules.Data
