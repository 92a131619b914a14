import ProtoModules.Data.Refusal
import ProtoModules.Text.Blank

/-! Whole numbers written as texts. Blanks around the number, a plus sign, zeros in front, single
underscores between digits and a fraction of zeros are allowed. The separators `U+001C` to `U+001F`
are no blanks here. -/

namespace ProtoModules.WholeNumber
open Data

def isBlank (c : Char) : Bool := Text.isBlank c && !(0x1c ≤ c.toNat && c.toNat ≤ 0x1f)

def trim (s : List Char) : List Char :=
  ((s.dropWhile isBlank).reverse.dropWhile isBlank).reverse

/-- Drops zeros in front but the last one of a number that is nothing else. `previous` is the
character before, which may stay in front of a point. -/
def dropZeros (previous : Char) : List Char → Option (List Char)
  | [] => some [previous]
  | c :: rest =>
    if c = '0' then dropZeros c rest
    else if c = '_' then if previous = '_' then none else dropZeros c rest
    else if c = '.' then some (previous :: c :: rest)
    else if isDecimalDigit c then some (c :: rest)
    else none

/-- The number without needless zeros; anything but a digit or a minus sign in front is refused. -/
def withoutZeros : List Char → Option (List Char)
  | [] => none
  | c :: rest =>
    if c = '0' then dropZeros c rest
    else if isDecimalDigit c || c = '-' then some (c :: rest)
    else none

def withoutFraction (s : List Char) : List Char :=
  match s.dropWhile (· != '.') with
  | '.' :: digits =>
    if !digits.isEmpty && digits.all (· == '0') then s.takeWhile (· != '.') else s
  | _ => s

/-- The text without its underscores, unless one stands at an end or beside another. -/
def withoutUnderscores (s : List Char) : List Char :=
  if s.head? = some '_' || s.getLast? = some '_' || doubled s then s
  else s.filter (· != '_')
where
  doubled : List Char → Bool
    | '_' :: '_' :: _ => true
    | _ :: rest => doubled rest
    | [] => false

/-- Digits without a needless zero in front, perhaps behind a minus sign; there may not be too many. -/
def plain? (s : List Char) : Option Int :=
  let (negative, digits) := match s with
    | '-' :: rest => (true, rest)
    | _ => (false, s)
  if digits.isEmpty || !digits.all isDecimalDigit || mostDigits < digits.length then none
  else if digits.head? = some '0' && digits.length != 1 then none
  else
    let n : Int := digitsValue digits
    some (if negative then -n else n)

def parse? (s : List Char) : Option Int :=
  let s := trim s
  (plain? s).orElse fun _ => do
    let unsigned ← match s with
      | '+' :: '-' :: _ => none
      | '+' :: rest => some rest
      | _ => some s
    plain? (withoutUnderscores (withoutFraction (← withoutZeros unsigned)))

end ProtoModules.WholeNumber
