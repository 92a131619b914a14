import ProtoModules.Data.Refusal
import ProtoModules.Text.Word

/-! Numerals that are a whole text: integers in a base, reals and complex numbers. Blanks around a
numeral do not count, and the decimal digits of every script stand for those of ASCII. -/

namespace ProtoModules.Data.Numeral

/-- Blanks outside of ASCII become spaces and digits become those of ASCII; ASCII itself stays. -/
def plainForm (s : List Char) : List Char :=
  s.map fun c =>
    if c.toNat < 0x80 then c
    else if Text.isBlank c then ' '
    else ((Text.decimalValue? c).map fun digit => Char.ofNat (0x30 + digit)).getD c

def isBlank (c : Char) : Bool := c == ' ' || (0x09 ≤ c.toNat && c.toNat ≤ 0x0d)

def trimStart (s : List Char) : List Char := s.dropWhile isBlank

def trim (s : List Char) : List Char := (trimStart (trimStart s).reverse).reverse

def withoutSign : List Char → Bool × List Char
  | '-' :: rest => (true, rest)
  | '+' :: rest => (false, rest)
  | s => (false, s)

def digitValue? (c : Char) : Option Nat :=
  let n := c.toNat
  if 0x30 ≤ n && n ≤ 0x39 then some (n - 0x30)
  else if 0x61 ≤ n && n ≤ 0x7a then some (n - 0x57)
  else if 0x41 ≤ n && n ≤ 0x5a then some (n - 0x37)
  else none

def isDigitOf (base : Nat) (c : Char) : Bool := (digitValue? c).any (· < base)

def valueIn (base : Nat) (digits : List Char) : Nat :=
  digits.foldl (fun value c => base * value + (digitValue? c).getD 0) 0

def withoutMark (base : Nat) : List Char → List Char
  | '0' :: letter :: rest =>
    if (base = 2 && (letter = 'b' || letter = 'B')) || (base = 8 && (letter = 'o' || letter = 'O'))
      || (base = 16 && (letter = 'x' || letter = 'X'))
    then rest
    else '0' :: letter :: rest
  | s => s

/-- An integer; only in base ten the number of digits is limited. -/
def integer (base : Nat) (s : List Char) : Except ScalarFault Int :=
  let (negative, rest) := withoutSign (trim (plainForm s))
  let written := withoutMark base rest
  let digits := written.takeWhile (isDigitOf base)
  if base = 10 && mostDigits < digits.length then .error (.tooManyDigits digits.length)
  else if digits.isEmpty || digits.length != written.length then .error (.notInteger base s)
  else
    let n : Int := valueIn base digits
    .ok (if negative then -n else n)

/-- The first of the words that stands in front, in any case, and what is behind it. -/
def word? (words : List String) (s : List Char) : Option (List Char) :=
  words.findSome? fun word =>
    if (s.take word.length).map Text.toLower = word.toList then some (s.drop word.length) else none

/-- An exponent is left where it is if it has no digits. -/
def exponent (s : List Char) : Int × List Char :=
  match s with
  | e :: rest =>
    if e == 'e' || e == 'E' then
      let (negative, rest) := withoutSign rest
      match rest.takeWhile isDecimalDigit with
      | [] => (0, s)
      | digits =>
        let power : Int := digitsValue digits
        (if negative then -power else power, rest.drop digits.length)
    else (0, s)
  | [] => (0, s)

def realFrom? (s : List Char) : Option (Float × List Char) :=
  let (negative, rest) := withoutSign s
  let infinite : Float := 1.0 / 0.0
  match word? ["infinity", "inf"] rest, word? ["nan"] rest with
  | some rest, _ => some (if negative then -infinite else infinite, rest)
  | _, some rest => some (0.0 / 0.0, rest)
  | none, none =>
    let whole := rest.takeWhile isDecimalDigit
    let behind := rest.drop whole.length
    let fraction := match behind with
      | '.' :: more => more.takeWhile isDecimalDigit
      | _ => []
    let behind := match behind with
      | '.' :: more => more.drop fraction.length
      | _ => behind
    if whole.isEmpty && fraction.isEmpty then none
    else
      let (power, behind) := exponent behind
      some (nearestReal negative (digitsValue (whole ++ fraction)) (power - fraction.length), behind)

def real (s : List Char) : Except ScalarFault Float :=
  match realFrom? (trim (plainForm s)) with
  | some (x, []) => .ok x
  | _ => .error (.notReal s)

/-- Whether every underscore stands between two digits; `previous` is the character before. -/
def underscoresFit (previous : Char) : List Char → Bool
  | [] => previous != '_'
  | c :: rest =>
    (if c = '_' then isDecimalDigit previous else previous != '_' || isDecimalDigit c)
      && underscoresFit c rest

def imaginaryMark? : List Char → Option (List Char)
  | c :: rest => if c == 'j' || c == 'J' then some rest else none
  | [] => none

/-- A real part, an imaginary part or both, and what is behind them. -/
def partsFrom? (s : List Char) : Option ((Float × Float) × List Char) :=
  let unit : List Char → Float × List Char
    | '-' :: rest => (-1, rest)
    | '+' :: rest => (1, rest)
    | rest => (1, rest)
  match realFrom? s with
  | none => (imaginaryMark? (unit s).2).map fun rest => ((0, (unit s).1), rest)
  | some (x, rest) =>
    match rest with
    | [] => some ((x, 0), rest)
    | c :: _ =>
      if c == '+' || c == '-' then
        let (y, rest) := (realFrom? rest).getD (unit rest)
        (imaginaryMark? rest).map fun rest => ((x, y), rest)
      else
        match imaginaryMark? rest with
        | some rest => some ((0, x), rest)
        | none => some ((x, 0), rest)

def complex (s : List Char) : Except ScalarFault (Float × Float) :=
  let written := plainForm s
  if !underscoresFit ' ' written then .error (.strayUnderscore s)
  else
    let written := trim (written.filter (· != '_'))
    let found := match written with
      | '(' :: rest =>
        (partsFrom? (trimStart rest)).bind fun (parts, rest) =>
          if trimStart rest == [')'] then some parts else none
      | _ => (partsFrom? written).bind fun (parts, rest) => if rest.isEmpty then some parts else none
    match found with
    | some parts => .ok parts
    | none => .error .notComplex

end ProtoModules.Data.Numeral
