import ProtoModules.Data.Json
import ProtoModules.Data.Toml.Table

/-! The parts of a TOML text below its values: blanks and comments, strings, keys, numbers and dates.
Every reader answers what it has read and the rest of the text. -/

namespace ProtoModules.Data.Toml

def skipBlanks (s : List Char) : List Char := s.dropWhile fun c => c == ' ' || c == '\t'

def isControl (c : Char) : Bool := c.toNat < 0x20 || c == '\x7f'

def skipComment? : List Char → Option (List Char)
  | '#' :: rest =>
    let text := rest.takeWhile (· != '\n')
    if text.any fun c => isControl c && c != '\t' then none else some (rest.drop text.length)
  | s => some s

/-- Blanks, line breaks and comments between the items of an array. -/
def skipBetween? : (fuel : Nat) → List Char → Option (List Char)
  | 0, s => some s
  | fuel + 1, s =>
    match s.dropWhile fun c => c == ' ' || c == '\t' || c == '\n' with
    | '#' :: rest => do skipBetween? fuel (← skipComment? ('#' :: rest))
    | rest => some rest

def literalString (s : List Char) : Option (String × List Char) :=
  let text := s.takeWhile (· != '\'')
  match s.drop text.length with
  | '\'' :: rest =>
    if text.any fun c => isControl c && c != '\t' then none else some (String.ofList text, rest)
  | _ => none

/-- Up to two quotes in front of the three that end a string are part of it. -/
def trailingQuotes (quote : Char) (done rest : List Char) : List Char × List Char :=
  let extra := (rest.take 2).takeWhile (· == quote)
  (extra ++ done, rest.drop extra.length)

/-- The rest of a string without escapes that may have several lines; `done` is what was read, last
character first. -/
def longLiteral (done : List Char) : List Char → Option (String × List Char)
  | '\'' :: '\'' :: '\'' :: rest =>
    let (done, rest) := trailingQuotes '\'' done rest
    some (String.ofList done.reverse, rest)
  | c :: rest =>
    if isControl c && c != '\t' && c != '\n' then none else longLiteral (c :: done) rest
  | [] => none

def simpleEscape? : Char → Option Char
  | 'b' => some '\x08'
  | 't' => some '\t'
  | 'n' => some '\n'
  | 'f' => some '\x0c'
  | 'r' => some '\r'
  | '"' => some '"'
  | '\\' => some '\\'
  | _ => none

def codeEscape? (count : Nat) (s : List Char) : Option (Char × List Char) := do
  let digits := s.take count
  if digits.length < count then none
  let n ← digits.foldlM (fun value c => (Json.hexDigit? c).map (16 * value + ·)) 0
  if n < 0x110000 && !(0xd800 ≤ n && n ≤ 0xdfff) then some (Char.ofNat n, s.drop count) else none

/-- A backslash at the end of a line hides the line break and the blanks before and after it. -/
def hiddenBreak? (s : List Char) : Option (List Char) :=
  match skipBlanks s with
  | '\n' :: rest => some (rest.dropWhile fun c => c == ' ' || c == '\t' || c == '\n')
  | _ => none

/-- The rest of a string with escapes behind its opening quotes. -/
def basicBody (long : Bool) (done : List Char) : (fuel : Nat) → List Char →
    Option (String × List Char)
  | 0, _ => none
  | fuel + 1, s =>
    match s with
    | [] => none
    | '"' :: rest =>
      if !long then some (String.ofList done.reverse, rest)
      else match rest with
        | '"' :: '"' :: rest =>
          let (done, rest) := trailingQuotes '"' done rest
          some (String.ofList done.reverse, rest)
        | _ => basicBody long ('"' :: done) fuel rest
    | '\\' :: 'u' :: rest => do
      let (c, rest) ← codeEscape? 4 rest
      basicBody long (c :: done) fuel rest
    | '\\' :: 'U' :: rest => do
      let (c, rest) ← codeEscape? 8 rest
      basicBody long (c :: done) fuel rest
    | '\\' :: c :: rest =>
      match simpleEscape? c with
      | some meant => basicBody long (meant :: done) fuel rest
      | none => if long then do basicBody long done fuel (← hiddenBreak? (c :: rest)) else none
    | c :: rest =>
      if isControl c && c != '\t' && !(long && c == '\n') then none
      else basicBody long (c :: done) fuel rest

def basicString (s : List Char) : Option (String × List Char) := basicBody false [] (s.length + 1) s

/-- A line break right behind the opening quotes of a long string does not count. -/
def dropBreak : List Char → List Char
  | '\n' :: rest => rest
  | s => s

def isBareKey (c : Char) : Bool := c.isAlphanum || c == '-' || c == '_'

def keyPart (s : List Char) : Option (String × List Char) :=
  match s with
  | '\'' :: rest => literalString rest
  | '"' :: rest => basicString rest
  | _ =>
    let name := s.takeWhile isBareKey
    if name.isEmpty then none else some (String.ofList name, s.drop name.length)

def keyFrom (parents : List String) : (fuel : Nat) → List Char → Option (Key × List Char)
  | 0, _ => none
  | fuel + 1, s => do
    let (name, rest) ← keyPart s
    match skipBlanks rest with
    | '.' :: rest => keyFrom (parents ++ [name]) fuel (skipBlanks rest)
    | rest => some (⟨parents, name⟩, rest)

def key (s : List Char) : Option (Key × List Char) := keyFrom [] (s.length + 1) s

/-- Digits with single underscores between them, without the underscores. -/
def digitRun (isDigit : Char → Bool) : List Char → List Char × List Char
  | [] => ([], [])
  | '_' :: c :: rest => if isDigit c then (digitRun isDigit (c :: rest)) else ([], '_' :: c :: rest)
  | c :: rest =>
    if isDigit c then
      let (more, rest) := digitRun isDigit rest
      (c :: more, rest)
    else ([], c :: rest)

/-- Such digits, of which the first is no underscore. -/
def digits (isDigit : Char → Bool) (s : List Char) : Option (List Char × List Char) :=
  match s with
  | c :: _ => if isDigit c then some (digitRun isDigit s) else none
  | [] => none

def base? : Char → Option Nat
  | 'x' => some 16
  | 'o' => some 8
  | 'b' => some 2
  | _ => none

def isDigitOf (base : Nat) (c : Char) : Bool := (Json.hexDigit? c).any (· < base)

def basedNumber : List Char → Option (Value × List Char)
  | '0' :: letter :: rest => do
    let base ← base? letter
    let (found, rest) ← digits (isDigitOf base) rest
    let n := found.foldl (fun value c => base * value + (Json.hexDigit? c).getD 0) 0
    some (.int (n : Int), rest)
  | _ => none

def sign : List Char → Bool × List Char
  | '-' :: rest => (true, rest)
  | '+' :: rest => (false, rest)
  | s => (false, s)

/-- A number in base ten; a whole one may not be too long. -/
def decimalNumber (s : List Char) : Except Refusal (Value × List Char) := do
  let (negative, rest) := sign s
  let (whole, rest) ← match rest with
    | '0' :: rest => .ok (['0'], rest)
    | _ => Refusal.required (digits isDecimalDigit rest)
  let (fraction, rest) := match rest with
    | '.' :: more => (digits isDecimalDigit more).getD ([], rest)
    | _ => ([], rest)
  let power : Option (Int × List Char) := match rest with
    | e :: more =>
      if e == 'e' || e == 'E' then
        let (down, more) := sign more
        (digits isDecimalDigit more).map fun (found, rest) =>
          (if down then -(digitsValue found : Int) else digitsValue found, rest)
      else none
    | [] => none
  if fraction.isEmpty && power.isNone then
    return (← Json.wholeNumber negative whole, rest)
  else
    let (exponent, rest) := power.getD (0, rest)
    return (.real (nearestReal negative (digitsValue (whole ++ fraction)) (exponent - fraction.length)),
      rest)

def namedNumber (s : List Char) : Option (Value × List Char) := do
  let (negative, rest) := sign s
  let (word, rest) := rest.splitAt 3
  if word = ['i', 'n', 'f'] then
    some (.real (if negative then -1.0 / 0.0 else 1.0 / 0.0), rest)
  else if word = ['n', 'a', 'n'] then some (.real (0.0 / 0.0), rest)
  else none

def number (s : List Char) : Except Refusal (Value × List Char) :=
  match basedNumber s, namedNumber s with
  | some found, _ => .ok found
  | _, some found => .ok found
  | none, none => decimalNumber s

/-- A number of so many digits that lies between two bounds. -/
def fixedDigits (count least most : Nat) (s : List Char) : Option (Nat × List Char) :=
  let found := s.take count
  let n := digitsValue found
  if found.length == count && found.all isDecimalDigit && least ≤ n && n ≤ most then
    some (n, s.drop count)
  else none

def mark (c : Char) : List Char → Option (List Char)
  | d :: rest => if d == c then some rest else none
  | [] => none

def timeOfDay (s : List Char) : Option (List Char) := do
  let (_, rest) ← fixedDigits 2 0 23 s
  let (_, rest) ← fixedDigits 2 0 59 (← mark ':' rest)
  let (_, rest) ← fixedDigits 2 0 59 (← mark ':' rest)
  match rest with
  | '.' :: c :: more => if isDecimalDigit c then some (more.dropWhile isDecimalDigit) else some rest
  | _ => some rest

def zone (s : List Char) : Option (List Char) :=
  match s with
  | c :: rest =>
    if c == 'Z' || c == 'z' then some rest
    else if c == '+' || c == '-' then do
      let (_, rest) ← fixedDigits 2 0 23 rest
      let (_, rest) ← fixedDigits 2 0 59 (← mark ':' rest)
      some rest
    else none
  | [] => none

/-- A date as it is written, with a time of day and a zone if they follow; whether there is such a
day, and the rest. -/
def date (s : List Char) : Option (Bool × List Char) := do
  let (year, rest) ← fixedDigits 4 0 9999 s
  let (month, rest) ← fixedDigits 2 1 12 (← mark '-' rest)
  let (day, rest) ← fixedDigits 2 1 31 (← mark '-' rest)
  let timed : Option (List Char) := match rest with
    | c :: more =>
      if c == 'T' || c == 't' || c == ' ' then (timeOfDay more).map fun rest => (zone rest).getD rest
      else none
    | [] => none
  some (0 < year && day ≤ daysIn year month, timed.getD rest)

end ProtoModules.Data.Toml
