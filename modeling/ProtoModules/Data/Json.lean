import ProtoModules.Data.Refusal
import ProtoModules.Data.Value

/-! JSON texts. The reader takes the standard grammar and the three number names `NaN`, `Infinity` and
`-Infinity`; it refuses control characters in strings, a byte order mark and anything behind the
value. Of several fields with one name the last value counts, in the place of the first. -/

namespace ProtoModules.Data.Json

def skipBlanks (s : List Char) : List Char :=
  s.dropWhile fun c => c == ' ' || c == '\t' || c == '\n' || c == '\r'

def hexDigit? (c : Char) : Option Nat :=
  let n := c.toNat
  if 0x30 ≤ n && n ≤ 0x39 then some (n - 0x30)
  else if 0x61 ≤ n && n ≤ 0x66 then some (n - 0x57)
  else if 0x41 ≤ n && n ≤ 0x46 then some (n - 0x37)
  else none

def hex4? (a b c d : Char) : Option Nat := do
  return (((← hexDigit? a) * 16 + (← hexDigit? b)) * 16 + (← hexDigit? c)) * 16 + (← hexDigit? d)

/-- The character for a code unit; a lone surrogate has none and becomes the replacement
character. -/
def unitChar (n : Nat) : Char :=
  if 0xd800 ≤ n && n ≤ 0xdfff then '\ufffd' else Char.ofNat n

def simpleEscape? : Char → Option Char
  | '"' => some '"'
  | '\\' => some '\\'
  | '/' => some '/'
  | 'b' => some '\x08'
  | 'f' => some '\x0c'
  | 'n' => some '\n'
  | 'r' => some '\r'
  | 't' => some '\t'
  | _ => none

/-- The rest of a string behind its opening quote; `done` holds the characters read, last first, and
`high` a first half of a surrogate pair that waits for the second. -/
def stringBody (done : List Char) (high : Option Nat) : List Char → Option (String × List Char)
  | [] => none
  | '"' :: rest => some (String.ofList ((flush done high).reverse), rest)
  | '\\' :: 'u' :: a :: b :: c :: d :: rest =>
    match hex4? a b c d with
    | none => none
    | some n =>
      match high with
      | some h =>
        if 0xdc00 ≤ n && n ≤ 0xdfff then
          stringBody (Char.ofNat (0x10000 + (h - 0xd800) * 0x400 + (n - 0xdc00)) :: done) none rest
        else if 0xd800 ≤ n && n ≤ 0xdbff then stringBody (unitChar h :: done) (some n) rest
        else stringBody (unitChar n :: unitChar h :: done) none rest
      | none =>
        if 0xd800 ≤ n && n ≤ 0xdbff then stringBody done (some n) rest
        else stringBody (unitChar n :: done) none rest
  | '\\' :: e :: rest =>
    match simpleEscape? e with
    | none => none
    | some c => stringBody (c :: flush done high) none rest
  | c :: rest => if c.toNat < 0x20 then none else stringBody (c :: flush done high) none rest
where
  flush (done : List Char) : Option Nat → List Char
    | none => done
    | some h => unitChar h :: done

/-- A whole number, which may not be too long. -/
def wholeNumber (negative : Bool) (digits : List Char) : Except Refusal Value :=
  if mostDigits < digits.length then .error (.scalar (.tooManyDigits digits.length))
  else
    let n : Int := digitsValue digits
    .ok (.int (if negative then -n else n))

def number (s : List Char) : Except Refusal (Value × List Char) :=
  let (negative, s) := match s with
    | '-' :: rest => (true, rest)
    | _ => (false, s)
  let whole := match s with
    | '0' :: _ => ['0']
    | _ => s.takeWhile isDecimalDigit
  if whole.isEmpty then .error .malformed
  else
    let rest := s.drop whole.length
    let fraction := match rest with
      | '.' :: more => more.takeWhile isDecimalDigit
      | _ => []
    let rest := if fraction.isEmpty then rest else rest.drop (fraction.length + 1)
    let exponent : Option (Int × List Char) := match rest with
      | e :: more =>
        if e == 'e' || e == 'E' then
          let (sign, more) : Int × List Char := match more with
            | '-' :: digits => (-1, digits)
            | '+' :: digits => (1, digits)
            | _ => (1, more)
          match more.takeWhile isDecimalDigit with
          | [] => none
          | digits => some (sign * digitsValue digits, more.drop digits.length)
        else none
      | [] => none
    match fraction, exponent with
    | [], none => (wholeNumber negative whole).map fun v => (v, rest)
    | _, _ =>
      let (power, rest) := exponent.getD (0, rest)
      let value := nearestReal negative (digitsValue (whole ++ fraction)) (power - fraction.length)
      .ok (.real value, rest)

def dropWord? (word : String) (s : List Char) : Option (List Char) :=
  if word.toList.isPrefixOf s then some (s.drop word.length) else none

def literals : List (String × Value) :=
  [("null", .null), ("true", .bool true), ("false", .bool false), ("NaN", .real (0.0 / 0.0)),
    ("Infinity", .real (1.0 / 0.0)), ("-Infinity", .real (-1.0 / 0.0))]

def deepest : Nat := 988

mutual

/-- A value inside of which `room` arrays and objects may lie in one another. Every nested call has
read a character, so the length of the text is fuel enough. -/
def value (room : Nat) : (fuel : Nat) → List Char → Except Refusal (Value × List Char)
  | 0, _ => .error .malformed
  | fuel + 1, s =>
    match s with
    | '"' :: rest => do
      let (text, rest) ← Refusal.required (stringBody [] none rest)
      return (.text text, rest)
    | '[' :: rest =>
      if room = 0 then .error .tooDeep
      else match skipBlanks rest with
        | ']' :: rest => .ok (.list [], rest)
        | rest => items (room - 1) fuel [] rest
    | '{' :: rest =>
      if room = 0 then .error .tooDeep
      else match skipBlanks rest with
        | '}' :: rest => .ok (.table [], rest)
        | rest => fields (room - 1) fuel [] rest
    | _ =>
      match literals.findSome? fun (word, v) => (dropWord? word s).map fun rest => (v, rest) with
      | some found => .ok found
      | none => number s

def items (room : Nat) : (fuel : Nat) → List Value → List Char → Except Refusal (Value × List Char)
  | 0, _, _ => .error .malformed
  | fuel + 1, done, s => do
    let (v, rest) ← value room fuel s
    match skipBlanks rest with
    | ',' :: rest => items room fuel (v :: done) (skipBlanks rest)
    | ']' :: rest => return (.list (v :: done).reverse, rest)
    | _ => .error .malformed

def fields (room : Nat) :
    (fuel : Nat) → List (String × Value) → List Char → Except Refusal (Value × List Char)
  | 0, _, _ => .error .malformed
  | fuel + 1, done, s =>
    match s with
    | '"' :: rest => do
      let (name, rest) ← Refusal.required (stringBody [] none rest)
      match skipBlanks rest with
      | ':' :: rest =>
        let (v, rest) ← value room fuel (skipBlanks rest)
        match skipBlanks rest with
        | ',' :: rest => fields room fuel (setField name v done) (skipBlanks rest)
        | '}' :: rest => return (Value.ofFields (setField name v done), rest)
        | _ => .error .malformed
      | _ => .error .malformed
    | _ => .error .malformed

end

def read (text : String) : Except Refusal Value := do
  let s := text.toList
  let (v, rest) ← value deepest (s.length + 1) (skipBlanks s)
  if (skipBlanks rest).isEmpty then return v else .error .malformed

/-- The value that a text holds, if it is a JSON text. -/
def parse? (text : String) : Option Value := (read text).toOption

end ProtoModules.Data.Json
