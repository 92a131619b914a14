import ProtoModules.Data.Moment
import ProtoModules.Data.Numeral
import ProtoModules.Text.Split

/-! Kinds of nodes: what a node is by its tag or, if it is a plain scalar without one, by the way it is
written. Null, flags, numbers and dates each have a form of their own and all else is a text. -/

namespace ProtoModules.Data.Yaml

inductive Kind where
  | null
  | flag
  | integer
  | real
  | complex
  | moment
  | binary
  | text
  | sequence
  | tuple
  | mapping
  | set
  /-- A sequence of mappings with one pair each, which are kept as pairs. -/
  | pairs
  | merge
  | default
  | named (name : List Char)
  | unknown
  deriving DecidableEq

namespace Kind

def wordsOf (word : String) : List String := [word, word.capitalize, word.toUpper]

def trueWords : List String := ["yes", "true", "on"]

def falseWords : List String := ["no", "false", "off"]

def flagWords : List String := (trueWords ++ falseWords).flatMap wordsOf

def nullWords : List String := "~" :: wordsOf "null"

def isDigitOrBar (c : Char) : Bool := isDecimalDigit c || c == '_'

def isBinaryDigit (c : Char) : Bool := c == '0' || c == '1' || c == '_'

def isOctalDigit (c : Char) : Bool := (0x30 ≤ c.toNat && c.toNat ≤ 0x37) || c == '_'

def isHexDigit (c : Char) : Bool := Numeral.isDigitOf 16 c || c == '_'

def isSixtieth : List Char → Bool
  | [a] => isDecimalDigit a
  | [a, b] => isDecimalDigit a && a.toNat ≤ 0x35 && isDecimalDigit b
  | _ => false

def isSexagesimal (s : List Char) : Bool :=
  match Text.splitOn ':' s with
  | first :: second :: more =>
    first.head?.any isDecimalDigit && first.all isDigitOrBar && (second :: more).all isSixtieth
  | _ => false

def isInteger (s : List Char) : Bool :=
  match (Numeral.withoutSign s).2 with
  | [] => false
  | ['0'] => true
  | '0' :: 'b' :: digits => !digits.isEmpty && digits.all isBinaryDigit
  | '0' :: 'x' :: digits => !digits.isEmpty && digits.all isHexDigit
  | '0' :: digits => digits.all isOctalDigit
  | c :: rest => isDecimalDigit c && (rest.all isDigitOrBar || isSexagesimal (c :: rest))

/-- The exponent of a number always has a sign. -/
def isExponent : List Char → Bool
  | [] => true
  | e :: sign :: digits =>
    (e == 'e' || e == 'E') && (sign == '-' || sign == '+') && !digits.isEmpty
      && digits.all isDecimalDigit
  | _ => false

def infinityWords : List String := wordsOf "inf"

def nanWords : List String := ["nan", "NaN", "NAN"]

/-- A real always has a point, and at least one digit before it or right behind it. -/
def isReal (s : List Char) : Bool :=
  let unsigned := (Numeral.withoutSign s).2
  let signed := unsigned.length != s.length
  let whole := unsigned.takeWhile (· != '.')
  match unsigned.drop whole.length with
  | [] => false
  | _ :: behind =>
    let fraction := behind.takeWhile isDigitOrBar
    let after := behind.drop fraction.length
    if whole.isEmpty then
      infinityWords.contains (String.ofList behind)
        || (!signed && nanWords.contains (String.ofList behind))
        || (!signed && fraction.head?.any isDecimalDigit && isExponent after)
    else
      (whole.head?.any isDecimalDigit && whole.all isDigitOrBar && isExponent after)
        || (isSexagesimal whole && after.isEmpty)

def fixedDigits? (count : Nat) (s : List Char) : Option (Nat × List Char) :=
  let digits := s.take count
  if digits.length == count && digits.all isDecimalDigit then
    some (digitsValue digits, s.drop count)
  else none

def shortDigits? (s : List Char) : Option (Nat × List Char) :=
  (fixedDigits? 2 s).orElse fun _ => fixedDigits? 1 s

def mark? (c : Char) : List Char → Option (List Char)
  | d :: rest => if d = c then some rest else none
  | [] => none

def isTabOrSpace (c : Char) : Bool := c == ' ' || c == '\t'

/-- The offset that a time zone stands for: `Z`, or a sign, hours and perhaps minutes. -/
def offset? : List Char → Option Int
  | ['Z'] => some 0
  | sign :: rest => do
    if sign != '-' && sign != '+' then none
    let (hours, rest) ← shortDigits? rest
    let minutes ← match rest with
      | [] => some 0
      | _ => do
        let (minutes, rest) ← fixedDigits? 2 (← mark? ':' rest)
        if rest.isEmpty then some minutes else none
    let distance : Int := 60 * hours + minutes
    return if sign = '-' then -distance else distance
  | [] => none

def time? (s : List Char) : Option TimeOfDay := do
  let (hour, rest) ← shortDigits? s
  let (minute, rest) ← fixedDigits? 2 (← mark? ':' rest)
  let (second, rest) ← fixedDigits? 2 (← mark? ':' rest)
  let rest := match rest with
    | '.' :: fraction => fraction.dropWhile isDecimalDigit
    | _ => rest
  if rest.isEmpty then return { hour, minute, second }
  else return { hour, minute, second, offset := ← offset? (rest.dropWhile isTabOrSpace) }

def moment? (s : List Char) : Option Moment := do
  let (year, rest) ← fixedDigits? 4 s
  let (month, rest) ← shortDigits? (← mark? '-' rest)
  let (day, rest) ← shortDigits? (← mark? '-' rest)
  match rest with
  | [] => return { year, month, day }
  | c :: more =>
    if c = 'T' || c = 't' then return { year, month, day, time := some (← time? more) }
    else if isTabOrSpace c then
      return { year, month, day, time := some (← time? (more.dropWhile isTabOrSpace)) }
    else none

/-- A date without a time needs two digits for its month and its day. -/
def isMoment (s : List Char) : Bool :=
  (moment? s).any fun m => m.time.isSome || s.length == 10

/-- A line break at the end of a form does not count. -/
def withoutBreak (s : List Char) : List Char := if s.getLast? = some '\n' then s.dropLast else s

/-- What a scalar without a tag is by the way it is written. -/
def ofForm (s : List Char) : Kind :=
  let form := withoutBreak s
  let word := String.ofList form
  if s.isEmpty then null
  else if flagWords.contains word then flag
  else if isReal form then real
  else if isInteger form then integer
  else if word = "<<" then merge
  else if nullWords.contains word then null
  else if isMoment form then moment
  else if word = "=" then default
  else if ["!", "&", "*"].contains word then unknown
  else text

def declared : List (String × Kind) :=
  [("null", null), ("bool", flag), ("int", integer), ("float", real), ("binary", binary),
    ("timestamp", moment), ("omap", pairs), ("pairs", pairs), ("set", set), ("str", text),
    ("seq", sequence), ("map", mapping), ("merge", merge), ("value", default),
    ("python/none", null), ("python/bool", flag), ("python/str", text), ("python/unicode", text),
    ("python/bytes", binary), ("python/int", integer), ("python/long", integer),
    ("python/float", real), ("python/complex", complex), ("python/list", sequence),
    ("python/tuple", tuple), ("python/dict", mapping)]

def tagStart : List Char := "tag:yaml.org,2002:".toList

def nameStart : List Char := "python/name:".toList

def ofTag (tag : List Char) : Kind :=
  if tagStart.isPrefixOf tag then
    let name := tag.drop tagStart.length
    match declared.lookup (String.ofList name) with
    | some kind => kind
    | none =>
      if nameStart.isPrefixOf name then named (name.drop nameStart.length) else unknown
  else unknown

/-- The kind of a node, by its tag or else by what is usual for it. -/
def ofNode (tag : Option (List Char)) (usual : Kind) : Kind :=
  match tag with
  | none => usual
  | some tag => if tag = ['!'] then usual else ofTag tag

end Kind

end ProtoModules.Data.Yaml
