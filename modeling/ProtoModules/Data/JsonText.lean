import ProtoModules.Data.Value

/-! Writing a value as a JSON text. Strings are escaped no more than JSON asks for. What JSON has no
form for, such as bytes or a date, is written as null. -/

namespace ProtoModules.Data.Json

def hexChar (n : Nat) : Char := if n < 10 then Char.ofNat (0x30 + n) else Char.ofNat (0x57 + n)

def escapeChar (c : Char) : List Char :=
  if c = '"' then ['\\', '"']
  else if c = '\\' then ['\\', '\\']
  else if c = '\n' then ['\\', 'n']
  else if c = '\r' then ['\\', 'r']
  else if c = '\t' then ['\\', 't']
  else if c.toNat < 0x20 then ['\\', 'u', '0', '0', hexChar (c.toNat / 16), hexChar (c.toNat % 16)]
  else [c]

def quote (s : String) : String :=
  s.foldl (fun out c => (escapeChar c).foldl String.push out) "\"" ++ "\""

mutual

def write : Value → String
  | .null => "null"
  | .bool b => if b then "true" else "false"
  | .int n => toString n
  | .real x => toString x
  | .text s => quote s
  | .list items => "[" ++ writeItems items ++ "]"
  | .table fields => "\x7b" ++ writeFields fields ++ "\x7d"
  | .tuple items => "[" ++ writeItems items ++ "]"
  | .bytes _ => "null"
  | .other _ => "null"

def writeItems : List Value → String
  | [] => ""
  | [v] => write v
  | v :: rest => write v ++ "," ++ writeItems rest

def writeFields : List (Value × Value) → String
  | [] => ""
  | [(key, v)] => writeName key ++ ":" ++ write v
  | (key, v) :: rest => writeName key ++ ":" ++ write v ++ "," ++ writeFields rest

/-- The name of a field is always a string. -/
def writeName : Value → String
  | .text s => quote s
  | .null => quote "null"
  | .bool b => quote (if b then "true" else "false")
  | .int n => quote (toString n)
  | _ => quote ""

end

end ProtoModules.Data.Json
