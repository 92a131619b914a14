import ProtoModules.Data.Toml.Scalar

/-! TOML texts: key and value pairs under the tables that headers open. A name is given a value once,
and a table is opened once, by a header or by keys with dots; only arrays of tables are opened again,
each time for their next table. -/

namespace ProtoModules.Data.Toml

/-- How much room there is for arrays and inline tables in one another: an array takes up two parts of
it and a table three. -/
def room : Nat := 990

mutual

/-- Every nested call has read a character, so the length of the text is fuel enough. -/
def value (room : Nat) : (fuel : Nat) → List Char → Except Refusal (Value × List Char)
  | 0, _ => .error .malformed
  | fuel + 1, s =>
    match s with
    | '"' :: '"' :: '"' :: rest => text (basicBody true [] (rest.length + 1) (dropBreak rest))
    | '"' :: rest => text (basicString rest)
    | '\'' :: '\'' :: '\'' :: rest => text (longLiteral [] (dropBreak rest))
    | '\'' :: rest => text (literalString rest)
    | 't' :: 'r' :: 'u' :: 'e' :: rest => .ok (.bool true, rest)
    | 'f' :: 'a' :: 'l' :: 's' :: 'e' :: rest => .ok (.bool false, rest)
    | '[' :: rest => if room < 2 then .error .tooDeep else items (room - 2) fuel [] rest
    | '{' :: rest =>
      if room < 3 then .error .tooDeep
      else match skipBlanks rest with
        | '}' :: rest => .ok (.table [], rest)
        | rest => inlineFields (room - 3) fuel [] rest
    | _ =>
      match date s with
      | some (exists?, rest) => if exists? then .ok (.other false, rest) else .error .malformed
      | none =>
        match timeOfDay s with
        | some rest => .ok (.other false, rest)
        | none => number s
where
  text (found : Option (String × List Char)) : Except Refusal (Value × List Char) :=
    (Refusal.required found).map fun (t, rest) => (.text t, rest)

def items (room : Nat) : (fuel : Nat) → List Value → List Char → Except Refusal (Value × List Char)
  | 0, _, _ => .error .malformed
  | fuel + 1, done, s => do
    match ← Refusal.required (skipBetween? (s.length + 1) s) with
    | ']' :: rest => return (.list done.reverse, rest)
    | s =>
      let (v, rest) ← value room fuel s
      match ← Refusal.required (skipBetween? (rest.length + 1) rest) with
      | ',' :: rest => items room fuel (v :: done) rest
      | ']' :: rest => return (.list (v :: done).reverse, rest)
      | _ => .error .malformed

def inlineFields (room : Nat) : (fuel : Nat) → Fields → List Char → Except Refusal (Value × List Char)
  | 0, _, _ => .error .malformed
  | fuel + 1, fields, s => do
    let (k, v, rest) ← pair room fuel s
    let fields ← Refusal.required (fields.within (Fields.addNew k.name v) k.parents)
    match skipBlanks rest with
    | '}' :: rest => return (fields.toValue, rest)
    | ',' :: rest => inlineFields room fuel fields (skipBlanks rest)
    | _ => .error .malformed

def pair (room : Nat) : (fuel : Nat) → List Char → Except Refusal (Key × Value × List Char)
  | 0, _ => .error .malformed
  | fuel + 1, s =>
    match key s with
    | some (k, '=' :: rest) => (value room fuel (skipBlanks rest)).map fun (v, rest) => (k, v, rest)
    | _ => .error .malformed

end

structure Document where
  root : Fields := []
  current : List String := []
  /-- Tables that no header and no dotted key of another section may open again. -/
  opened : List (List String) := []
  /-- Tables that the dotted keys of this section have opened. -/
  dotted : List (List String) := []

namespace Document

def addPair (d : Document) (k : Key) (v : Value) : Option Document := do
  let implied := k.implied d.current
  if implied.any d.opened.contains then none
  let root ← d.root.within (Fields.addNew k.name v) (d.current ++ k.parents)
  return { d with root := root, dotted := implied ++ d.dotted }

/-- The tables of a section are closed to others when the next one begins. -/
def endSection (d : Document) : Document := { d with opened := d.dotted ++ d.opened, dotted := [] }

def openTable (d : Document) (k : Key) : Option Document := do
  if d.opened.contains k.path then none
  let root ← d.root.within some k.path
  return { d with root := root, current := k.path, opened := k.path :: d.opened }

def openNext (d : Document) (k : Key) : Option Document := do
  let root ← d.root.within (Fields.addTable k.name) k.parents
  let others := d.opened.filter fun path => !k.path.isPrefixOf path
  return { d with root := root, current := k.path, opened := k.path :: others }

def statement (d : Document) (s : List Char) : Except Refusal (Document × List Char) :=
  match s with
  | '[' :: '[' :: rest => Refusal.required do
    let (k, rest) ← key (skipBlanks rest)
    let d ← d.endSection.openNext k
    match rest with
    | ']' :: ']' :: rest => some (d, rest)
    | _ => none
  | '[' :: rest => Refusal.required do
    let (k, rest) ← key (skipBlanks rest)
    let d ← d.endSection.openTable k
    match rest with
    | ']' :: rest => some (d, rest)
    | _ => none
  | '#' :: _ => .ok (d, s)
  | _ => do
    let (k, v, rest) ← pair room (s.length + 1) s
    return (← Refusal.required (d.addPair k v), rest)

def lines (d : Document) : (fuel : Nat) → List Char → Except Refusal Document
  | 0, _ => .error .malformed
  | fuel + 1, s =>
    match skipBlanks s with
    | [] => .ok d
    | '\n' :: rest => lines d fuel rest
    | s => do
      let (d, rest) ← d.statement s
      match ← Refusal.required (skipComment? (skipBlanks rest)) with
      | [] => return d
      | '\n' :: rest => lines d fuel rest
      | _ => .error .malformed

end Document

/-- The table that a text holds. Lines end with a line feed alone. -/
def read (text : List Char) : Except Refusal Value :=
  (Document.lines {} (text.length + 1) text).map fun d => d.root.toValue

end ProtoModules.Data.Toml
