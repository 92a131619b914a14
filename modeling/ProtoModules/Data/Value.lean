/-! Values of data formats: what a configuration file or an environment variable holds before it is
checked. Tables keep the order of their keys, and a key may be any value. -/

namespace ProtoModules.Data

inductive Value where
  | null
  | bool (b : Bool)
  | int (n : Int)
  | real (x : Float)
  | text (s : String)
  | list (items : List Value)
  | table (fields : List (Value × Value))
  /-- A sequence that cannot be added to, or a set. -/
  | tuple (items : List Value)
  | bytes (data : List UInt8)
  /-- A date, a time or whatever else no setting can hold; it may count as nothing given. -/
  | other (void : Bool)
  deriving Inhabited

namespace Value

def ofFields (fields : List (String × Value)) : Value :=
  .table (fields.map fun (key, value) => (.text key, value))

def key? : Value → Option String
  | .text s => some s
  | _ => none

/-- What is written in a value: its text, or its bytes if they are UTF-8. -/
def written? : Value → Option String
  | .text s => some s
  | .bytes data => String.fromUTF8? ⟨data.toArray⟩
  | _ => none

def lookup (name : String) : List (Value × Value) → Option Value
  | [] => none
  | (key, value) :: rest => if key.key? = some name then some value else lookup name rest

/-- The fields with this one in the place of the first one of its name, or behind the others. -/
def setNamed (name : String) (v : Value) : List (Value × Value) → List (Value × Value)
  | [] => [(.text name, v)]
  | (key, old) :: rest =>
    if key.key? = some name then (key, v) :: rest else (key, old) :: setNamed name v rest

/-- What counts as nothing given: null, false, zero and whatever is empty. -/
def isVoid : Value → Bool
  | .null => true
  | .bool b => !b
  | .int n => n == 0
  | .real x => x == 0
  | .text s => s.isEmpty
  | .list items => items.isEmpty
  | .table fields => fields.isEmpty
  | .tuple items => items.isEmpty
  | .bytes data => data.isEmpty
  | .other void => void

end Value

/-- The field set to the value: in its old place if the key is there, behind the others if not. -/
def setField {κ α : Type} [BEq κ] (key : κ) (value : α) : List (κ × α) → List (κ × α)
  | [] => [(key, value)]
  | (k, v) :: rest => if k == key then (k, value) :: rest else (k, v) :: setField key value rest

end ProtoModules.Data
