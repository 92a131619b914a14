import ProtoModules.Data.Value

/-! The tables of a TOML text while it is read. A table can be added to as long as it was not written
as a value; an array of tables stands for its last table. -/

namespace ProtoModules.Data.Toml

inductive Node where
  /-- What was written as a value, inline tables and arrays included; nothing is added to it. -/
  | value (v : Value)
  | table (fields : List (String × Node))
  | tables (earlier : List (List (String × Node))) (last : List (String × Node))

abbrev Fields := List (String × Node)

namespace Node

mutual

def toValue : Node → Value
  | value v => v
  | table fields => .table (fieldValues fields)
  | tables earlier last => .list (tableValues earlier ++ [.table (fieldValues last)])

def fieldValues : List (String × Node) → List (Value × Value)
  | [] => []
  | (name, n) :: rest => (.text name, toValue n) :: fieldValues rest

def tableValues : List (List (String × Node)) → List Value
  | [] => []
  | fields :: rest => .table (fieldValues fields) :: tableValues rest

end

end Node

namespace Fields

/-- Changes the table at a path; the tables on the way are made if they are missing. There is none to
change where a value stands on the way. -/
def within (change : Fields → Option Fields) : (path : List String) → Fields → Option Fields
  | [], fields => change fields
  | name :: path, fields =>
    match fields.lookup name with
    | none => (within change path []).map fun inner => setField name (.table inner) fields
    | some (.table inner) =>
      (within change path inner).map fun inner => setField name (.table inner) fields
    | some (.tables earlier last) =>
      (within change path last).map fun last => setField name (.tables earlier last) fields
    | some (.value _) => none

def addNew (name : String) (v : Value) (fields : Fields) : Option Fields :=
  if (fields.lookup name).isSome then none else some (fields ++ [(name, .value v)])

def addTable (name : String) (fields : Fields) : Option Fields :=
  match fields.lookup name with
  | none => some (fields ++ [(name, .tables [] [])])
  | some (.tables earlier last) => some (setField name (.tables (earlier ++ [last]) []) fields)
  | some _ => none

def toValue (fields : Fields) : Value := .table (Node.fieldValues fields)

end Fields

structure Key where
  parents : List String
  name : String

namespace Key

def path (k : Key) : List String := k.parents ++ [k.name]

def implied (table : List String) (k : Key) : List (List String) :=
  (List.range k.parents.length).map fun n => table ++ k.parents.take (n + 1)

end Key

end ProtoModules.Data.Toml
