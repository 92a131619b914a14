import ProtoModules.Data.Value
import ProtoModules.Settings.Basic
import ProtoModules.Settings.WholeNumber

/-! Checking data against the settings. Fields are checked in the order they are declared in, and the
first value that is refused is named by the path to it; fields that are unknown are refused last
at the top and ignored below it. Flags and numbers may be written in several ways, texts only as
texts. -/

namespace ProtoModules
open Data

/-- A value, or the path to the part of the data that was refused. -/
abbrev Check (α : Type) := Except (List String) α

namespace Check

def refused {α : Type} : Check α := .error []

def under {α : Type} (part : String) (c : Check α) : Check α := c.mapError (part :: ·)

/-- Bytes count as the text that they encode. -/
def text (v : Value) : Check String := (v.written?).elim refused .ok

def optionalText : Value → Check (Option String)
  | .null => .ok none
  | v => some <$> text v

def trueWords : List String := ["1", "t", "y", "true", "yes", "on"]

def falseWords : List String := ["0", "f", "n", "false", "no", "off"]

def writtenFlag (s : String) : Check Bool :=
  if falseWords.contains s.toLower then .ok false
  else if trueWords.contains s.toLower then .ok true
  else refused

def flag : Value → Check Bool
  | .bool b => .ok b
  | .int n => if n = 0 then .ok false else if n = 1 then .ok true else refused
  | .real x => if x == 0 then .ok false else if x == 1 then .ok true else refused
  | v => do writtenFlag (← text v)

/-- A real counts as whole only as far as 64 bits reach. -/
def wholeReal? (x : Float) : Option Int :=
  if x.floor == x && x.abs < 9223372036854775808.0 then some x.toInt64.toInt else none

def wholeNumber : Value → Check Int
  | .bool b => .ok (if b then 1 else 0)
  | .int n => .ok n
  | .real x => (wholeReal? x).elim refused .ok
  | v => do (WholeNumber.parse? (← text v).toList).elim refused .ok

def positive (v : Value) : Check Int := do
  let n ← wholeNumber v
  if 1 ≤ n then return n else refused

def itemsFrom {α : Type} (check : Value → Check α) : (index : Nat) → List Value → Check (List α)
  | _, [] => .ok []
  | index, v :: rest => do
    let first ← under (toString index) (check v)
    let more ← itemsFrom check (index + 1) rest
    return first :: more

def listOf {α : Type} (check : Value → Check α) : Value → Check (List α)
  | .list items => itemsFrom check 0 items
  | .tuple items => itemsFrom check 0 items
  | _ => refused

def nonEmpty {α : Type} (xs : List α) : Check (List α) := if xs.isEmpty then refused else .ok xs

def fieldOr {α : Type} (fields : List (Value × Value)) (name : String) (default : α)
    (check : Value → Check α) : Check α :=
  match Value.lookup name fields with
  | some v => under name (check v)
  | none => .ok default

def field {α : Type} (fields : List (Value × Value)) (name : String) (check : Value → Check α) :
    Check α :=
  match Value.lookup name fields with
  | some v => under name (check v)
  | none => under name refused

end Check

def Attribute.parse? (s : String) : Option Attribute :=
  let cs := s.toList
  match cs.dropWhile (· != ':') with
  | _ :: rest => some (String.ofList (cs.takeWhile (· != ':')), String.ofList rest)
  | [] => none

namespace Check

def twoTexts : List Value → Check Attribute
  | [] => under "0" refused
  | [first] => do
    discard (under "0" (text first))
    under "1" refused
  | [first, second] => return (← under "0" (text first), ← under "1" (text second))
  | _ => refused

def pair : Value → Check Attribute
  | .list items => twoTexts items
  | .tuple items => twoTexts items
  | _ => refused

/-- An attribute written with a colon is taken apart before anything else is looked at. -/
def takenApart : Value → Check Value
  | .text s =>
    match Attribute.parse? s with
    | some (path, attr) => .ok (.list [.text path, .text attr])
    | none => refused
  | v => .ok v

/-- Attributes are a table, or a list of pairs and of texts with a colon. Only in a list that can be
added to are texts taken apart. -/
def attributePairs : Value → Check (List Attribute)
  | .table fields => itemsFrom pair 0 (fields.map fun (key, v) => .tuple [key, v])
  | .list items => do itemsFrom pair 0 (← items.mapM takenApart)
  | v => listOf pair v

def workspace : Value → Check Workspace
  | .table fields => do
    let protoDirs ← fieldOr fields "proto_dirs" [] (listOf text)
    let protoFiles ← field fields "proto_files" fun v => do nonEmpty (← listOf text v)
    let outputDir ← field fields "output_dir" text
    let tmpDir ← fieldOr fields "tmp_dir" none optionalText
    return { protoDirs, protoFiles, outputDir, tmpDir }
  | _ => refused

def generator : Value → Check GeneratorSettings
  | .table fields => do
    let unset : GeneratorSettings := {}
    let protoc ← fieldOr fields "protoc" unset.protoc text
    let plugin ← fieldOr fields "plugin" unset.plugin text
    let servicePlugin ← fieldOr fields "service_plugin" unset.servicePlugin text
    let buildClient ← fieldOr fields "build_client" false flag
    let buildServer ← fieldOr fields "build_server" false flag
    let generateTransport ← fieldOr fields "generate_transport" false flag
    let typeAttributes ← fieldOr fields "type_attributes" [] attributePairs
    let enumAttributes ← fieldOr fields "enum_attributes" [] attributePairs
    let clientAttributes ← fieldOr fields "client_attributes" [] attributePairs
    let serverAttributes ← fieldOr fields "server_attributes" [] attributePairs
    return { protoc, plugin, servicePlugin, buildClient, buildServer, generateTransport,
             typeAttributes, enumAttributes, clientAttributes, serverAttributes }
  | _ => refused

def settingNames : List String :=
  ["workspaces", "generator", "prepend_header", "toplevel_attribute", "disable_comments", "format",
    "edition", "jobs"]

def noUnknown (fields : List (Value × Value)) : Check Unit :=
  match (fields.filterMap fun item => item.1.key?).find? fun name => !settingNames.contains name with
  | some name => under name refused
  | none => .ok ()

def settings (fields : List (Value × Value)) : Check Settings := do
  let workspaces ← field fields "workspaces" (listOf workspace)
  let generator ← fieldOr fields "generator" {} generator
  let prependHeader ← fieldOr fields "prepend_header" false flag
  let toplevelAttribute ← fieldOr fields "toplevel_attribute" none optionalText
  let disableComments ← fieldOr fields "disable_comments" [] (listOf text)
  let format ← fieldOr fields "format" false flag
  let edition ← fieldOr fields "edition" "2021" text
  let jobs ← fieldOr fields "jobs" 1 positive
  noUnknown fields
  return { workspaces, generator, prependHeader, toplevelAttribute, disableComments, format,
           edition, jobs }

end Check

end ProtoModules
