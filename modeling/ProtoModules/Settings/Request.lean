import ProtoModules.Settings.Data
import ProtoModules.Settings.Load

/-! What is asked for on the command line, made into settings. A request either describes one workspace
of its own or leaves the workspaces to a settings file; the options that were set win over the
file in both cases. -/

namespace ProtoModules
open Data

/-- Options that workspaces share. Empty texts, empty lists and flags that are off count as not set. -/
structure SharedOptions where
  format : Bool := false
  prependHeader : Bool := false
  toplevelAttribute : Option String := none
  disableComments : List String := []
  edition : Option String := none
  jobs : Option Int := none

/-- Attributes as they are written, with a colon between path and attribute, and the flags of the
service code. -/
structure GeneratorOptions where
  typeAttributes : List String := []
  enumAttributes : List String := []
  clientAttributes : List String := []
  serverAttributes : List String := []
  buildClient : Bool := false
  buildServer : Bool := false
  generateTransport : Bool := false

structure Request where
  file : Option String := none
  protoDirs : List String := []
  protoFiles : List String := []
  outputDir : Option String := none
  tmpDir : Option String := none
  shared : SharedOptions := {}
  generator : GeneratorOptions := {}

namespace Attribute

def noColon (s : String) : String := "KV-pair '" ++ s ++ "' must contain at least one ':'"

def parse (s : String) : Except Failure Attribute :=
  match parse? s with
  | some a => .ok a
  | none => .error (.badParameter (noColon s))

end Attribute

namespace GeneratorOptions

/-- Takes the attributes apart; the first one without a colon is refused. -/
def resolve (o : GeneratorOptions) : Except Failure GeneratorSettings := do
  let typeAttributes ← o.typeAttributes.mapM Attribute.parse
  let enumAttributes ← o.enumAttributes.mapM Attribute.parse
  let clientAttributes ← o.clientAttributes.mapM Attribute.parse
  let serverAttributes ← o.serverAttributes.mapM Attribute.parse
  return { typeAttributes, enumAttributes, clientAttributes, serverAttributes
           buildClient := o.buildClient, buildServer := o.buildServer
           generateTransport := o.generateTransport }

end GeneratorOptions

def orElseList {α : Type} (xs ys : List α) : List α := if xs.isEmpty then ys else xs

/-- The options that were set, in the place of those of a file. -/
def GeneratorSettings.overlay (below above : GeneratorSettings) : GeneratorSettings :=
  { below with
    typeAttributes := orElseList above.typeAttributes below.typeAttributes
    enumAttributes := orElseList above.enumAttributes below.enumAttributes
    clientAttributes := orElseList above.clientAttributes below.clientAttributes
    serverAttributes := orElseList above.serverAttributes below.serverAttributes
    buildClient := above.buildClient || below.buildClient
    buildServer := above.buildServer || below.buildServer
    generateTransport := above.generateTransport || below.generateTransport }

namespace SharedOptions

def writtenText (text : Option String) : Option String := text.filter fun t => !t.isEmpty

def applyTo (o : SharedOptions) (s : Settings) : Settings :=
  { s with
    format := o.format || s.format
    prependHeader := o.prependHeader || s.prependHeader
    toplevelAttribute := writtenText o.toplevelAttribute <|> s.toplevelAttribute
    disableComments := orElseList o.disableComments s.disableComments
    edition := (writtenText o.edition).getD s.edition
    jobs := (o.jobs.filter (· != 0)).getD s.jobs }

def fields (o : SharedOptions) : List (Value × Value) :=
  let all : List (String × Value) :=
    [("format", .bool o.format), ("prepend_header", .bool o.prependHeader),
      ("toplevel_attribute", optionalText o.toplevelAttribute),
      ("disable_comments", textList o.disableComments), ("edition", optionalText o.edition),
      ("jobs", o.jobs.elim .null .int)]
  (all.filter fun item => !item.2.isVoid).map fun (name, v) => (.text name, v)

end SharedOptions

namespace Request

def incomplete : String := "--output-dir and at least one --proto-file are required"

/-- The settings of a workspace that the request describes itself. Its workspace and generator
options replace those of the environment. -/
def inline (r : Request) (env : Environment) (outputDir : String) (g : GeneratorSettings) :
    Except Failure Settings := do
  let workspace : Workspace :=
    { protoDirs := r.protoDirs, protoFiles := r.protoFiles, outputDir, tmpDir := r.tmpDir }
  let described : List (Value × Value) :=
    [(.text "workspaces", .list [workspace.toValue]), (.text "generator", g.toValue)]
  let below := (← env.fields {}).filter fun item => item.1.key?.all fun name =>
    (Value.lookup name described).isNone
  Settings.checked (Value.joinFields below (described ++ r.shared.fields))

def settings (r : Request) (s : Surroundings) : Except Failure Settings := do
  let asked ← r.generator.resolve
  match r.outputDir, r.protoFiles with
  | none, [] =>
    let base ← Settings.load s r.file
    return r.shared.applyTo { base with generator := base.generator.overlay asked }
  | some outputDir, _ :: _ => r.inline s.environment outputDir asked
  | _, _ => .error (.badParameter incomplete)

end Request

end ProtoModules
