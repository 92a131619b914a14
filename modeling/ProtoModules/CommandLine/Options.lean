import ProtoModules.CommandLine.Arguments
import ProtoModules.Settings.Request

/-! The commands of the program and the options of each. -/

namespace ProtoModules.CommandLine

def helpChoice : Choice := { long := "--help", takesValue := false }

def globalChoices : List Choice :=
  [{ long := "--verbose", letter := some 'v', takesValue := false }, helpChoice]

def codeChoices : List Choice :=
  [{ long := "--config", letter := some 'c' }, { long := "--proto-dir", letter := some 'd' },
    { long := "--proto-file", letter := some 'f' }, { long := "--output-dir", letter := some 'o' },
    { long := "--tmp-dir", letter := some 't' }, { long := "--format", takesValue := false },
    { long := "--prepend-header", letter := some 'p', takesValue := false },
    { long := "--toplevel-attribute" }, { long := "--disable-comments" },
    { long := "--type-attribute" }, { long := "--enum-attribute" },
    { long := "--client-attribute" }, { long := "--server-attribute" },
    { long := "--build-client", takesValue := false },
    { long := "--build-server", takesValue := false },
    { long := "--generate-transport", takesValue := false }, helpChoice]

def withShared (change : SharedOptions → SharedOptions) (r : Request) : Request :=
  { r with shared := change r.shared }

def withGenerator (change : GeneratorOptions → GeneratorOptions) (r : Request) : Request :=
  { r with generator := change r.generator }

/-- A request with one more option. Lists grow, and of several single values the last one counts. -/
def addOption (r : Request) (g : Given) : Request :=
  let value := g.value.getD ""
  match g.long with
  | "--config" => { r with file := some value }
  | "--proto-dir" => { r with protoDirs := r.protoDirs ++ [value] }
  | "--proto-file" => { r with protoFiles := r.protoFiles ++ [value] }
  | "--output-dir" => { r with outputDir := some value }
  | "--tmp-dir" => { r with tmpDir := some value }
  | "--format" => withShared (fun o => { o with format := true }) r
  | "--prepend-header" => withShared (fun o => { o with prependHeader := true }) r
  | "--toplevel-attribute" => withShared (fun o => { o with toplevelAttribute := some value }) r
  | "--disable-comments" =>
    withShared (fun o => { o with disableComments := o.disableComments ++ [value] }) r
  | "--type-attribute" =>
    withGenerator (fun o => { o with typeAttributes := o.typeAttributes ++ [value] }) r
  | "--enum-attribute" =>
    withGenerator (fun o => { o with enumAttributes := o.enumAttributes ++ [value] }) r
  | "--client-attribute" =>
    withGenerator (fun o => { o with clientAttributes := o.clientAttributes ++ [value] }) r
  | "--server-attribute" =>
    withGenerator (fun o => { o with serverAttributes := o.serverAttributes ++ [value] }) r
  | "--build-client" => withGenerator (fun o => { o with buildClient := true }) r
  | "--build-server" => withGenerator (fun o => { o with buildServer := true }) r
  | "--generate-transport" => withGenerator (fun o => { o with generateTransport := true }) r
  | _ => r

def requestOf (given : List Given) : Request := given.foldl addOption {}

inductive Task where
  | generate
  | validate

inductive Instruction where
  | help
  | version
  | code (task : Task) (request : Request)

def asksForHelp (a : Arguments) : Bool := a.given.any fun g => g.long == helpChoice.long

def noWords (a : Arguments) : Except UsageError Unit :=
  match a.words with
  | [] => .ok ()
  | word :: _ => .error (.extraWord word)

def codeInstruction (task : Task) (words : List String) : Except UsageError Instruction := do
  let a ← read codeChoices true words
  if asksForHelp a then return .help
  noWords a
  return .code task (requestOf a.given)

def versionInstruction (words : List String) : Except UsageError Instruction := do
  let a ← read [helpChoice] true words
  if asksForHelp a then return .help
  noWords a
  return .version

def instruction (words : List String) : Except UsageError Instruction := do
  let a ← read globalChoices false words
  if asksForHelp a then return .help
  match a.words with
  | [] => .error .missingCommand
  | "generate" :: rest => codeInstruction .generate rest
  | "validate" :: rest => codeInstruction .validate rest
  | "version" :: rest => versionInstruction rest
  | name :: _ => .error (.unknownCommand name)

end ProtoModules.CommandLine
