import ProtoModules.CommandLine.Markup
import ProtoModules.CommandLine.Options
import ProtoModules.Pipeline

/-! The program: a command line is carried out and says in lines what it did. It ends with a status, or
with a failure that it does not report in its own words. -/

namespace ProtoModules.CommandLine
open Disk

inductive Ending where
  | status (code : Nat)
  | failed (f : Failure)

/-- A session and the lines shown so far. -/
structure Terminal where
  session : Session
  lines : List Text.Line := []

/-- What a command does; it may end before its last step. -/
abbrev Conduct (α : Type) := ExceptT Ending (StateM Terminal) α

namespace Conduct

def stop {α : Type} (e : Ending) : Conduct α := throw e

def say (text : String) : Conduct Unit :=
  match Markup.lines? text.toList with
  | some ls => modify fun t => { t with lines := t.lines ++ ls }
  | none => stop (.failed .badMarkup)

def sayAll (texts : List String) : Conduct Unit := texts.forM say

/-- Does something with the session; it keeps what was done even if it fails. -/
def attempt {α : Type} (action : Action α) : Conduct (Except Failure α) := do
  let t ← get
  let (result, session) := action.run t.session
  set { t with session := session }
  return result

end Conduct

open Conduct

def reportLines (r : Report) : List String := r.lines.map ("  - " ++ ·)

/-- Says what went wrong and ends; a difference is shown file by file. -/
def giveUp {α : Type} (f : Failure) : Conduct α := do
  say ("Error: " ++ f.message)
  match f with
  | .error (.difference _ report) => sayAll (reportLines report)
  | _ => pure ()
  stop (.status 1)

structure World where
  tools : Toolchain
  environment : Environment
  home : String
  scratch : Path

def Task.title : Task → String
  | generate => "Generating"
  | validate => "Validating"

def progressText (task : Task) (workspace : Workspace) : String :=
  "[progress.description]" ++ task.title ++ " code for " ++ toString workspace.protoFiles.length
    ++ " files in " ++ workspace.outputDir ++ "..."

/-- Nothing is done for a workspace whose progress cannot be shown. -/
def runWorkspace (w : World) (task : Task) (settings : Settings) (workspace : Workspace) :
    Conduct Unit := do
  say (progressText task workspace)
  let p := Pipeline.new settings workspace w.scratch
  let action := match task with
    | .generate => p.generate w.tools
    | .validate => p.validate w.tools
  match ← attempt action with
  | .error f => giveUp f
  | .ok report =>
    if report.isEmpty then say ("No changes in " ++ workspace.outputDir)
    else do
      say ("Updated " ++ toString report.count ++ " files:")
      sayAll (reportLines report)

/-- Wrong settings are reported; a request that cannot be understood is a matter of usage. -/
def settingsOf (w : World) (request : Request) : Conduct Settings := do
  match request.settings ⟨(← get).session.disk, w.environment, w.home⟩ with
  | .ok settings => return settings
  | .error (.error e) => giveUp (.error e)
  | .error (.badParameter _) => stop (.status 2)
  | .error f => stop (.failed f)

def runCode (w : World) (task : Task) (request : Request) : Conduct Unit := do
  let settings ← settingsOf w request
  settings.workspaces.forM (runWorkspace w task settings)

def help : List String :=
  ["Usage: protonest [--verbose] generate|validate [OPTIONS]", "       protonest version"]

def carryOut (w : World) : Instruction → Conduct Unit
  | .help => modify fun t => { t with lines := t.lines ++ help.map String.toList }
  | .version => say ("protonest version: " ++ programVersion)
  | .code task request => runCode w task request

/-- Carries out a command line. Nothing is shown if it cannot be understood. -/
def run (w : World) (words : List String) (session : Session) : Ending × Terminal :=
  let start : Terminal := { session := session }
  match instruction words with
  | .error _ => (.status 2, start)
  | .ok i =>
    match (carryOut w i).run start with
    | (.ok _, t) => (.status 0, t)
    | (.error e, t) => (e, t)

end ProtoModules.CommandLine
