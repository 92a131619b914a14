import ProtoModules.Data.Refusal
import ProtoModules.Output.Directory
import ProtoModules.PackageTree.Files
import ProtoModules.PackageTree.Identifiers
import ProtoModules.Text.Blank
import ProtoModules.Text.Encoding

/-! What can go wrong. An error is one that the program reports in its own words; a failure is
whatever ends a run, errors and what the disk or a data format refuses alike. -/

namespace ProtoModules

inductive ConfigurationReason where
  | noDefinitionFiles
  | fileNotFound
  | nothingFound
  | invalid
  | other (text : String)

inductive GenerationReason where
  | fileNotFound
  | includeNotFound
  | notStarted (executable : String)
  | exited (executable : String) (status : Int)
  | other (text : String)

inductive Error where
  | general (text : String)
  | configuration (reason : ConfigurationReason) (file field : Option String)
  | generation (reason : GenerationReason) (path detail : Option String)
  | collision (first second identifier : String)
  | output (path : String) (cause : Option String)
  /-- What is expected is a file or a directory, by its name. -/
  | conflict (path expected : String)
  | format (path : String) (detail : Option String)
  | difference (outputDirectory : String) (report : Report)

namespace ConfigurationReason

def message : ConfigurationReason → String
  | noDefinitionFiles => "At least one definition file is required"
  | fileNotFound => "Configuration file not found"
  | nothingFound => "config not found"
  | invalid => "Invalid configuration"
  | other text => text

end ConfigurationReason

namespace GenerationReason

def message : GenerationReason → String
  | fileNotFound => "Definition file not found"
  | includeNotFound => "Include directory not found"
  | notStarted executable => "Failed to run " ++ executable
  | exited executable status => executable ++ " exited with status " ++ toString status
  | other text => text

end GenerationReason

def Kind.name : Kind → String
  | file => "file"
  | directory => "directory"

namespace Error

def clause (part : Option String) (write : String → String) : String :=
  match part with
  | some text => if text.isEmpty then "" else write text
  | none => ""

def quoted (s : String) : String := "'" ++ s ++ "'"

def trimmedEnd (s : String) : String := String.ofList (Text.trimEnd s.toList)

def message : Error → String
  | general text => text
  | configuration reason file field =>
    reason.message ++ clause file (fun f => " in " ++ quoted f)
      ++ clause field (fun f => " (field: " ++ f ++ ")")
  | generation reason path detail =>
    reason.message ++ clause path (fun p => " for " ++ quoted p)
      ++ clause detail (fun d => ":\n" ++ trimmedEnd d)
  | collision first second identifier =>
    "Packages " ++ quoted first ++ " and " ++ quoted second ++ " both resolve to the module name "
      ++ quoted identifier ++ "; rename one of them"
  | output path cause =>
    "Failed to write output to " ++ quoted path ++
      match cause with
      | some text => ": " ++ text
      | none => ""
  | conflict path expected =>
    "Output path " ++ quoted path ++ " exists but is not a " ++ expected
  | format path detail =>
    "Failed to format " ++ quoted path ++ clause detail (fun d => ": " ++ trimmedEnd d)
  | difference outputDirectory report =>
    "Found " ++ toString report.count ++ " diffs at " ++ quoted outputDirectory

def ofCollision (c : Collision) : Error :=
  collision (String.ofList c.first) (String.ofList c.second) (String.ofList c.identifier)

def ofConflict (c : Conflict) : Error := conflict c.path.toString c.expected.name

end Error

inductive DataFormat where
  | json
  | yaml
  | toml
  deriving DecidableEq

inductive Failure where
  | error (e : Error)
  | disk (e : DiskError)
  | undecodable (e : Text.DecodeError)
  | malformed (format : DataFormat)
  /-- Data that lies too deep in other data to be read. -/
  | tooDeep
  | badScalar (fault : Data.ScalarFault)
  | noTable
  | invalidSetting (field : String)
  | badVariable (field : String)
  | badParameter (text : String)
  /-- A tree whose modules have no identifiers yet cannot be written out. -/
  | unresolved (missing : PackageTree.MissingName)
  | badMarkup

namespace Failure

def ofRefusal (format : DataFormat) : Data.Refusal → Failure
  | .malformed => malformed format
  | .tooDeep => tooDeep
  | .scalar fault => badScalar fault

def message : Failure → String
  | error e => e.message
  | disk e => e.message
  | undecodable e => e.message
  | malformed .json => "malformed JSON"
  | malformed .yaml => "malformed YAML"
  | malformed .toml => "malformed TOML"
  | tooDeep => "the data is nested too deep"
  | badScalar fault => fault.message
  | noTable => "the configuration is no table"
  | invalidSetting field => "invalid value for " ++ field
  | badVariable field => "error parsing value for field \"" ++ field ++ "\" from the environment"
  | badParameter text => text
  | unresolved .root => "Module tree must be resolved before emission"
  | unresolved .module => "a module has no identifier"
  | unresolved .sibling => "modules without identifiers cannot be ordered"
  | badMarkup => "a closing mark of style has nothing to close"

end Failure

end ProtoModules
