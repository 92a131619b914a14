/-! The settings of a run: the workspaces, each a set of definition files and the directory they are
generated into, the options of the compiler and its plugins, and the options that all workspaces
share. -/

namespace ProtoModules

structure Workspace where
  protoDirs : List String := []
  protoFiles : List String
  /-- Its content is replaced; the root module file lies beside it. -/
  outputDir : String
  /-- Where the compiler writes; a directory for the time of the run if there is none. -/
  tmpDir : Option String := none
  deriving DecidableEq

abbrev Attribute := String × String

structure GeneratorSettings where
  protoc : String := "protoc"
  plugin : String := "prost"
  servicePlugin : String := "tonic"
  buildClient : Bool := false
  buildServer : Bool := false
  generateTransport : Bool := false
  typeAttributes : List Attribute := []
  enumAttributes : List Attribute := []
  clientAttributes : List Attribute := []
  serverAttributes : List Attribute := []
  deriving DecidableEq

structure Settings where
  workspaces : List Workspace
  generator : GeneratorSettings := {}
  prependHeader : Bool := false
  toplevelAttribute : Option String := none
  disableComments : List String := []
  format : Bool := false
  edition : String := "2021"
  jobs : Int := 1
  deriving DecidableEq

end ProtoModules
