import ProtoModules.Data.Value
import ProtoModules.Settings.Basic

/-! Settings as data: every field by its name, in the form that a check accepts. -/

namespace ProtoModules
open Data

def textList (texts : List String) : Value := .list (texts.map .text)

def optionalText (text : Option String) : Value := text.elim .null .text

def Workspace.toValue (w : Workspace) : Value :=
  .ofFields [("proto_dirs", textList w.protoDirs), ("proto_files", textList w.protoFiles),
    ("output_dir", .text w.outputDir), ("tmp_dir", optionalText w.tmpDir)]

def attributeList (attributes : List Attribute) : Value :=
  .list (attributes.map fun (path, text) => .list [.text path, .text text])

def GeneratorSettings.toValue (g : GeneratorSettings) : Value :=
  .ofFields [("protoc", .text g.protoc), ("plugin", .text g.plugin),
    ("service_plugin", .text g.servicePlugin), ("build_client", .bool g.buildClient),
    ("build_server", .bool g.buildServer), ("generate_transport", .bool g.generateTransport),
    ("type_attributes", attributeList g.typeAttributes),
    ("enum_attributes", attributeList g.enumAttributes),
    ("client_attributes", attributeList g.clientAttributes),
    ("server_attributes", attributeList g.serverAttributes)]

def Settings.toValue (s : Settings) : Value :=
  .ofFields [("workspaces", .list (s.workspaces.map Workspace.toValue)),
    ("generator", s.generator.toValue), ("prepend_header", .bool s.prependHeader),
    ("toplevel_attribute", optionalText s.toplevelAttribute),
    ("disable_comments", textList s.disableComments), ("format", .bool s.format),
    ("edition", .text s.edition), ("jobs", .int s.jobs)]

end ProtoModules
