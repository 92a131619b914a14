import ProtoModules.Data.JsonText
import ProtoModules.Main
import ProtoModules.Proofs.Comment.Fence
import ProtoModules.Proofs.Text.Lines
import ProtoModules.Proofs.Text.Replace
import ProtoModules.Proofs.Text.Literal
import ProtoModules.Proofs.Text.Word
import ProtoModules.Proofs.Comment.Reads
import ProtoModules.Proofs.Comment.Settled
import ProtoModules.Proofs.Comment.FenceScan
import ProtoModules.Proofs.Source.DocLine
import ProtoModules.Proofs.Source.Piece
import ProtoModules.Proofs.Source.Rewrite
import ProtoModules.Proofs.Source.Runs
import ProtoModules.Proofs.PackageTree.Lookup
import ProtoModules.Proofs.PackageTree.Nodes
import ProtoModules.Proofs.PackageTree.Naming
import ProtoModules.Proofs.PackageTree.Contents
import ProtoModules.Proofs.Disk.Path
import ProtoModules.Proofs.Disk.Effect
import ProtoModules.Proofs.Disk.Sorted
import ProtoModules.Proofs.Output.Replace
import ProtoModules.Proofs.Output.Compare
import ProtoModules.Proofs.Identifier.Stem
import ProtoModules.Proofs.Identifier.Replacements
import ProtoModules.Proofs.Identifier.SnakeCase
import ProtoModules.Proofs.Identifier.ModuleName
import ProtoModules.Proofs.PackageTree.Siblings
import ProtoModules.Proofs.PackageTree.FilePaths
import ProtoModules.Proofs.PackageTree.Header
import ProtoModules.Proofs.PackageTree.Declarations
import ProtoModules.Proofs.PackageTree.Collisions
import ProtoModules.Proofs.PackageTree.Determined
import ProtoModules.Proofs.Tool.Action
import ProtoModules.Proofs.Pipeline.Footprint
import ProtoModules.Proofs.Pipeline.Rerun
import ProtoModules.Proofs.Pipeline.Interleaving
import ProtoModules.Proofs.Pipeline.Comments
import ProtoModules.Proofs.Disk.Frame
import ProtoModules.Proofs.Disk.Accept
import ProtoModules.Proofs.Output.Granted
import ProtoModules.Proofs.PackageTree.RootStem
import ProtoModules.Proofs.Tool.Frame
import ProtoModules.Proofs.Pipeline.Failure
import ProtoModules.Proofs.Comment.LiveCode
import ProtoModules.Proofs.Comment.Program
import ProtoModules.Proofs.Comment.Brackets
import ProtoModules.Proofs.Comment.Shift
import ProtoModules.Proofs.Disk.Alike
import ProtoModules.Proofs.Output.Standing
import ProtoModules.Proofs.Tool.Detached
import ProtoModules.Proofs.Pipeline.Skipping
import ProtoModules.Proofs.Output.Separate
import ProtoModules.Proofs.Output.Edit
import ProtoModules.Proofs.Pipeline.Commuting
import ProtoModules.Proofs.Comment.Prose
import ProtoModules.Proofs.Comment.Images
import ProtoModules.Proofs.Source.Repeated
import ProtoModules.Proofs.Source.Frame
import ProtoModules.Proofs.Comment.Pattern
import ProtoModules.Proofs.Source.Nesting
import ProtoModules.Proofs.Source.Spans
import ProtoModules.Proofs.Source.Members
import ProtoModules.Proofs.Source.Items
import ProtoModules.Proofs.Source.Headers
import ProtoModules.Proofs.Source.Forest
import ProtoModules.Proofs.Source.Places
import ProtoModules.Proofs.Source.Attribution
import ProtoModules.Proofs.Source.Named
import ProtoModules.Proofs.Source.Layout
import ProtoModules.Proofs.Disk.Vacant
import ProtoModules.Proofs.Disk.Growth
import ProtoModules.Proofs.Output.Pruning
import ProtoModules.Proofs.Output.Finished
import ProtoModules.Proofs.Output.Refusal
import ProtoModules.Proofs.Output.Tree
import ProtoModules.Proofs.Output.Obstruction
import ProtoModules.Proofs.Output.Differences
import ProtoModules.Proofs.Tool.PackageFile
import ProtoModules.Proofs.Tool.Sources
import ProtoModules.Proofs.Disk.Arrival
import ProtoModules.Proofs.Tool.Compilation
import ProtoModules.Proofs.Tool.Mirror
import ProtoModules.Proofs.Tool.WorkDirectory
import ProtoModules.Proofs.Tool.Offender
import ProtoModules.Proofs.Tool.SamePaths
import ProtoModules.Proofs.Tool.Version
import ProtoModules.Proofs.PackageTree.Insertions
import ProtoModules.Proofs.PackageTree.Preorder
import ProtoModules.Proofs.Settings.Fields
import ProtoModules.Proofs.Settings.Checked
import ProtoModules.Proofs.Settings.Shared
import ProtoModules.Proofs.Settings.Described
import ProtoModules.Proofs.Settings.Legible
import ProtoModules.Proofs.Settings.Routes
import ProtoModules.Proofs.Settings.Reported
