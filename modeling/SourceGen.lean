import SourceGen.Text.Word
import SourceGen.Text.Pieces
import SourceGen.Text.Identifier
import SourceGen.Decimal.Shortest
import SourceGen.Value.Merge
import SourceGen.Json.Printer
import SourceGen.Json.Reader
import SourceGen.Yaml.Reader
import SourceGen.Files.Tree
import SourceGen.Value.Decode
import SourceGen.Spec.Report
import SourceGen.Spec.Model
import SourceGen.Spec.Encode
import SourceGen.Spec.Decode
import SourceGen.Spec.Load
import SourceGen.Validation.Rules
import SourceGen.Template.Basic
import SourceGen.CodeTable
import SourceGen.ClassGraph
import SourceGen.Config.Reader
import SourceGen.Generation.Run
import SourceGen.Output.SourceFile
import SourceGen.Emit.Layout
import SourceGen.Emit.OpcodeText
import SourceGen.Emit.DtypeText
import SourceGen.Emit.Classes
import SourceGen.Emit.Interface
import SourceGen.Binding.Files
import SourceGen.Command.Arguments
import SourceGen.Output.Sink
import SourceGen.Pipeline.Basic
import SourceGen.Command.Perform
import SourceGen.Main
import SourceGen.Proofs.ClassGraph.Order
import SourceGen.Proofs.ClassGraph.DepthOrder
import SourceGen.Proofs.ClassGraph.Circles
import SourceGen.Proofs.OrderedMap
import SourceGen.Proofs.Template.Filling
import SourceGen.Proofs.Emit.Opcodes
import SourceGen.Proofs.Emit.Classes
import SourceGen.Proofs.Emit.Dtypes
import SourceGen.Proofs.Emit.Interface
import SourceGen.Proofs.Binding.Failures
import SourceGen.Proofs.Pipeline.Failures
import SourceGen.Proofs.Validation.Acceptance
import SourceGen.Proofs.Pipeline.Validated
import SourceGen.Proofs.Spec.Acceptance
import SourceGen.Proofs.Spec.Reading
import SourceGen.Proofs.Spec.RoundTrip
import SourceGen.Proofs.Spec.Agreement
import SourceGen.Proofs.Spec.PlainDocuments
import SourceGen.Proofs.Validation.ScalarType
import SourceGen.Proofs.Validation.Validity
import SourceGen.Proofs.Template.Reading
import SourceGen.Proofs.Pipeline.OwnFiles
import SourceGen.Proofs.Pipeline.Order
import SourceGen.Proofs.Value.RawDocuments
import SourceGen.Proofs.Value.MergeLaws
import SourceGen.Proofs.CodeTable
import SourceGen.Proofs.Spec.StableCodes
import SourceGen.Proofs.Binding.Collected
import SourceGen.Proofs.Binding.DistinctVariables
import SourceGen.Proofs.Binding.ModulePaths
import SourceGen.Proofs.Binding.Receivers
import SourceGen.Proofs.Binding.GivenNames
import SourceGen.Proofs.Binding.Coverage
import SourceGen.Proofs.Emit.Tables
import SourceGen.Proofs.Emit.Structs
import SourceGen.Proofs.Emit.InterfacePlacement
import SourceGen.Proofs.Emit.Items
import SourceGen.Proofs.Pipeline.Overrides
import SourceGen.Proofs.Pipeline.Threading
import SourceGen.Proofs.Files.Contents
import SourceGen.Proofs.Files.Lookup
import SourceGen.Proofs.Output.Emission
import SourceGen.Proofs.Command.Traces
import SourceGen.Proofs.Output.Recording
import SourceGen.Proofs.Pipeline.References
import SourceGen.Proofs.Command.Listing
import SourceGen.Proofs.Emit.SharedNames
import SourceGen.Proofs.Text.PhysicalLines
import SourceGen.Proofs.Emit.Macros
import SourceGen.Proofs.Emit.ParameterLists
import SourceGen.Proofs.Emit.DistinctParameters
import SourceGen.Proofs.Template.Acceptance
import SourceGen.Proofs.Template.CallOrder
import SourceGen.Proofs.Emit.Specializations
import SourceGen.Proofs.Binding.Operators
import SourceGen.Proofs.Binding.Forwarding
import SourceGen.Proofs.Emit.DocComments
import SourceGen.Proofs.Binding.DocStrings
import SourceGen.Proofs.Emit.TemplateDefaults
import SourceGen.Proofs.Emit.InitLists
import SourceGen.Proofs.Binding.TemplateAliases
import SourceGen.Proofs.Spec.Parameters
import SourceGen.Proofs.Output.IncludePath
import SourceGen.Proofs.Spec.SpecFiles
import SourceGen.Proofs.Command.Verdicts
