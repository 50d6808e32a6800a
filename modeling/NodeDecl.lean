import NodeDecl.Host.Session
import NodeDecl.Main
import NodeDecl.Proofs.Bindings
import NodeDecl.Proofs.Model.Verdict
import NodeDecl.Proofs.Schema.Sorting
import NodeDecl.Proofs.Model.Acceptance
import NodeDecl.Proofs.Host.Execution
import NodeDecl.Proofs.Schema.Loading
import NodeDecl.Proofs.Model.OrderIndependence
import NodeDecl.Proofs.Model.Union
import NodeDecl.Proofs.Json.Integers
import NodeDecl.Proofs.Json.Strings
import NodeDecl.Proofs.Json.ReadBack
import NodeDecl.Proofs.Json.Containers
import NodeDecl.Proofs.Json.Values
import NodeDecl.Proofs.Json.Reading
import NodeDecl.Proofs.Schema.DecidingKey
import NodeDecl.Proofs.Schema.Validators
import NodeDecl.Proofs.Schema.Documents
import NodeDecl.Proofs.Schema.RoundTrip
import NodeDecl.Proofs.Artifact.TypeNames
import NodeDecl.Proofs.Artifact.MethodNames
import NodeDecl.Proofs.Disk.Contents
import NodeDecl.Proofs.Host.Reading
import NodeDecl.Proofs.Artifact.Writing
import NodeDecl.Proofs.Command.Generate
import NodeDecl.Proofs.Disk.Files
import NodeDecl.Proofs.Artifact.Checking
import NodeDecl.Proofs.Text.Classes
import NodeDecl.Proofs.Artifact.Interface
import NodeDecl.Proofs.Artifact.Declarations
import NodeDecl.Proofs.Json.Strictness
import NodeDecl.Proofs.Json.Shapes
import NodeDecl.Proofs.Schema.Shapes
import NodeDecl.Proofs.Model.Fields
import NodeDecl.Proofs.Schema.Definitions
import NodeDecl.Proofs.Schema.Merging
import NodeDecl.Proofs.Json.Skipping
import NodeDecl.Proofs.Json.Numbers
import NodeDecl.Proofs.Json.Records
import NodeDecl.Proofs.Config.Settings
import NodeDecl.Proofs.Artifact.Signatures
import NodeDecl.Proofs.Artifact.Closure
import NodeDecl.Proofs.TypeExpr.Resolution
import NodeDecl.Proofs.Text.Cutting
import NodeDecl.Proofs.Model.Warnings
import NodeDecl.Proofs.Text.ScriptLiterals
import NodeDecl.Proofs.TypeExpr.Literals
import NodeDecl.Proofs.TypeExpr.Unions
import NodeDecl.Proofs.Model.Parameters
import NodeDecl.Proofs.Text.ScriptNames
import NodeDecl.Proofs.Text.ByteOrder
import NodeDecl.Proofs.Model.FieldOrder
import NodeDecl.Proofs.Artifact.Dispatch
import NodeDecl.Proofs.Artifact.Dependence
import NodeDecl.Proofs.Artifact.Overrides
import NodeDecl.Proofs.Artifact.Comparison
import NodeDecl.Proofs.Command.Effects
import NodeDecl.Proofs.Json.Extent
import NodeDecl.Proofs.Json.Skipped
import NodeDecl.Proofs.Json.Fronts
import NodeDecl.Proofs.Json.RecordFronts
import NodeDecl.Proofs.Json.Parts
import NodeDecl.Proofs.Json.Forms
import NodeDecl.Proofs.Json.Exchange
import NodeDecl.Proofs.Document.Fronts
import NodeDecl.Proofs.Document.Forms
import NodeDecl.Proofs.Command.Inputs
import NodeDecl.Proofs.Layout.Nesting
