import ApiCompiler.Auth
import ApiCompiler.Casing
import ApiCompiler.Command
import ApiCompiler.CommandLine
import ApiCompiler.Convert.Converter
import ApiCompiler.Convert.Emit
import ApiCompiler.Convert.Imports
import ApiCompiler.Convert.Templates
import ApiCompiler.Datatype
import ApiCompiler.Decimal.Double
import ApiCompiler.Decimal.Shortest
import ApiCompiler.Declaration
import ApiCompiler.Describe.Document
import ApiCompiler.Describe.Draft
import ApiCompiler.Describe.Module
import ApiCompiler.Describe.Service
import ApiCompiler.Describe.TypeRef
import ApiCompiler.Disk
import ApiCompiler.Endpoint
import ApiCompiler.Error
import ApiCompiler.ErrorCode
import ApiCompiler.Generation
import ApiCompiler.Json
import ApiCompiler.Main
import ApiCompiler.Module
import ApiCompiler.Module.Read
import ApiCompiler.OrderedMap
import ApiCompiler.Output.Directory
import ApiCompiler.Output.PathRule
import ApiCompiler.Output.Sink
import ApiCompiler.Path
import ApiCompiler.Project
import ApiCompiler.Project.Load
import ApiCompiler.Proofs.Casing
import ApiCompiler.Proofs.Convert.Agreement
import ApiCompiler.Proofs.Convert.Conversion
import ApiCompiler.Proofs.Convert.Faults
import ApiCompiler.Proofs.Convert.Footprint
import ApiCompiler.Proofs.Convert.Interpretation
import ApiCompiler.Proofs.Convert.Needs
import ApiCompiler.Proofs.Convert.OwnTypes
import ApiCompiler.Proofs.Convert.Recording
import ApiCompiler.Proofs.Convert.Substitution
import ApiCompiler.Proofs.Convert.Targets
import ApiCompiler.Proofs.Convert.Trackers
import ApiCompiler.Proofs.Datatype.Tree
import ApiCompiler.Proofs.Datatype.Grammar
import ApiCompiler.Proofs.Datatype.RoundTrip
import ApiCompiler.Proofs.Datatype.Scan
import ApiCompiler.Proofs.Describe.Build
import ApiCompiler.Proofs.Describe.Calls
import ApiCompiler.Proofs.Describe.Document
import ApiCompiler.Proofs.Describe.Faults
import ApiCompiler.Proofs.Describe.Footprint
import ApiCompiler.Proofs.Describe.Update
import ApiCompiler.Proofs.Disk.Changes
import ApiCompiler.Proofs.Endpoint.Kinds
import ApiCompiler.Proofs.Endpoint.Parameters
import ApiCompiler.Proofs.Fallible
import ApiCompiler.Proofs.Generation.Check
import ApiCompiler.Proofs.Generation.Paths
import ApiCompiler.Proofs.Go.Builder
import ApiCompiler.Proofs.Go.Cycle
import ApiCompiler.Proofs.Go.Dependencies
import ApiCompiler.Proofs.Go.Description
import ApiCompiler.Proofs.Go.Footprint
import ApiCompiler.Proofs.Go.Names
import ApiCompiler.Proofs.Go.Script
import ApiCompiler.Proofs.Json
import ApiCompiler.Proofs.Keyed
import ApiCompiler.Proofs.Module.Classes
import ApiCompiler.Proofs.Module.Valid
import ApiCompiler.Proofs.Module.Routes
import ApiCompiler.Proofs.OrderedMap.Changes
import ApiCompiler.Proofs.Output.Atomic
import ApiCompiler.Proofs.Output.Directory
import ApiCompiler.Proofs.Output.PathRule
import ApiCompiler.Proofs.Output.Refusals
import ApiCompiler.Proofs.Path.Clean
import ApiCompiler.Proofs.Project.Acceptance
import ApiCompiler.Proofs.Project.Extension
import ApiCompiler.Proofs.Project.Faults
import ApiCompiler.Proofs.Project.Safety
import ApiCompiler.Proofs.Python.Decorator
import ApiCompiler.Proofs.Python.Docstring
import ApiCompiler.Proofs.Python.DocstringWidth
import ApiCompiler.Proofs.Python.Footprint
import ApiCompiler.Proofs.Python.Literal
import ApiCompiler.Proofs.Python.Signature
import ApiCompiler.Proofs.Python.StringLiteral
import ApiCompiler.Proofs.Route.RoundTrip
import ApiCompiler.Proofs.Route.Reading
import ApiCompiler.Proofs.Target.Comments
import ApiCompiler.Proofs.Target.Options
import ApiCompiler.Proofs.Target.Precedence
import ApiCompiler.Proofs.Text
import ApiCompiler.Proofs.Text.Words
import ApiCompiler.Proofs.Text.Wrap
import ApiCompiler.Proofs.TypeScript.Footprint
import ApiCompiler.Proofs.TypeScript.PropertyName
import ApiCompiler.Proofs.TypeScript.StringLiteral
import ApiCompiler.Proofs.TypeScript.TypeGrammar
import ApiCompiler.Proofs.TypeScript.TypeText
import ApiCompiler.Proofs.Value
import ApiCompiler.Proofs.Writer.Strokes
import ApiCompiler.Proofs.Writer.Lines
import ApiCompiler.Proofs.Writer.Places
import ApiCompiler.Proofs.Writer.Sections
import ApiCompiler.Proofs.Writer.Transfer
import ApiCompiler.Proofs.Yaml.Faults
import ApiCompiler.Proofs.Yaml.Fit
import ApiCompiler.Proofs.Yaml.Record
import ApiCompiler.Route
import ApiCompiler.Target
import ApiCompiler.Target.Discovery
import ApiCompiler.Target.Go.BuildConstraint
import ApiCompiler.Target.Go.BuildLines
import ApiCompiler.Target.Go.Columns
import ApiCompiler.Target.Go.Dependency
import ApiCompiler.Target.Go.DocComment
import ApiCompiler.Target.Go.DocComment.Block
import ApiCompiler.Target.Go.DocComment.Prose
import ApiCompiler.Target.Go.DocComment.Reference
import ApiCompiler.Target.Go.Draw
import ApiCompiler.Target.Go.Format
import ApiCompiler.Target.Go.Generate
import ApiCompiler.Target.Go.Imports.Arrange
import ApiCompiler.Target.Go.Imports.Path
import ApiCompiler.Target.Go.Imports.Sort
import ApiCompiler.Target.Go.Ink
import ApiCompiler.Target.Go.Layout
import ApiCompiler.Target.Go.Layout.Blocks
import ApiCompiler.Target.Go.Layout.Declarations
import ApiCompiler.Target.Go.Layout.Expressions
import ApiCompiler.Target.Go.Layout.Fields
import ApiCompiler.Target.Go.Layout.Lists
import ApiCompiler.Target.Go.Layout.Statements
import ApiCompiler.Target.Go.Lines
import ApiCompiler.Target.Go.Name
import ApiCompiler.Target.Go.Press
import ApiCompiler.Target.Go.Press.BlockComment
import ApiCompiler.Target.Go.Press.Comments
import ApiCompiler.Target.Go.Source
import ApiCompiler.Target.Go.Token
import ApiCompiler.Target.Go.Token.Literal
import ApiCompiler.Target.Go.Token.Scan
import ApiCompiler.Target.Go.Tree
import ApiCompiler.Target.Go.Tree.Declarations
import ApiCompiler.Target.Go.Tree.Expressions
import ApiCompiler.Target.Go.Tree.OpenComposite
import ApiCompiler.Target.Go.Tree.Parse
import ApiCompiler.Target.Go.Tree.Statements
import ApiCompiler.Target.Go.Tree.Types
import ApiCompiler.Target.Go.Types
import ApiCompiler.Target.Options
import ApiCompiler.Target.Output
import ApiCompiler.Target.Python.Declaration
import ApiCompiler.Target.Python.Generate
import ApiCompiler.Target.Python.Literal
import ApiCompiler.Target.Python.Name
import ApiCompiler.Target.Python.Options
import ApiCompiler.Target.Python.Packaging
import ApiCompiler.Target.TypeScript.Generate
import ApiCompiler.Target.TypeScript.Name
import ApiCompiler.Target.TypeScript.Types
import ApiCompiler.Text.Base64
import ApiCompiler.Text.Blank
import ApiCompiler.Text.Case
import ApiCompiler.Text.Format
import ApiCompiler.Text.Format.Argument
import ApiCompiler.Text.Format.Directive
import ApiCompiler.Text.Letter
import ApiCompiler.Text.Numeral
import ApiCompiler.Text.Printable
import ApiCompiler.Text.Punctuation
import ApiCompiler.Text.Quoted
import ApiCompiler.Text.RawText
import ApiCompiler.Text.Span
import ApiCompiler.Text.Split
import ApiCompiler.Text.Utf8
import ApiCompiler.Text.Wrap
import ApiCompiler.Timestamp
import ApiCompiler.Value
import ApiCompiler.Watch
import ApiCompiler.Writer
import ApiCompiler.Writer.Desk
import ApiCompiler.Yaml.Cursor
import ApiCompiler.Yaml.Fit
import ApiCompiler.Yaml.Mapping
import ApiCompiler.Yaml.Node
import ApiCompiler.Yaml.Node.OfTokens
import ApiCompiler.Yaml.Record
import ApiCompiler.Yaml.Resolve
import ApiCompiler.Yaml.Token
import ApiCompiler.Yaml.Token.Property
import ApiCompiler.Yaml.Token.Scalar
import ApiCompiler.Yaml.Token.Scan
import ApiCompiler.Yaml.Untyped
