import CodeBehind.Banner
import CodeBehind.CommandLine.Arguments
import CodeBehind.CommandLine.Command
import CodeBehind.Config.Basic
import CodeBehind.Config.File
import CodeBehind.Decimal.Binary64
import CodeBehind.Decimal.Limit
import CodeBehind.Decimal.Shortest
import CodeBehind.Discovery
import CodeBehind.Document
import CodeBehind.Failure
import CodeBehind.FileSystem.Basic
import CodeBehind.FileSystem.Save
import CodeBehind.FileSystem.Tree
import CodeBehind.Generation
import CodeBehind.Identifier
import CodeBehind.Information
import CodeBehind.Json.Reader
import CodeBehind.Json.Writer
import CodeBehind.Layout
import CodeBehind.Log.Logger
import CodeBehind.Log.Record
import CodeBehind.Log.Setup
import CodeBehind.Path.Basic
import CodeBehind.Path.Tidy
import CodeBehind.Problem
import CodeBehind.Session
import CodeBehind.Syntax.Basic
import CodeBehind.Syntax.Imports
import CodeBehind.Syntax.Source
import CodeBehind.Syntax.Violation
import CodeBehind.Synthesis
import CodeBehind.Template.Check
import CodeBehind.Template.Eval
import CodeBehind.Template.Library
import CodeBehind.Template.Render
import CodeBehind.Template.Token
import CodeBehind.Template.Tree
import CodeBehind.Text.Blank
import CodeBehind.Text.Canonical
import CodeBehind.Text.CharacterName
import CodeBehind.Text.CharacterName.Alias
import CodeBehind.Text.CharacterName.Alphabets
import CodeBehind.Text.CharacterName.Block
import CodeBehind.Text.CharacterName.Pictures
import CodeBehind.Text.CharacterName.Scripts
import CodeBehind.Text.CharacterName.Signs
import CodeBehind.Text.CharacterName.Syllables
import CodeBehind.Text.Digit
import CodeBehind.Text.Indent
import CodeBehind.Text.Lines
import CodeBehind.Text.LowerCase
import CodeBehind.Text.NameChar
import CodeBehind.Text.Point
import CodeBehind.Text.Printable
import CodeBehind.Text.Quoted
import CodeBehind.Text.Utf8
import CodeBehind.Value.Basic
import CodeBehind.Value.Calendar
import CodeBehind.Value.Collection
import CodeBehind.Value.View
import CodeBehind.Yaml.Cursor
import CodeBehind.Yaml.Document
import CodeBehind.Yaml.Literal
import CodeBehind.Yaml.Merge
import CodeBehind.Yaml.Node
import CodeBehind.Yaml.Resolve
import CodeBehind.Yaml.Scalar
import CodeBehind.Yaml.Token
import CodeBehind.Yaml.Writer
import CodeBehind.Main
import CodeBehind.Proofs.Banner
import CodeBehind.Proofs.Events
import CodeBehind.Proofs.FileSystem.Alike
import CodeBehind.Proofs.FileSystem.Atomic
import CodeBehind.Proofs.FileSystem.Entries
import CodeBehind.Proofs.FileSystem.NullByte
import CodeBehind.Proofs.FileSystem.Scratch
import CodeBehind.Proofs.FileSystem.Steps
import CodeBehind.Proofs.FileSystem.Walk
import CodeBehind.Proofs.Generation.Batch
import CodeBehind.Proofs.Generation.Course
import CodeBehind.Proofs.Generation.Write
import CodeBehind.Proofs.Rendering
import CodeBehind.Proofs.Syntax.Body
import CodeBehind.Proofs.Syntax.Injective
import CodeBehind.Proofs.Syntax.Named
import CodeBehind.Proofs.Syntax.Opening
import CodeBehind.Proofs.Syntax.Reference
import CodeBehind.Proofs.Syntax.Renderable
import CodeBehind.Proofs.Syntax.Written
import CodeBehind.Proofs.Synthesis
import CodeBehind.Proofs.Synthesis.Guards
import CodeBehind.Proofs.Synthesis.Source
import CodeBehind.Proofs.Template.Banner
import CodeBehind.Proofs.Template.Scan
import CodeBehind.Proofs.Text.Canonical
import CodeBehind.Proofs.Text.Content
import CodeBehind.Proofs.Text.Lines
import CodeBehind.Proofs.Text.Pieces
import CodeBehind.Proofs.Text.Settle
import CodeBehind.Proofs.Text.Tidy
import CodeBehind.Proofs.Generation.Isolation
import CodeBehind.Proofs.FileSystem.Tidy
import CodeBehind.Proofs.Generation.Completion
import CodeBehind.Proofs.Discovery
import CodeBehind.Proofs.Session.Actions
import CodeBehind.Proofs.Session.Effects
import CodeBehind.Proofs.CommandLine.Settings
import CodeBehind.Proofs.Generation.Saved
import CodeBehind.Proofs.CommandLine.Course
import CodeBehind.Proofs.CommandLine.Report
import CodeBehind.Proofs.CommandLine.Printing
import CodeBehind.Proofs.CommandLine.Preview
import CodeBehind.Proofs.CommandLine.Codes
import CodeBehind.Proofs.CommandLine.Status
import CodeBehind.Proofs.Refusals
import CodeBehind.Proofs.Syntax.Rules
import CodeBehind.Proofs.Banner.Version
import CodeBehind.Proofs.FileSystem.Sources
import CodeBehind.Proofs.Discovery.Sources
import CodeBehind.Proofs.Generation.Again
import CodeBehind.Proofs.Config.Absent
import CodeBehind.Proofs.CommandLine.Again
import CodeBehind.Proofs.Text.LineEndings
import CodeBehind.Proofs.Text.Seams
import CodeBehind.Proofs.Text.Margins
import CodeBehind.Proofs.Path.Parts
import CodeBehind.Proofs.Document.Sibling
import CodeBehind.Proofs.Text.LowerCase
import CodeBehind.Proofs.Document.Extension
import CodeBehind.Proofs.Path.Tidy
import CodeBehind.Proofs.Document.Tidy
import CodeBehind.Proofs.FileSystem.WellFormed
import CodeBehind.Proofs.Discovery.Search
import CodeBehind.Proofs.Generation.Inputs
import CodeBehind.Proofs.Generation.Retry
import CodeBehind.Proofs.Discovery.Arguments
import CodeBehind.Proofs.Identifier
import CodeBehind.Proofs.Json.Strings
import CodeBehind.Proofs.Json.RoundTrip
import CodeBehind.Proofs.Text.Utf8
import CodeBehind.Proofs.FileSystem.InPlace
import CodeBehind.Proofs.Config.Saved
import CodeBehind.Proofs.Syntax.Imports
import CodeBehind.Proofs.Template.FinalFeed
import CodeBehind.Proofs.Template.Outline
import CodeBehind.Proofs.Template.Spacing
import CodeBehind.Proofs.Template.Filters
import CodeBehind.Proofs.Template.Validity
import CodeBehind.Proofs.Json.Grammar
import CodeBehind.Proofs.Json.Lexemes
import CodeBehind.Proofs.Json.Reading
import CodeBehind.Proofs.Config.Sections
import CodeBehind.Proofs.Json.Members
import CodeBehind.Proofs.Config.Fields
import CodeBehind.Proofs.Config.Malformed
import CodeBehind.Proofs.Text.FinalSigma
import CodeBehind.Proofs.Discovery.Recognition
import CodeBehind.Proofs.Config.Null
import CodeBehind.Proofs.Synthesis.Clash
import CodeBehind.Proofs.Layout
import CodeBehind.Proofs.Log.Handlers
import CodeBehind.Proofs.Log.Delivery
