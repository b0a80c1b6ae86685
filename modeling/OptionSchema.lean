import OptionSchema.Codegen.Declaration
import OptionSchema.Codegen.Dependencies
import OptionSchema.Codegen.Emitter
import OptionSchema.Codegen.Generate
import OptionSchema.Codegen.Render
import OptionSchema.Comment.Block
import OptionSchema.Comment.Reflow
import OptionSchema.Config.Basic
import OptionSchema.Config.File
import OptionSchema.Config.Load
import OptionSchema.Config.Location
import OptionSchema.Config.Save
import OptionSchema.Decimal.Rounded
import OptionSchema.Decimal.Shortest
import OptionSchema.Dictionary
import OptionSchema.Evaluation.CancelToken
import OptionSchema.Evaluation.Command
import OptionSchema.Evaluation.Dump
import OptionSchema.Evaluation.Process
import OptionSchema.Evaluation.Request
import OptionSchema.FilePath
import OptionSchema.FileStore
import OptionSchema.Json.Embedded
import OptionSchema.Json.Escape
import OptionSchema.Json.Layout
import OptionSchema.Json.Number
import OptionSchema.Json.Read
import OptionSchema.Json.ReadError
import OptionSchema.Json.Scan
import OptionSchema.Json.Tree
import OptionSchema.Json.Value
import OptionSchema.Logging
import OptionSchema.Naming.Exported
import OptionSchema.Naming.Identifier
import OptionSchema.Pipeline.Files
import OptionSchema.Pipeline.Run
import OptionSchema.Proofs.Codegen.Claim
import OptionSchema.Proofs.Codegen.Collision
import OptionSchema.Proofs.Codegen.Dependencies
import OptionSchema.Proofs.Codegen.Emission
import OptionSchema.Proofs.Codegen.Identifier
import OptionSchema.Proofs.Codegen.Interchange
import OptionSchema.Proofs.Codegen.Listing
import OptionSchema.Proofs.Codegen.LookAlike
import OptionSchema.Proofs.Codegen.Names
import OptionSchema.Proofs.Codegen.Neat
import OptionSchema.Proofs.Codegen.Outline
import OptionSchema.Proofs.Codegen.PathComment
import OptionSchema.Proofs.Codegen.Places
import OptionSchema.Proofs.Codegen.Reference
import OptionSchema.Proofs.Codegen.Requirement
import OptionSchema.Proofs.Codegen.Shape
import OptionSchema.Proofs.Codegen.Site
import OptionSchema.Proofs.Codegen.SumType
import OptionSchema.Proofs.Codegen.Transparency
import OptionSchema.Proofs.Codegen.WireName
import OptionSchema.Proofs.Comment.Block
import OptionSchema.Proofs.Comment.Division
import OptionSchema.Proofs.Comment.Line
import OptionSchema.Proofs.Comment.Reflow
import OptionSchema.Proofs.Comment.Written
import OptionSchema.Proofs.Config.Overlay
import OptionSchema.Proofs.Config.RoundTrip
import OptionSchema.Proofs.Dictionary
import OptionSchema.Proofs.Evaluation.Arguments
import OptionSchema.Proofs.Evaluation.Cancellation
import OptionSchema.Proofs.Evaluation.Diagnostic
import OptionSchema.Proofs.Evaluation.Quoting
import OptionSchema.Proofs.Evaluation.Sequence
import OptionSchema.Proofs.Evaluation.TokenFamily
import OptionSchema.Proofs.FileStore
import OptionSchema.Proofs.Json.Accept
import OptionSchema.Proofs.Json.Address
import OptionSchema.Proofs.Json.Alike
import OptionSchema.Proofs.Json.Blank
import OptionSchema.Proofs.Json.Embedded
import OptionSchema.Proofs.Json.Escape
import OptionSchema.Proofs.Json.Layout
import OptionSchema.Proofs.Json.Numeral
import OptionSchema.Proofs.Json.Read
import OptionSchema.Proofs.Json.Scan
import OptionSchema.Proofs.Json.Token
import OptionSchema.Proofs.Json.Value
import OptionSchema.Proofs.Naming.Acronym
import OptionSchema.Proofs.Naming.Letters
import OptionSchema.Proofs.Naming.Rendering
import OptionSchema.Proofs.Naming.Spelling
import OptionSchema.Proofs.Naming.Words
import OptionSchema.Proofs.Pipeline.Cleaning
import OptionSchema.Proofs.Pipeline.Selection
import OptionSchema.Proofs.Schema.Node
import OptionSchema.Proofs.Schema.Order
import OptionSchema.Proofs.Schema.Ordered
import OptionSchema.Proofs.Schema.Path
import OptionSchema.Proofs.Text.ByteOrder
import OptionSchema.Proofs.Text.Piece
import OptionSchema.Proofs.Text.Words
import OptionSchema.Proofs.Toml.Document
import OptionSchema.Proofs.Toml.Quoted
import OptionSchema.Proofs.Toml.Table
import OptionSchema.Proofs.Toml.Value
import OptionSchema.Proofs.Wire.Address
import OptionSchema.Proofs.Wire.Alike
import OptionSchema.Proofs.Wire.Canonical
import OptionSchema.Proofs.Wire.Decode
import OptionSchema.Proofs.Wire.Doc
import OptionSchema.Proofs.Wire.Encode
import OptionSchema.Proofs.Wire.Fault
import OptionSchema.Proofs.Wire.Field
import OptionSchema.Proofs.Wire.Grammar
import OptionSchema.Proofs.Wire.IdleField
import OptionSchema.Proofs.Wire.Indented
import OptionSchema.Proofs.Wire.Portable
import OptionSchema.Proofs.Wire.Position
import OptionSchema.Proofs.Wire.Recode
import OptionSchema.Proofs.Wire.Replacement
import OptionSchema.Proofs.Wire.Reread
import OptionSchema.Proofs.Wire.Restore
import OptionSchema.Proofs.Wire.RoundTrip
import OptionSchema.Proofs.Wire.UnknownKind
import OptionSchema.Proofs.Wire.Vocabulary
import OptionSchema.Schema.Node
import OptionSchema.Schema.Order
import OptionSchema.Schema.Path
import OptionSchema.Schema.Tag
import OptionSchema.Shell.Arithmetic
import OptionSchema.Shell.Builtin
import OptionSchema.Shell.Command
import OptionSchema.Shell.Condition
import OptionSchema.Shell.Expansion
import OptionSchema.Shell.Field
import OptionSchema.Shell.Flow
import OptionSchema.Shell.Format
import OptionSchema.Shell.Isolation
import OptionSchema.Shell.Location
import OptionSchema.Shell.Numeric
import OptionSchema.Shell.Options
import OptionSchema.Shell.Pattern
import OptionSchema.Shell.Program
import OptionSchema.Shell.Redirect
import OptionSchema.Shell.Run
import OptionSchema.Shell.Script
import OptionSchema.Shell.System
import OptionSchema.Shell.Token
import OptionSchema.Shell.Tool
import OptionSchema.SystemError
import OptionSchema.Text.CaseMapping
import OptionSchema.Text.Digit
import OptionSchema.Text.Letter
import OptionSchema.Text.Piece
import OptionSchema.Text.Quoted
import OptionSchema.Text.Span
import OptionSchema.Text.Table.Alphabetic
import OptionSchema.Text.Table.Case
import OptionSchema.Text.Table.CaseMapping
import OptionSchema.Text.Table.Numeric
import OptionSchema.Text.Table.Printable
import OptionSchema.Text.Utf8
import OptionSchema.Toml.Document
import OptionSchema.Toml.Quoted
import OptionSchema.Toml.Scalar
import OptionSchema.Toml.Table
import OptionSchema.Toml.Value
import OptionSchema.Toml.Write
import OptionSchema.Version
import OptionSchema.Wire.Decode
import OptionSchema.Wire.Encode
import OptionSchema.Wire.Error
import OptionSchema.Wire.Field
