import TypedClient.Document.Text
import TypedClient.Compile.Basic
import TypedClient.Compile.ConfigData
import TypedClient.Layout.Format
import TypedClient.Format.Prettier
import TypedClient.Yaml.Cursor
import TypedClient.Yaml.Fold
import TypedClient.Yaml.Token
import TypedClient.Yaml.Property
import TypedClient.Yaml.Scan
import TypedClient.Toml.Printer
import TypedClient.Toml.Quoted
import TypedClient.Toml.Reader
import TypedClient.Settings.Basic
import TypedClient.Settings.Data
import TypedClient.Settings.File
import TypedClient.Settings.Override
import TypedClient.Settings.Show
import TypedClient.Files.Access
import TypedClient.Settings.Store
import TypedClient.Diff.Compact
import TypedClient.Diff.Unified
import TypedClient.Files.Change
import TypedClient.Url.Address
import TypedClient.Url.Host
import TypedClient.Url.Web
import TypedClient.Command.Arguments
import TypedClient.Command.Environment
import TypedClient.Command.Generate
import TypedClient.Command.Mock
import TypedClient.Command.Run
import TypedClient.Main
import TypedClient.Proofs.Layout.Idempotence
import TypedClient.Proofs.Script.TemplateLiteral
import TypedClient.Proofs.Url.Evaluation
import TypedClient.Proofs.Naming.Alias
import TypedClient.Proofs.Naming.Capture
import TypedClient.Proofs.Script.TypeSyntax
import TypedClient.Proofs.Script.TypeReading
import TypedClient.Proofs.Script.TypeLexing
import TypedClient.Proofs.Types.Resolved
import TypedClient.Proofs.Types.ParseRender
import TypedClient.Proofs.Layout.Piece
import TypedClient.Proofs.Layout.Emitted
import TypedClient.Proofs.Layout.Value
import TypedClient.Proofs.Types.Scanned
import TypedClient.Proofs.Url.Scanned
import TypedClient.Proofs.Code.Expr
import TypedClient.Proofs.Code.Function
import TypedClient.Proofs.Declaration.Emit
import TypedClient.Proofs.Layout.Module
import TypedClient.Proofs.Types.Imports
import TypedClient.Proofs.Types.Names
import TypedClient.Proofs.Request.Imports
import TypedClient.Proofs.Request.Strategy
import TypedClient.Proofs.Request.Function
import TypedClient.Proofs.Module.Spans
import TypedClient.Proofs.Compile.Stages
import TypedClient.Proofs.Compile.Blocks
import TypedClient.Proofs.Naming.Repeat
import TypedClient.Proofs.Compile.Declared
import TypedClient.Proofs.Compile.Collisions
import TypedClient.Proofs.Compile.Layout
import TypedClient.Proofs.Compile.MockNames
import TypedClient.Proofs.Compile.ClosedWorld
import TypedClient.Proofs.Compile.TagSelection
import TypedClient.Proofs.Compile.DefinitionOrder
import TypedClient.Proofs.Text.Case
import TypedClient.Proofs.Naming.Initial
import TypedClient.Proofs.Compile.TopLevel
import TypedClient.Proofs.Mock.Walk
import TypedClient.Proofs.Schema.Reader
import TypedClient.Proofs.Naming.Reference
import TypedClient.Proofs.Compile.References
import TypedClient.Proofs.Mock.Typing
import TypedClient.Proofs.Declaration.CommentEnd
import TypedClient.Proofs.Compile.Comments
import TypedClient.Proofs.Request.Forwarding
import TypedClient.Proofs.Toml.Entries
import TypedClient.Proofs.Settings.Saving
import TypedClient.Proofs.Layout.WholeText
import TypedClient.Proofs.Command.Preparation
import TypedClient.Proofs.Command.Refusal
import TypedClient.Proofs.Toml.Quotation
import TypedClient.Proofs.Toml.Plain
import TypedClient.Proofs.Toml.Values
import TypedClient.Proofs.Settings.Plain
import TypedClient.Proofs.Files.Tree
import TypedClient.Proofs.Command.Writing
import TypedClient.Proofs.Toml.Refusal
import TypedClient.Proofs.Command.Output
import TypedClient.Proofs.Command.Keeping
import TypedClient.Proofs.Command.History
import TypedClient.Proofs.Types.Aliases
import TypedClient.Proofs.Types.Nonempty
import TypedClient.Proofs.Script.Reading
import TypedClient.Proofs.Document.Schemas
import TypedClient.Proofs.Request.Records
import TypedClient.Proofs.Request.Scope
import TypedClient.Proofs.Layout.TemplateSigns
import TypedClient.Proofs.Layout.TemplateText
import TypedClient.Proofs.Toml.Fragments
import TypedClient.Proofs.Toml.Comments
import TypedClient.Proofs.Toml.Building
import TypedClient.Proofs.Toml.Reading
import TypedClient.Proofs.Settings.Comments
import TypedClient.Proofs.Naming.Stable
import TypedClient.Proofs.Text.Letters
import TypedClient.Proofs.Naming.Marks
import TypedClient.Proofs.Naming.Words
import TypedClient.Proofs.Layout.Literal
import TypedClient.Proofs.Document.Merging
import TypedClient.Proofs.Url.NormalForm
import TypedClient.Proofs.Command.Applying
import TypedClient.Proofs.Mock.Files
import TypedClient.Proofs.Settings.Defaults
import TypedClient.Proofs.Types.BuiltIn
import TypedClient.Proofs.Compile.Captured
import TypedClient.Proofs.Module.Lines
import TypedClient.Proofs.Module.Origin
import TypedClient.Proofs.Format.Location
import TypedClient.Proofs.Script.Verbatim
import TypedClient.Proofs.Request.Specifier
import TypedClient.Proofs.Toml.Lines
import TypedClient.Proofs.Toml.Again
import TypedClient.Proofs.Toml.Readable
import TypedClient.Proofs.Toml.Flat
import TypedClient.Proofs.Settings.Flat
import TypedClient.Proofs.Command.Reset
