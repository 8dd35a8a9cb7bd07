import FieldTemplates.Assistant.Answer
import FieldTemplates.Assistant.Prompt
import FieldTemplates.Assistant.Settings
import FieldTemplates.Code.Buffer
import FieldTemplates.Code.Line
import FieldTemplates.Command.Arguments
import FieldTemplates.Command.Grammar
import FieldTemplates.Command.Invocation
import FieldTemplates.Command.Loading
import FieldTemplates.Command.Run
import FieldTemplates.Command.Screen
import FieldTemplates.Command.Transcript
import FieldTemplates.Data.Table
import FieldTemplates.Document.Assembly
import FieldTemplates.Document.Banner
import FieldTemplates.Document.Generation
import FieldTemplates.Document.Report
import FieldTemplates.Document.Request
import FieldTemplates.Document.Tidy
import FieldTemplates.Export
import FieldTemplates.Field.Basic
import FieldTemplates.Field.Decode
import FieldTemplates.Field.Encode
import FieldTemplates.Field.Kind
import FieldTemplates.Files.Path
import FieldTemplates.Files.Source
import FieldTemplates.Files.Tree
import FieldTemplates.Host.Cells
import FieldTemplates.Host.Cells.Table
import FieldTemplates.Host.Emoji
import FieldTemplates.Host.Emoji.Table
import FieldTemplates.Host.EnvFile
import FieldTemplates.Host.Handler
import FieldTemplates.Host.Handler.Expression
import FieldTemplates.Host.Handler.Fault
import FieldTemplates.Host.Handler.Node
import FieldTemplates.Host.Handler.Token
import FieldTemplates.Host.Markup
import FieldTemplates.Host.Screen
import FieldTemplates.Host.Style
import FieldTemplates.Host.Style.Colours
import FieldTemplates.Host.Wrap
import FieldTemplates.Json.Decode
import FieldTemplates.Json.Encode
import FieldTemplates.Key.Allocator
import FieldTemplates.Key.Assign
import FieldTemplates.Library.Basic
import FieldTemplates.Library.Load
import FieldTemplates.Log.Entry
import FieldTemplates.Log.Message
import FieldTemplates.Log.Setup
import FieldTemplates.Main
import FieldTemplates.Number.Binary64
import FieldTemplates.Number.Digits
import FieldTemplates.Number.Numeral
import FieldTemplates.Number.Places
import FieldTemplates.Number.Shortest
import FieldTemplates.Options.Basic
import FieldTemplates.Options.Load
import FieldTemplates.Php.Comment
import FieldTemplates.Php.Quoted
import FieldTemplates.Proofs.Assistant.Answer
import FieldTemplates.Proofs.Assistant.Fenced
import FieldTemplates.Proofs.Code.Block
import FieldTemplates.Proofs.Code.Deepen
import FieldTemplates.Proofs.Code.Levels
import FieldTemplates.Proofs.Code.Margin
import FieldTemplates.Proofs.Code.Remarks
import FieldTemplates.Proofs.Code.Setting
import FieldTemplates.Proofs.Code.Veiled
import FieldTemplates.Proofs.Command.Screen
import FieldTemplates.Proofs.Command.Validate
import FieldTemplates.Proofs.Data.Table
import FieldTemplates.Proofs.Document.Banners
import FieldTemplates.Proofs.Document.EveryGroup
import FieldTemplates.Proofs.Document.Gaps
import FieldTemplates.Proofs.Document.Generation
import FieldTemplates.Proofs.Document.Getters
import FieldTemplates.Proofs.Document.Headings
import FieldTemplates.Proofs.Document.Keys
import FieldTemplates.Proofs.Document.Names
import FieldTemplates.Proofs.Document.Nesting
import FieldTemplates.Proofs.Document.Outline
import FieldTemplates.Proofs.Document.Pages
import FieldTemplates.Proofs.Document.Passwords
import FieldTemplates.Proofs.Document.Rekeyed
import FieldTemplates.Proofs.Document.Report
import FieldTemplates.Proofs.Document.Steps
import FieldTemplates.Proofs.Document.Texts
import FieldTemplates.Proofs.Document.Tidy
import FieldTemplates.Proofs.Document.Tokens
import FieldTemplates.Proofs.Document.Unknown
import FieldTemplates.Proofs.Export
import FieldTemplates.Proofs.Export.Entries
import FieldTemplates.Proofs.Field.RoundTrip
import FieldTemplates.Proofs.Field.Tree
import FieldTemplates.Proofs.Field.Written
import FieldTemplates.Proofs.Json.Decode
import FieldTemplates.Proofs.Json.Encode
import FieldTemplates.Proofs.Key.Allocator
import FieldTemplates.Proofs.Key.Assign
import FieldTemplates.Proofs.Key.Form
import FieldTemplates.Proofs.Key.Mint
import FieldTemplates.Proofs.Key.Process
import FieldTemplates.Proofs.Key.Search
import FieldTemplates.Proofs.Library.Basic
import FieldTemplates.Proofs.Library.Load
import FieldTemplates.Proofs.Options.Layers
import FieldTemplates.Proofs.Options.Load
import FieldTemplates.Proofs.Options.Refusal
import FieldTemplates.Proofs.Php.Comment
import FieldTemplates.Proofs.Php.Fill
import FieldTemplates.Proofs.Php.Gist
import FieldTemplates.Proofs.Php.Layout
import FieldTemplates.Proofs.Php.Lexer
import FieldTemplates.Proofs.Php.Literal
import FieldTemplates.Proofs.Php.Nesting
import FieldTemplates.Proofs.Php.Neutral
import FieldTemplates.Proofs.Php.Outline
import FieldTemplates.Proofs.Php.Parts
import FieldTemplates.Proofs.Php.Stripped
import FieldTemplates.Proofs.Php.Unquoted
import FieldTemplates.Proofs.Php.View
import FieldTemplates.Proofs.Snippet.Alike
import FieldTemplates.Proofs.Snippet.Calls
import FieldTemplates.Proofs.Snippet.Catalog.Answers
import FieldTemplates.Proofs.Snippet.Catalog.History
import FieldTemplates.Proofs.Snippet.Catalog.Info
import FieldTemplates.Proofs.Snippet.Catalog.Register
import FieldTemplates.Proofs.Snippet.Catalog.Support
import FieldTemplates.Proofs.Snippet.Clones
import FieldTemplates.Proofs.Snippet.Depths
import FieldTemplates.Proofs.Snippet.Flush
import FieldTemplates.Proofs.Snippet.Headings
import FieldTemplates.Proofs.Snippet.Inside
import FieldTemplates.Proofs.Snippet.Kinds
import FieldTemplates.Proofs.Snippet.Levels
import FieldTemplates.Proofs.Snippet.Masked
import FieldTemplates.Proofs.Snippet.Nesting
import FieldTemplates.Proofs.Snippet.Outline
import FieldTemplates.Proofs.Snippet.Reading
import FieldTemplates.Proofs.Snippet.Rekeyed
import FieldTemplates.Proofs.Snippet.Replaced
import FieldTemplates.Proofs.Snippet.Row
import FieldTemplates.Proofs.Snippet.Rows
import FieldTemplates.Proofs.Snippet.Shown
import FieldTemplates.Proofs.Snippet.Signs
import FieldTemplates.Proofs.Snippet.Spots
import FieldTemplates.Proofs.Snippet.Standard
import FieldTemplates.Proofs.Snippet.Trace
import FieldTemplates.Proofs.Snippet.Types
import FieldTemplates.Proofs.Text.Dedent
import FieldTemplates.Proofs.Text.Fence
import FieldTemplates.Proofs.Text.HexDigits
import FieldTemplates.Proofs.Text.LowerCase
import FieldTemplates.Proofs.Text.Pattern
import FieldTemplates.Proofs.Text.Rows
import FieldTemplates.Proofs.Text.Settle
import FieldTemplates.Proofs.Text.Sorted
import FieldTemplates.Proofs.Text.Trim
import FieldTemplates.Proofs.Text.Utf8
import FieldTemplates.Proofs.Web.Fetch
import FieldTemplates.Snippet.Accessor
import FieldTemplates.Snippet.Catalog
import FieldTemplates.Snippet.Render
import FieldTemplates.Snippet.Renderer
import FieldTemplates.Snippet.Standard
import FieldTemplates.Snippet.Style
import FieldTemplates.Text.Blank
import FieldTemplates.Text.Dedent
import FieldTemplates.Text.Digit
import FieldTemplates.Text.Fence
import FieldTemplates.Text.Half
import FieldTemplates.Text.Lines
import FieldTemplates.Text.LowerCase
import FieldTemplates.Text.LowerCase.Table
import FieldTemplates.Text.Printable
import FieldTemplates.Text.Printable.Table
import FieldTemplates.Text.Quoted
import FieldTemplates.Text.Repeat
import FieldTemplates.Text.Utf8
import FieldTemplates.Value.Basic
import FieldTemplates.Value.Display
import FieldTemplates.Value.Pairs
import FieldTemplates.Web.Exchange
import FieldTemplates.Web.Fetch
import FieldTemplates.Web.Host
import FieldTemplates.Web.Url
