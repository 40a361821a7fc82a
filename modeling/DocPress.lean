import DocPress.Backend.Basic
import DocPress.Backend.Capability
import DocPress.Backend.Error
import DocPress.Backend.Program
import DocPress.Backend.Renderer
import DocPress.CommandLine.Arguments
import DocPress.CommandLine.Run
import DocPress.CommandLine.Surroundings
import DocPress.Conversion.Config
import DocPress.Conversion.Failure
import DocPress.Conversion.Files
import DocPress.Conversion.Format
import DocPress.Conversion.Report
import DocPress.Conversion.Run
import DocPress.Document.Body
import DocPress.Document.Contents
import DocPress.Document.Heading
import DocPress.Document.Slug
import DocPress.FileSystem.Basic
import DocPress.FileSystem.Error
import DocPress.FileSystem.Path
import DocPress.FileSystem.Temporary
import DocPress.FileSystem.Update
import DocPress.Json.Format
import DocPress.Json.Read
import DocPress.Json.Scan
import DocPress.Json.Value
import DocPress.Main
import DocPress.Markdown.Block.Leaf
import DocPress.Markdown.Block.Reader
import DocPress.Markdown.Cursor
import DocPress.Markdown.Event
import DocPress.Markdown.Html
import DocPress.Markdown.Inline.Emphasis
import DocPress.Markdown.Inline.Reader
import DocPress.Markdown.Inline.Span
import DocPress.Markdown.Line
import DocPress.Markdown.RawHtml
import DocPress.Markdown.Reader
import DocPress.Markdown.Reference
import DocPress.Markdown.Table
import DocPress.Markdown.Tree
import DocPress.Markdown.Unescape
import DocPress.Page.Layout
import DocPress.Page.Template
import DocPress.Program.Basic
import DocPress.Shell.Arithmetic
import DocPress.Shell.Binary
import DocPress.Shell.Builtin
import DocPress.Shell.Command
import DocPress.Shell.Condition
import DocPress.Shell.Glob
import DocPress.Shell.Parser
import DocPress.Shell.Run
import DocPress.Shell.Session
import DocPress.Shell.Source
import DocPress.Text.AsciiFold
import DocPress.Text.Blank
import DocPress.Text.CaseFold
import DocPress.Text.CodeRange
import DocPress.Text.Escape
import DocPress.Text.Lowercase
import DocPress.Text.NamedReference
import DocPress.Text.Printable
import DocPress.Text.Punctuation
import DocPress.Text.Utf8
import DocPress.Tool.Locate
import DocPress.Proofs.Backend.Excerpt
import DocPress.Proofs.Backend.Footprint
import DocPress.Proofs.Backend.Guidance
import DocPress.Proofs.Backend.Starting
import DocPress.Proofs.CommandLine.DefaultOutput
import DocPress.Proofs.CommandLine.Outcome
import DocPress.Proofs.Conversion.Bench
import DocPress.Proofs.Conversion.Chain
import DocPress.Proofs.Conversion.Course
import DocPress.Proofs.Conversion.Documents
import DocPress.Proofs.Conversion.Escaping
import DocPress.Proofs.Conversion.Events
import DocPress.Proofs.Conversion.Fallback
import DocPress.Proofs.Conversion.Format
import DocPress.Proofs.Conversion.Frame
import DocPress.Proofs.Conversion.Order
import DocPress.Proofs.Conversion.Overwrite
import DocPress.Proofs.Conversion.Prepared
import DocPress.Proofs.Conversion.Protocol
import DocPress.Proofs.Conversion.RoundTrip
import DocPress.Proofs.Conversion.Script
import DocPress.Proofs.Conversion.Settings
import DocPress.Proofs.Conversion.Source
import DocPress.Proofs.Conversion.Staging
import DocPress.Proofs.Conversion.Success
import DocPress.Proofs.Conversion.Telling
import DocPress.Proofs.Document.Anchors
import DocPress.Proofs.Document.Contents
import DocPress.Proofs.Document.Counted
import DocPress.Proofs.Document.Depths
import DocPress.Proofs.Document.Entries
import DocPress.Proofs.Document.Forest
import DocPress.Proofs.Document.Heading
import DocPress.Proofs.Document.Listing
import DocPress.Proofs.Document.Markers
import DocPress.Proofs.Document.Markup
import DocPress.Proofs.Document.Outline
import DocPress.Proofs.Document.Placing
import DocPress.Proofs.Document.Search
import DocPress.Proofs.Document.Slug
import DocPress.Proofs.Document.SlugForm
import DocPress.Proofs.FileSystem.Directories
import DocPress.Proofs.FileSystem.Ending
import DocPress.Proofs.FileSystem.Entries
import DocPress.Proofs.FileSystem.Extension
import DocPress.Proofs.FileSystem.Names
import DocPress.Proofs.FileSystem.Parents
import DocPress.Proofs.FileSystem.Segments
import DocPress.Proofs.FileSystem.Temporary
import DocPress.Proofs.FileSystem.Updates
import DocPress.Proofs.FileSystem.Way
import DocPress.Proofs.Json.Range
import DocPress.Proofs.Json.Reads
import DocPress.Proofs.Json.Scan
import DocPress.Proofs.Json.Written
import DocPress.Proofs.Page.Geometry
import DocPress.Proofs.Page.Length
import DocPress.Proofs.Page.Margins
import DocPress.Proofs.Page.Title
import DocPress.Proofs.Program.Resolution
import DocPress.Proofs.Text.Counter
import DocPress.Proofs.Text.Entities
import DocPress.Proofs.Text.Escape
import DocPress.Proofs.Tool.Search
