import TreePath.Attributes
import TreePath.Calendar
import TreePath.Calendar.Pattern
import TreePath.Config.Basic
import TreePath.Config.Components
import TreePath.Config.Key
import TreePath.Config.Location
import TreePath.Decimal.Binary
import TreePath.Decimal.Fixed
import TreePath.Decimal.Notation
import TreePath.Decimal.Reading
import TreePath.Decimal.Shortest
import TreePath.Decimal.Whole
import TreePath.Entries
import TreePath.FileStore
import TreePath.Forest.Access
import TreePath.Forest.Basic
import TreePath.Forest.Edit
import TreePath.Forest.Outline
import TreePath.Forest.Tree
import TreePath.Forest.Walk
import TreePath.Journal.Formatter
import TreePath.Journal.LevelName
import TreePath.Journal.Logger
import TreePath.Journal.Notice
import TreePath.Journal.Record
import TreePath.Journal.Setup
import TreePath.Journal.Stopwatch
import TreePath.Journal.Template
import TreePath.Json.Reader
import TreePath.Json.Value
import TreePath.Json.Writer
import TreePath.Literal.Basic
import TreePath.Literal.Coercion
import TreePath.Literal.Directive
import TreePath.Literal.Error
import TreePath.Literal.Expression
import TreePath.Literal.Features
import TreePath.Literal.OfJson
import TreePath.Literal.Operations
import TreePath.Markup.Assembly
import TreePath.Markup.Builder
import TreePath.Markup.CharacterName
import TreePath.Markup.Encoded
import TreePath.Markup.Error
import TreePath.Markup.Html
import TreePath.Markup.HtmlToken
import TreePath.Markup.Nesting
import TreePath.Markup.Page.Basic
import TreePath.Markup.Page.Body
import TreePath.Markup.Page.Building
import TreePath.Markup.Page.Charset
import TreePath.Markup.Page.Foreign
import TreePath.Markup.Page.Formatting
import TreePath.Markup.Page.Frames
import TreePath.Markup.Page.Head
import TreePath.Markup.Page.Reader
import TreePath.Markup.Page.Select
import TreePath.Markup.Page.Table
import TreePath.Markup.Page.Token
import TreePath.Markup.Page.Vocabulary
import TreePath.Markup.Reference
import TreePath.Markup.Source
import TreePath.Markup.Xml
import TreePath.Markup.Xml.Basic
import TreePath.Markup.Xml.Charset
import TreePath.Markup.Xml.Doctype
import TreePath.Path
import TreePath.Proofs.Config.Cells
import TreePath.Proofs.Config.FailedSaving
import TreePath.Proofs.Config.Layering
import TreePath.Proofs.Config.Loading
import TreePath.Proofs.Config.Proper
import TreePath.Proofs.Config.Saving
import TreePath.Proofs.Entries
import TreePath.Proofs.FileStore.Opening
import TreePath.Proofs.FileStore.Parents
import TreePath.Proofs.Forest.Adopting
import TreePath.Proofs.Forest.Attaching
import TreePath.Proofs.Forest.Detaching
import TreePath.Proofs.Forest.Editing
import TreePath.Proofs.Forest.Growing
import TreePath.Proofs.Forest.Lineage
import TreePath.Proofs.Forest.Moving
import TreePath.Proofs.Forest.Outlining
import TreePath.Proofs.Forest.Reachable
import TreePath.Proofs.Forest.Refusing
import TreePath.Proofs.Forest.Row
import TreePath.Proofs.Forest.Undoing
import TreePath.Proofs.Forest.Unfolding
import TreePath.Proofs.Forest.Walking
import TreePath.Proofs.Journal.Arranging
import TreePath.Proofs.Journal.Failing
import TreePath.Proofs.Journal.Settling
import TreePath.Proofs.Json.Interrupted
import TreePath.Proofs.Json.Leaves
import TreePath.Proofs.Json.Nesting
import TreePath.Proofs.Json.Restoring
import TreePath.Proofs.Json.Written
import TreePath.Proofs.Literal.Changing
import TreePath.Proofs.Literal.Coercing
import TreePath.Proofs.Literal.Comparing
import TreePath.Proofs.Literal.Reading
import TreePath.Proofs.Markup.Assembling
import TreePath.Proofs.Markup.Blanks
import TreePath.Proofs.Markup.Depicting
import TreePath.Proofs.Markup.Detecting
import TreePath.Proofs.Markup.Texts
import TreePath.Proofs.Selection.Agreement
import TreePath.Proofs.Selection.Calling
import TreePath.Proofs.Selection.Chains
import TreePath.Proofs.Selection.Composing
import TreePath.Proofs.Selection.Course
import TreePath.Proofs.Selection.Deciding
import TreePath.Proofs.Selection.Elapsing
import TreePath.Proofs.Selection.Enriching
import TreePath.Proofs.Selection.Following
import TreePath.Proofs.Selection.History
import TreePath.Proofs.Selection.Interchange
import TreePath.Proofs.Selection.Narrowing
import TreePath.Proofs.Selection.Origin
import TreePath.Proofs.Selection.Plain
import TreePath.Proofs.Selection.Plan
import TreePath.Proofs.Selection.Reporting
import TreePath.Proofs.Selection.Selecting
import TreePath.Proofs.Selection.Session
import TreePath.Proofs.Selection.Skeleton
import TreePath.Proofs.Selection.Sorting
import TreePath.Proofs.Selection.Splicing
import TreePath.Proofs.Selection.Staging
import TreePath.Proofs.Selection.Steady
import TreePath.Proofs.Selection.Stopping
import TreePath.Proofs.Selection.Timing
import TreePath.Proofs.Selection.Tracing
import TreePath.Proofs.Selection.Ways
import TreePath.Proofs.Step.Equality
import TreePath.Proofs.Step.Grouping
import TreePath.Proofs.Step.Writing
import TreePath.Proofs.Text.Ascii
import TreePath.Proofs.Text.Quoting
import TreePath.Selection.Catalogue
import TreePath.Selection.Engine
import TreePath.Selection.Matching
import TreePath.Selection.Program
import TreePath.Selection.World
import TreePath.Step.Basic
import TreePath.Step.Text
import TreePath.Text.Blank
import TreePath.Text.CodePage
import TreePath.Text.CodePoint
import TreePath.Text.DoubleByte
import TreePath.Text.Encoding
import TreePath.Text.Escaped
import TreePath.Text.Grid.Basic
import TreePath.Text.Grid.Chinese
import TreePath.Text.Grid.HongKong
import TreePath.Text.Grid.Japanese
import TreePath.Text.Grid.JapaneseExtended
import TreePath.Text.Grid.Korean
import TreePath.Text.Grid.Traditional
import TreePath.Text.LowerCase
import TreePath.Text.Printable
import TreePath.Text.Quoted
import TreePath.Text.Shifting
import TreePath.Text.Split
import TreePath.Text.UpperCase
import TreePath.Text.Utf7
import TreePath.Text.Utf8
import TreePath.Text.Word
import TreePath.Timer
