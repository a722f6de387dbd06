import ArchDiagram.Command.Arguments
import ArchDiagram.Command.Folder
import ArchDiagram.Command.Help
import ArchDiagram.Command.Host
import ArchDiagram.Command.Run
import ArchDiagram.ContainerKind
import ArchDiagram.Decimal.Basic
import ArchDiagram.Decimal.Fixed
import ArchDiagram.Decimal.Shortest
import ArchDiagram.Diagram.Basic
import ArchDiagram.Diagram.Edit
import ArchDiagram.Diagram.Encoding
import ArchDiagram.Diagram.LinkColor
import ArchDiagram.Diagram.Violation
import ArchDiagram.Draft
import ArchDiagram.Flow
import ArchDiagram.Generate
import ArchDiagram.Icon
import ArchDiagram.Json.Basic
import ArchDiagram.Json.Numeral
import ArchDiagram.Json.Printer
import ArchDiagram.Json.Reader
import ArchDiagram.Json.Token
import ArchDiagram.Layout.Choice
import ArchDiagram.Layout.Circle
import ArchDiagram.Layout.Frame
import ArchDiagram.Layout.Grid
import ArchDiagram.Layout.Plan
import ArchDiagram.Layout.Position
import ArchDiagram.Layout.Root
import ArchDiagram.Layout.Spread
import ArchDiagram.LogSettings
import ArchDiagram.Main
import ArchDiagram.Pattern
import ArchDiagram.Prompt.Analysis
import ArchDiagram.Prompt.Encoding
import ArchDiagram.Prompt.Entity
import ArchDiagram.Prompt.Grouping
import ArchDiagram.Prompt.Mention
import ArchDiagram.Prompt.Relationship
import ArchDiagram.Prompt.Score
import ArchDiagram.Prompt.Vocabulary
import ArchDiagram.Proofs.Composition
import ArchDiagram.Proofs.Decimal.Digits
import ArchDiagram.Proofs.Decimal.Integers
import ArchDiagram.Proofs.Decimal.Nearest
import ArchDiagram.Proofs.Decimal.Quotient
import ArchDiagram.Proofs.Diagram.ColorSpelling
import ArchDiagram.Proofs.Diagram.Consistency
import ArchDiagram.Proofs.Diagram.Edit
import ArchDiagram.Proofs.Diagram.Greedy
import ArchDiagram.Proofs.Diagram.Incidence
import ArchDiagram.Proofs.Diagram.JsonText
import ArchDiagram.Proofs.Diagram.LinkColor
import ArchDiagram.Proofs.Diagram.Repaint
import ArchDiagram.Proofs.Diagram.Violations
import ArchDiagram.Proofs.Draft
import ArchDiagram.Proofs.Exact
import ArchDiagram.Proofs.Generate
import ArchDiagram.Proofs.Layout.Apart
import ArchDiagram.Proofs.Layout.Cells
import ArchDiagram.Proofs.Layout.Extent
import ArchDiagram.Proofs.Layout.Framed
import ArchDiagram.Proofs.Layout.Fresh
import ArchDiagram.Proofs.Layout.Guarded
import ArchDiagram.Proofs.Layout.Guarded.Claims
import ArchDiagram.Proofs.Layout.Guarded.Position
import ArchDiagram.Proofs.Layout.Guarded.Rows
import ArchDiagram.Proofs.Layout.Guarded.Spread
import ArchDiagram.Proofs.Layout.Guarded.Steps
import ArchDiagram.Proofs.Layout.Origin
import ArchDiagram.Proofs.Layout.Pair
import ArchDiagram.Proofs.Layout.Push
import ArchDiagram.Proofs.Layout.Spread
import ArchDiagram.Proofs.Layout.Tight
import ArchDiagram.Proofs.Layout.Unmoved
import ArchDiagram.Proofs.Prompt.Analysis
import ArchDiagram.Proofs.Prompt.Best
import ArchDiagram.Proofs.Prompt.Candidates
import ArchDiagram.Proofs.Prompt.Collection
import ArchDiagram.Proofs.Prompt.Counts
import ArchDiagram.Proofs.Prompt.Entity
import ArchDiagram.Proofs.Prompt.Grouping
import ArchDiagram.Proofs.Prompt.LongestMatch
import ArchDiagram.Proofs.Prompt.Mention
import ArchDiagram.Proofs.Prompt.Relationship
import ArchDiagram.Proofs.Prompt.Score
import ArchDiagram.Proofs.Prompt.Settling
import ArchDiagram.Proofs.Redrawn
import ArchDiagram.Proofs.Saved
import ArchDiagram.Proofs.Session
import ArchDiagram.Proofs.Source.Blocks
import ArchDiagram.Proofs.Source.Concatenation
import ArchDiagram.Proofs.Source.Entries
import ArchDiagram.Proofs.Source.Faults
import ArchDiagram.Proofs.Source.FixedPoint
import ArchDiagram.Proofs.Source.Grammar
import ArchDiagram.Proofs.Source.Interleaving
import ArchDiagram.Proofs.Source.Language
import ArchDiagram.Proofs.Source.Leads
import ArchDiagram.Proofs.Source.LineFeeds
import ArchDiagram.Proofs.Source.Members
import ArchDiagram.Proofs.Source.Merge
import ArchDiagram.Proofs.Source.Nesting
import ArchDiagram.Proofs.Source.Plain
import ArchDiagram.Proofs.Source.Progress
import ArchDiagram.Proofs.Source.Quotes
import ArchDiagram.Proofs.Source.Reading
import ArchDiagram.Proofs.Source.Recovery
import ArchDiagram.Proofs.Source.Relayout
import ArchDiagram.Proofs.Source.RoundTrip
import ArchDiagram.Proofs.Source.Spelling
import ArchDiagram.Proofs.Source.Steps
import ArchDiagram.Proofs.Source.WellFormed
import ArchDiagram.Proofs.Text.Joined
import ArchDiagram.Proofs.Text.Naming
import ArchDiagram.Proofs.Text.Phrase
import ArchDiagram.Proofs.Text.Places
import ArchDiagram.Proofs.Text.Runs
import ArchDiagram.Proofs.Text.Slug
import ArchDiagram.Proofs.Text.Tokens
import ArchDiagram.Proofs.Text.Width
import ArchDiagram.Proofs.Text.Words
import ArchDiagram.Report
import ArchDiagram.Scalar
import ArchDiagram.Session
import ArchDiagram.Source.Compile
import ArchDiagram.Source.Fault
import ArchDiagram.Source.Grammar
import ArchDiagram.Source.Merge
import ArchDiagram.Source.Reason
import ArchDiagram.Source.Scan
import ArchDiagram.Source.Statement
import ArchDiagram.Source.Word
import ArchDiagram.Source.Writer
import ArchDiagram.Text.Alphanumeric
import ArchDiagram.Text.Blank
import ArchDiagram.Text.Case
import ArchDiagram.Text.CaseClass
import ArchDiagram.Text.Ligature
import ArchDiagram.Text.Naming
import ArchDiagram.Text.Phrase
import ArchDiagram.Text.Runs
import ArchDiagram.Text.Width
import ArchDiagram.Text.WidthClass
import ArchDiagram.Tier
