import Swimlane.Classification.Classification
import Swimlane.Classification.Rule
import Swimlane.Classification.Token
import Swimlane.Command.Arguments
import Swimlane.Command.FilePath
import Swimlane.Command.FileTree
import Swimlane.Command.Plan
import Swimlane.ComponentType
import Swimlane.Decimal.Shortest
import Swimlane.Decimal.Style
import Swimlane.Diagram
import Swimlane.Document
import Swimlane.FlowStage
import Swimlane.Flowchart.Chain
import Swimlane.Flowchart.Draft
import Swimlane.Flowchart.Fault
import Swimlane.Flowchart.Graph
import Swimlane.Flowchart.Label
import Swimlane.Flowchart.Line
import Swimlane.Flowchart.Link
import Swimlane.Flowchart.Mask
import Swimlane.Flowchart.Nesting
import Swimlane.Flowchart.Outline
import Swimlane.Flowchart.Reading
import Swimlane.Flowchart.Statement
import Swimlane.Icon
import Swimlane.Json.Numeral
import Swimlane.Json.Relaxed
import Swimlane.Json.Sketch
import Swimlane.Json.Token
import Swimlane.Json.Value
import Swimlane.Json.Writer
import Swimlane.Layout.Badge
import Swimlane.Layout.Boundary
import Swimlane.Layout.Box
import Swimlane.Layout.Cell
import Swimlane.Layout.Crossing
import Swimlane.Layout.Drawing
import Swimlane.Layout.Figure
import Swimlane.Layout.Grid
import Swimlane.Layout.Label
import Swimlane.Layout.Order
import Swimlane.Layout.Placement
import Swimlane.Layout.Rank
import Swimlane.Length
import Swimlane.Main
import Swimlane.Markdown
import Swimlane.Proofs.Flowchart.Graph
import Swimlane.Proofs.Text.Fresh
import Swimlane.Settings.Basic
import Swimlane.Settings.Block
import Swimlane.Settings.Fault
import Swimlane.Settings.Reading
import Swimlane.Text.Basic
import Swimlane.Text.Blank
import Swimlane.Text.Fresh
import Swimlane.Text.Identifier
import Swimlane.Text.LetterDigit
import Swimlane.Text.LowerCase
import Swimlane.Text.Visible
import Swimlane.Text.Words
import Swimlane.Tidy
import Swimlane.Proofs.Flowchart.Steps
import Swimlane.Proofs.Flowchart.Consistent
import Swimlane.Proofs.Flowchart.Forest
import Swimlane.Proofs.Flowchart.Quoting
import Swimlane.Proofs.Flowchart.Label
import Swimlane.Proofs.Flowchart.Link
import Swimlane.Proofs.Flowchart.Statement
import Swimlane.Proofs.Flowchart.Entries
import Swimlane.Proofs.Flowchart.Outline
import Swimlane.Proofs.Layout.Placement
import Swimlane.Proofs.Layout.Grid
import Swimlane.Proofs.Layout.Drawing
import Swimlane.Proofs.Tidy
import Swimlane.Proofs.Diagram
import Swimlane.Proofs.Layout.Cell
import Swimlane.Proofs.Settings
import Swimlane.Proofs.Flowchart.Nesting
import Swimlane.Proofs.Layout.Apart
import Swimlane.Proofs.Passes
import Swimlane.Proofs.Tidy.Valid
import Swimlane.Proofs.Tidy.Fixed
import Swimlane.Proofs.Flowchart.Continued
import Swimlane.Proofs.Flowchart.Appending
import Swimlane.Proofs.Layout.Names
import Swimlane.Proofs.Diagram.Ends
import Swimlane.Proofs.Flowchart.FirstFault
import Swimlane.Proofs.Flowchart.Enclosing
import Swimlane.Proofs.Layout.Bounds
import Swimlane.Proofs.Layout.Boundary
import Swimlane.Proofs.Tidy.Growth
import Swimlane.Proofs.Diagram.Canvas
import Swimlane.Proofs.Diagram.Nesting
import Swimlane.Proofs.Flowchart.Walk
import Swimlane.Proofs.Flowchart.Visits
import Swimlane.Proofs.Layout.Slots
import Swimlane.Proofs.Layout.Trimmed
import Swimlane.Proofs.Layout.Warnings
import Swimlane.Proofs.Classification
import Swimlane.Proofs.Layout.Bands
import Swimlane.Proofs.Document
import Swimlane.Proofs.Diagram.Boundaries
import Swimlane.Proofs.Layout.Order
import Swimlane.Proofs.Layout.Circles
import Swimlane.Proofs.Flowchart.SharedNames
import Swimlane.Proofs.Layout.Badges
import Swimlane.Proofs.Layout.LongestPath
import Swimlane.Proofs.Layout.AlongFlow
import Swimlane.Proofs.Flowchart.Mask
import Swimlane.Proofs.Flowchart.Arrow
import Swimlane.Proofs.Flowchart.Written
import Swimlane.Proofs.Flowchart.Segment
import Swimlane.Proofs.Flowchart.Chain
import Swimlane.Proofs.Flowchart.Edges
import Swimlane.Proofs.Flowchart.Joining
import Swimlane.Proofs.Flowchart.Word
import Swimlane.Proofs.Flowchart.QuotedNode
import Swimlane.Proofs.Flowchart.Declaration
import Swimlane.Proofs.Flowchart.FanOut
import Swimlane.Proofs.Flowchart.Endpoints
import Swimlane.Proofs.Flowchart.EdgeLabels
import Swimlane.Proofs.Flowchart.SingleBar
import Swimlane.Proofs.Flowchart.BarredLine
import Swimlane.Proofs.Flowchart.BarredLink
import Swimlane.Proofs.Tidy.Retarget
import Swimlane.Proofs.Tidy.Union
import Swimlane.Proofs.Text.LowerCase
import Swimlane.Proofs.Text.Words
import Swimlane.Proofs.ComponentType
import Swimlane.Proofs.Flowchart.DashedLink
import Swimlane.Proofs.Layout.InnerEdges
import Swimlane.Proofs.Layout.Sweeps
import Swimlane.Proofs.Settings.Keys
import Swimlane.Proofs.Tidy.FirstOfName
import Swimlane.Proofs.Icon
import Swimlane.Proofs.Provider
import Swimlane.Proofs.Settings.Agreement
import Swimlane.Proofs.Layout.Wrapping
import Swimlane.Proofs.Markdown
import Swimlane.Proofs.Flowchart.LineNumbers
import Swimlane.Proofs.Flowchart.LineBreaks
import Swimlane.Text.Slice
import Swimlane.Flowchart.Sliced
import Swimlane.Proofs.Text.Slice
import Swimlane.Proofs.Flowchart.Cells
import Swimlane.Proofs.Flowchart.LinkParts
import Swimlane.Proofs.Flowchart.SlicedLabels
import Swimlane.Proofs.Flowchart.Sliced
import Swimlane.Proofs.Search
import Swimlane.Proofs.Text.Scan
import Swimlane.Proofs.IconKeys
