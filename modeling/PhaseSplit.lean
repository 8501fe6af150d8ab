import PhaseSplit.Chart.Figure
import PhaseSplit.Chart.Histogram
import PhaseSplit.Chart.Samples
import PhaseSplit.Chart.Session
import PhaseSplit.Chart.Timeline
import PhaseSplit.Command.Help
import PhaseSplit.Command.Layout
import PhaseSplit.Command.Line
import PhaseSplit.Command.Options
import PhaseSplit.Command.Run
import PhaseSplit.Command.Wrap
import PhaseSplit.Csv.Column
import PhaseSplit.Csv.Numeral
import PhaseSplit.Csv.Reader
import PhaseSplit.Csv.Writer
import PhaseSplit.Files.Archive
import PhaseSplit.Files.Glob
import PhaseSplit.Files.NamePattern
import PhaseSplit.Files.Path
import PhaseSplit.Files.Resource
import PhaseSplit.Files.Tree
import PhaseSplit.Host
import PhaseSplit.Json.Literal
import PhaseSplit.Json.Reader
import PhaseSplit.Json.Value
import PhaseSplit.Json.Writer
import PhaseSplit.Log
import PhaseSplit.Main
import PhaseSplit.Number.Binary64
import PhaseSplit.Number.Decimal
import PhaseSplit.Number.Layout
import PhaseSplit.Number.Quantity
import PhaseSplit.Phase.Basic
import PhaseSplit.Phase.Epoch
import PhaseSplit.Phase.Router
import PhaseSplit.Phase.TimeUnit
import PhaseSplit.Proofs.Phase.Assignment
import PhaseSplit.Proofs.Split.Readings
import PhaseSplit.Report.Column
import PhaseSplit.Report.Files
import PhaseSplit.Report.Session
import PhaseSplit.Report.SummaryName
import PhaseSplit.Report.Table
import PhaseSplit.Sample.Basic
import PhaseSplit.Sample.Columns
import PhaseSplit.Sample.Field
import PhaseSplit.Session
import PhaseSplit.Settings
import PhaseSplit.Split.Config
import PhaseSplit.Split.File
import PhaseSplit.Split.OutputPaths
import PhaseSplit.Split.Sheets
import PhaseSplit.Split.Stream
import PhaseSplit.Stats.Accumulator
import PhaseSplit.Stats.Percentile
import PhaseSplit.Stats.PhaseStats
import PhaseSplit.Stats.Rate
import PhaseSplit.Stats.Summary
import PhaseSplit.Text.Alphanumeric
import PhaseSplit.Text.Blank
import PhaseSplit.Text.DecimalDigit
import PhaseSplit.Text.Glyph
import PhaseSplit.Text.Integer
import PhaseSplit.Text.Lines
import PhaseSplit.Text.Lowercase
import PhaseSplit.Text.Printable
import PhaseSplit.Text.Quoted
import PhaseSplit.Text.Ranges
import PhaseSplit.Text.Template
import PhaseSplit.Text.Utf8
import PhaseSplit.Proofs.Split.Bookkeeping
import PhaseSplit.Proofs.Split.Partition
import PhaseSplit.Proofs.Split.Routing
import PhaseSplit.Proofs.Text.Lines
import PhaseSplit.Proofs.Text.Utf8
import PhaseSplit.Proofs.Session
import PhaseSplit.Proofs.Files.Path
import PhaseSplit.Proofs.Files.Tree
import PhaseSplit.Proofs.Split.OutputPaths
import PhaseSplit.Proofs.Split.File
import PhaseSplit.Proofs.Split.Rereading
import PhaseSplit.Proofs.Split.Bytes
import PhaseSplit.Proofs.Split.InputKept
import PhaseSplit.Proofs.Number.Magnitude
import PhaseSplit.Proofs.Stats.Summary
import PhaseSplit.Proofs.Split.Completion
import PhaseSplit.Proofs.Split.NoRevision
import PhaseSplit.Proofs.Split.FileCompletion
import PhaseSplit.Proofs.Split.WarmupAgain
import PhaseSplit.Proofs.Split.Rejected
import PhaseSplit.Proofs.Stats.SummaryText
import PhaseSplit.Proofs.Files.Writes
import PhaseSplit.Proofs.Split.Writes
import PhaseSplit.Proofs.Split.Frame
import PhaseSplit.Proofs.Sample.Fields
import PhaseSplit.Proofs.Split.Skipping
import PhaseSplit.Proofs.Files.Faults
import PhaseSplit.Proofs.Text.Integer
import PhaseSplit.Proofs.Command.Arguments
import PhaseSplit.Proofs.Split.Faults
import PhaseSplit.Proofs.Report.Faults
import PhaseSplit.Proofs.Chart.Faults
import PhaseSplit.Proofs.Command.Ending
import PhaseSplit.Proofs.Split.Again
import PhaseSplit.Proofs.Files.Alike
import PhaseSplit.Proofs.Split.LineEnds
import PhaseSplit.Proofs.Csv.Tables
import PhaseSplit.Proofs.Chart.Samples
import PhaseSplit.Proofs.Number.Rounding
import PhaseSplit.Proofs.Number.Shortest
import PhaseSplit.Proofs.Json.Numbers
import PhaseSplit.Proofs.Json.Objects
import PhaseSplit.Proofs.Stats.Entries
import PhaseSplit.Proofs.Report.Rows
import PhaseSplit.Proofs.Report.SplitTable
import PhaseSplit.Proofs.Text.Lowercase
import PhaseSplit.Proofs.Text.Numeral
import PhaseSplit.Proofs.Sample.Columns
import PhaseSplit.Proofs.Sample.Grammar
import PhaseSplit.Proofs.Number.Text
import PhaseSplit.Proofs.Number.Equality
import PhaseSplit.Proofs.Stats.Percentile
import PhaseSplit.Proofs.Stats.Aggregate
import PhaseSplit.Proofs.Split.Ledgers
import PhaseSplit.Proofs.Split.Collisions
import PhaseSplit.Proofs.Command.Choices
import PhaseSplit.Proofs.Stats.Finalization
import PhaseSplit.Proofs.Files.Glob
import PhaseSplit.Proofs.Report.Files
import PhaseSplit.Proofs.Report.SummaryName
import PhaseSplit.Proofs.Split.Progress
import PhaseSplit.Proofs.Report.SortedTable
import PhaseSplit.Proofs.Text.Pieces
import PhaseSplit.Proofs.Split.Records
import PhaseSplit.Proofs.Number.Significant
import PhaseSplit.Proofs.Stats.PercentileNames
