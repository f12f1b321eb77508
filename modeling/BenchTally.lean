import BenchTally.Analysis.Event
import BenchTally.Analysis.Intake
import BenchTally.Analysis.Listing
import BenchTally.Analysis.OptionsFile
import BenchTally.Analysis.Report
import BenchTally.Analysis.Settings
import BenchTally.Command.Ending
import BenchTally.Command.Invocation
import BenchTally.Command.Word
import BenchTally.Decimal.Binary
import BenchTally.Decimal.Layout
import BenchTally.Decimal.Natural
import BenchTally.Decimal.Reader
import BenchTally.Decimal.Shortest
import BenchTally.Files.Path
import BenchTally.Files.Tree
import BenchTally.Glob.Pattern
import BenchTally.Glob.Regex
import BenchTally.Main
import BenchTally.Output.Sheet
import BenchTally.Output.SummarySheets
import BenchTally.Output.TimelineSheets
import BenchTally.Proofs.Analysis.Accounting
import BenchTally.Proofs.Analysis.Collected
import BenchTally.Proofs.Analysis.Contributions
import BenchTally.Proofs.Analysis.Failures
import BenchTally.Proofs.Analysis.Independence
import BenchTally.Proofs.Analysis.Listed
import BenchTally.Proofs.Analysis.Measures
import BenchTally.Proofs.Analysis.RawNames
import BenchTally.Proofs.Analysis.Reading
import BenchTally.Proofs.Analysis.Rejections
import BenchTally.Proofs.Analysis.Relisting
import BenchTally.Proofs.Analysis.Reruns
import BenchTally.Proofs.Analysis.Stages
import BenchTally.Proofs.Analysis.Strictness
import BenchTally.Proofs.Analysis.Tables
import BenchTally.Proofs.Analysis.Throughput
import BenchTally.Proofs.Analysis.Timeline
import BenchTally.Proofs.Decimal.Digits
import BenchTally.Proofs.Decimal.Places
import BenchTally.Proofs.Decimal.Thousands
import BenchTally.Proofs.Double.Arithmetic
import BenchTally.Proofs.Double.Bits
import BenchTally.Proofs.Double.Packing
import BenchTally.Proofs.Double.Results
import BenchTally.Proofs.Double.Rounding
import BenchTally.Proofs.Double.Value
import BenchTally.Proofs.Double.Whole
import BenchTally.Proofs.Files.Below
import BenchTally.Proofs.Files.Change
import BenchTally.Proofs.Files.Contents
import BenchTally.Proofs.Files.Earlier
import BenchTally.Proofs.Files.Path
import BenchTally.Proofs.Files.Plain
import BenchTally.Proofs.Files.Walk
import BenchTally.Proofs.Glob.Rows
import BenchTally.Proofs.Output.ChartGroups
import BenchTally.Proofs.Output.ChartLines
import BenchTally.Proofs.Output.Charts
import BenchTally.Proofs.Output.Directories
import BenchTally.Proofs.Output.Failure
import BenchTally.Proofs.Output.FullSheets
import BenchTally.Proofs.Output.Growth
import BenchTally.Proofs.Output.ReadBack
import BenchTally.Proofs.Output.RowOrder
import BenchTally.Proofs.Output.SummaryTables
import BenchTally.Proofs.Output.Writing
import BenchTally.Proofs.Output.WrittenFiles
import BenchTally.Proofs.Result.Columns
import BenchTally.Proofs.Result.Conservation
import BenchTally.Proofs.Result.Layouts
import BenchTally.Proofs.Result.Rates
import BenchTally.Proofs.Result.Readings
import BenchTally.Proofs.Result.Regrouping
import BenchTally.Proofs.Result.TickOrder
import BenchTally.Proofs.Result.Ticks
import BenchTally.Proofs.Result.Totals
import BenchTally.Proofs.Run.Labels
import BenchTally.Proofs.Run.RoundTrip
import BenchTally.Proofs.Run.Spelling
import BenchTally.Proofs.Run.TableNames
import BenchTally.Proofs.Run.Verdicts
import BenchTally.Proofs.Stats.Buckets
import BenchTally.Proofs.Stats.Exact
import BenchTally.Proofs.Stats.Extremes
import BenchTally.Proofs.Stats.Filled
import BenchTally.Proofs.Stats.Grouping
import BenchTally.Proofs.Stats.PerKey
import BenchTally.Proofs.Stats.Tallies
import BenchTally.Proofs.Table.RoundTrip
import BenchTally.Proofs.Text.Ascii
import BenchTally.Proofs.Text.Blank
import BenchTally.Proofs.Text.Cut
import BenchTally.Proofs.Text.Lines
import BenchTally.Proofs.Text.Pieces
import BenchTally.Proofs.Text.Runs
import BenchTally.Proofs.Text.Separator
import BenchTally.Proofs.Text.Utf8
import BenchTally.Proofs.Verdict
import BenchTally.Result.Bucket
import BenchTally.Result.Error
import BenchTally.Result.Grouped
import BenchTally.Result.Summary
import BenchTally.Result.Timeline
import BenchTally.Run.Key
import BenchTally.Run.Name
import BenchTally.Stats.Keyed
import BenchTally.Stats.Mean
import BenchTally.Stats.Quantity
import BenchTally.Stats.SummaryTally
import BenchTally.Stats.TimelineTally
import BenchTally.Table.Reader
import BenchTally.Table.Writer
import BenchTally.Text.Blank
import BenchTally.Text.Hidden
import BenchTally.Text.Quoted
import BenchTally.Text.Split
import BenchTally.Text.Utf8
import BenchTally.Yaml.Anchors
import BenchTally.Yaml.Block
import BenchTally.Yaml.Directive
import BenchTally.Yaml.Document
import BenchTally.Yaml.Flow
import BenchTally.Yaml.Node
import BenchTally.Yaml.Property
import BenchTally.Yaml.Source
