import TaskQuery.Calendar.DateTime
import TaskQuery.Calendar.Date
import TaskQuery.Calendar.IsoReader
import TaskQuery.CommandLine.Arguments
import TaskQuery.CommandLine.Run
import TaskQuery.Files.Host
import TaskQuery.Files.Tree
import TaskQuery.Json.Document
import TaskQuery.Json.Reader
import TaskQuery.Log
import TaskQuery.Main
import TaskQuery.Match
import TaskQuery.Number.Binary64
import TaskQuery.Number.Numeral
import TaskQuery.Number.Shortest
import TaskQuery.Query.Basic
import TaskQuery.Query.Parser
import TaskQuery.Query.Token
import TaskQuery.Report
import TaskQuery.Search.Command
import TaskQuery.Search.Service
import TaskQuery.Settings.Reader
import TaskQuery.Settings.Loader
import TaskQuery.Snapshot.Reader
import TaskQuery.Snapshot.Loader
import TaskQuery.Task
import TaskQuery.Text.Basic
import TaskQuery.Text.Case
import TaskQuery.Text.CaseTable
import TaskQuery.Text.Quoted
import TaskQuery.Value.Basic
import TaskQuery.Value.Text
import TaskQuery.Yaml.Reader
import TaskQuery.Yaml.Flow
import TaskQuery.Yaml.Node
import TaskQuery.Yaml.Plain
import TaskQuery.Proofs.Query.Tokens
import TaskQuery.Proofs.Query.Keyword
import TaskQuery.Proofs.Query.Grammar
import TaskQuery.Proofs.Query.Reading
import TaskQuery.Proofs.Outcome
import TaskQuery.Proofs.Calendar.DayNumber
import TaskQuery.Proofs.Calendar.Frame
import TaskQuery.Proofs.Calendar.IsoRoundTrip
import TaskQuery.Proofs.Match.Failure
import TaskQuery.Proofs.Match.Fold
import TaskQuery.Proofs.Match.Combination
import TaskQuery.Proofs.Query.Composition
import TaskQuery.Proofs.Query.FilterWord
import TaskQuery.Proofs.Query.Writable
import TaskQuery.Proofs.Number.Padded
import TaskQuery.Proofs.Query.Extension
import TaskQuery.Proofs.Search.Algebra
import TaskQuery.Proofs.Search.Memory
import TaskQuery.Proofs.Snapshot.RoundTrip
import TaskQuery.Proofs.Text.Recased
import TaskQuery.Proofs.Query.Recased
import TaskQuery.Proofs.Match.Recased
import TaskQuery.Proofs.Calendar.DayOrder
import TaskQuery.Proofs.Match.DueDate
import TaskQuery.Proofs.Search.Limit
import TaskQuery.Proofs.Search.Batches
import TaskQuery.Proofs.Calendar.DayText
import TaskQuery.Proofs.Match.RelativeDay
import TaskQuery.Proofs.Value.Entries
import TaskQuery.Proofs.Settings.Merge
import TaskQuery.Proofs.Check
import TaskQuery.Proofs.Value.Field
import TaskQuery.Proofs.Snapshot.Fields
import TaskQuery.Proofs.Snapshot.Validity
import TaskQuery.Proofs.Settings.Sections
import TaskQuery.Proofs.Settings.Validity
import TaskQuery.Proofs.Value.DistinctKeys
import TaskQuery.Proofs.Settings.SameFile
import TaskQuery.Proofs.Settings.MergeAlgebra
import TaskQuery.Proofs.Text.Quoted
import TaskQuery.Proofs.Text.Lines
import TaskQuery.Proofs.Query.Explain
import TaskQuery.Proofs.Match.Containment
import TaskQuery.Proofs.Search.Phrase
import TaskQuery.Proofs.Match.Strength
import TaskQuery.Proofs.Match.Recorded
import TaskQuery.Proofs.Snapshot.Dangling
import TaskQuery.Proofs.Snapshot.SectionOrder
import TaskQuery.Proofs.Match.Amount
import TaskQuery.Proofs.Query.Recognition
import TaskQuery.Proofs.Report.Blocks
import TaskQuery.Proofs.Number.Interval
import TaskQuery.Proofs.Number.Shortest
import TaskQuery.Proofs.Json.Numeral
import TaskQuery.Proofs.Json.RoundTrip
import TaskQuery.Proofs.Json.FileText
import TaskQuery.Proofs.Report.RecordFile
