import CoreTrial.Text.Search
import CoreTrial.Text.Lines
import CoreTrial.Text.Utf8
import CoreTrial.Text.Quoted
import CoreTrial.Text.WordChar
import CoreTrial.Text.DecimalDigit
import CoreTrial.Text.Blank
import CoreTrial.Text.Lowercase
import CoreTrial.Text.Width
import CoreTrial.Number.Binary64.Printer
import CoreTrial.Number.Binary64.Reader
import CoreTrial.Time.Duration
import CoreTrial.Time.Timestamp
import CoreTrial.Path
import CoreTrial.SortedMap
import CoreTrial.Json.Reader
import CoreTrial.Json.Writer
import CoreTrial.Json.Record
import CoreTrial.Benchmark
import CoreTrial.Encoding
import CoreTrial.Region
import CoreTrial.Utilization.Report
import CoreTrial.Utilization.Table
import CoreTrial.Score
import CoreTrial.Run.Draft
import CoreTrial.Gateway.Script
import CoreTrial.Patch
import CoreTrial.Settings.Pipeline
import CoreTrial.Settings.Toolchain
import CoreTrial.Completion.Queue
import CoreTrial.Completion.Device
import CoreTrial.Completion.Monitor
import CoreTrial.Build.Invocation
import CoreTrial.Gateway.Vivado
import CoreTrial.Pipeline.Basic
import CoreTrial.Pipeline.Rehearsal
import CoreTrial.Storage
import CoreTrial.Shell.Stream
import CoreTrial.Shell.Reader
import CoreTrial.Shell.Tool
import CoreTrial.Shell.Run
import CoreTrial.Lock
import CoreTrial.Yaml
import CoreTrial.Text.Grid
import CoreTrial.Settings.Layer
import CoreTrial.CommandLine.Execution
import CoreTrial.Main
import CoreTrial.Proofs.Region.Reinjection
import CoreTrial.Proofs.Activity.Meets
import CoreTrial.Proofs.Pipeline.Stages
import CoreTrial.Proofs.Pipeline.Record
import CoreTrial.Proofs.Activity.Limit
import CoreTrial.Proofs.Pipeline.Limit
import CoreTrial.Proofs.SortedMap
import CoreTrial.Proofs.Utilization.Agreement
import CoreTrial.Proofs.Completion.Grid
import CoreTrial.Proofs.Completion.Arrival
import CoreTrial.Proofs.Number.Hex
import CoreTrial.Proofs.Patch.Outcome
import CoreTrial.Proofs.Encoding.Readback
import CoreTrial.Proofs.Encoding.Nesting
import CoreTrial.Proofs.FileSystem.Walk
import CoreTrial.Proofs.FileSystem.Replace
import CoreTrial.Proofs.Patch.Repetition
import CoreTrial.Proofs.Pipeline.Calls
import CoreTrial.Proofs.Pipeline.Completed
import CoreTrial.Proofs.Activity.Pauses
import CoreTrial.Proofs.FileSystem.Flat
import CoreTrial.Proofs.Gateway.Calls
import CoreTrial.Proofs.Gateway.History
import CoreTrial.Proofs.Gateway.Resolution
import CoreTrial.Proofs.Completion.Removal
import CoreTrial.Proofs.Activity.Embed
import CoreTrial.Proofs.Pipeline.Trace
import CoreTrial.Proofs.Pipeline.Order
import CoreTrial.Proofs.Number.Ceiling
import CoreTrial.Proofs.Utilization.FirstEntry
import CoreTrial.Proofs.Utilization.Summary
import CoreTrial.Proofs.Machine.Transfer
import CoreTrial.Proofs.Program.Halting
import CoreTrial.Proofs.FileSystem.Frame
import CoreTrial.Proofs.Lock.Exclusion
import CoreTrial.Proofs.Lock.Turns
import CoreTrial.Proofs.Lock.Commands
import CoreTrial.Proofs.Gateway.Account
import CoreTrial.Proofs.Text.Utf8
import CoreTrial.Proofs.Gateway.Verdict
import CoreTrial.Proofs.Path
import CoreTrial.Proofs.Gateway.Ambiguity
import CoreTrial.Proofs.Activity.Alike
import CoreTrial.Proofs.Completion.Alike
import CoreTrial.Proofs.Completion.Sampling
import CoreTrial.Proofs.FileSystem.Staging
import CoreTrial.Proofs.Patch.Atomicity
import CoreTrial.Proofs.Time.Calendar
import CoreTrial.Proofs.Time.Timestamp
import CoreTrial.Proofs.Json.Record
import CoreTrial.Proofs.Run.Storage
import CoreTrial.Proofs.FileSystem.Keeps
import CoreTrial.Proofs.FileSystem.Folders
import CoreTrial.Proofs.Gateway.Resynthesis
import CoreTrial.Proofs.Pipeline.Steady
import CoreTrial.Proofs.Pipeline.Rerun
import CoreTrial.Proofs.Encoding.EndMarker
import CoreTrial.Proofs.Utilization.Written
import CoreTrial.Proofs.Number.Rounding
import CoreTrial.Proofs.Pipeline.Measure
import CoreTrial.Proofs.CommandLine.Timer
import CoreTrial.Proofs.Completion.Delivery
import CoreTrial.Proofs.Log
import CoreTrial.Proofs.Text.Offset
import CoreTrial.Proofs.Region.FirstMarkers
import CoreTrial.Proofs.Machine.Operation
import CoreTrial.Proofs.Machine.Execution
import CoreTrial.Proofs.Benchmark.Matmul
import CoreTrial.Proofs.Script.Reading
import CoreTrial.Proofs.Script.Quoting
