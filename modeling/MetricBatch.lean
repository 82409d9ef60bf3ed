import MetricBatch.Main
import MetricBatch.Proofs.Backend.Credentials
import MetricBatch.Proofs.CommandLine.Credentials
import MetricBatch.Proofs.Gate.Scripts
import MetricBatch.Proofs.Session.Accounting
import MetricBatch.Proofs.Session.Alike
import MetricBatch.Proofs.Session.Attendance
import MetricBatch.Proofs.Session.Bounds
import MetricBatch.Proofs.Session.Forewarning
import MetricBatch.Proofs.Session.Isolation
import MetricBatch.Proofs.Session.Progress
import MetricBatch.Proofs.Session.Quiet
import MetricBatch.Proofs.Session.Scripts
import MetricBatch.Proofs.Session.TearDown
import MetricBatch.Proofs.Url.Form
import MetricBatch.Scan
import MetricBatch.Session.Interleaving
import MetricBatch.Session.TearDown
import MetricBatch.Proofs.Backend.Parameters
import MetricBatch.Json.Tree
import MetricBatch.Proofs.Session.Batch
import MetricBatch.Proofs.Json.Numeral
import MetricBatch.Proofs.Json.Printed
import MetricBatch.Proofs.Config.Layers
import MetricBatch.Proofs.CommandLine.Output
import MetricBatch.CommandLine.Log
import MetricBatch.Proofs.CommandLine.Tokens
import MetricBatch.Proofs.Results.Checks
import MetricBatch.Proofs.Results.Grammar
import MetricBatch.Proofs.Results.Violations
import MetricBatch.Proofs.Gate.Counters
import MetricBatch.Proofs.Session.Lifecycle
import MetricBatch.Proofs.Results.Readback
import MetricBatch.Proofs.CommandLine.Window
import MetricBatch.Proofs.Backend.Range
import MetricBatch.Proofs.Backend.BasePath
import MetricBatch.Proofs.Gate.Withdrawal
import MetricBatch.Proofs.Gate.Shrinking
import MetricBatch.Proofs.Session.Thread
import MetricBatch.Proofs.Gate.Refusal
import MetricBatch.Proofs.Gate.Growing
import MetricBatch.Gate.Deadlines
import MetricBatch.Reports
import MetricBatch.Proofs.Merges
import MetricBatch.Proofs.Reports
import MetricBatch.Proofs.Gate.Endings
import MetricBatch.Proofs.Gate.Untimed
import MetricBatch.Proofs.Gate.Deadlines
import MetricBatch.Proofs.Results.Labels
import MetricBatch.Proofs.Scan.Coverage
import MetricBatch.Proofs.Session.Excerpt
