import OrphanedCode.Text.RangeTable
import OrphanedCode.Text.Blank
import OrphanedCode.Text.Word
import OrphanedCode.Text.Alnum
import OrphanedCode.Text.Upper
import OrphanedCode.Text.Lines
import OrphanedCode.Text.Quoted
import OrphanedCode.Number.Binary64
import OrphanedCode.Number.Shortest
import OrphanedCode.Number.Layout
import OrphanedCode.Number.Word
import OrphanedCode.Number.Decimal
import OrphanedCode.Json.Value
import OrphanedCode.Json.Write
import OrphanedCode.Json.Reader
import OrphanedCode.Http.Method
import OrphanedCode.Source.Language
import OrphanedCode.Source.Path
import OrphanedCode.Route.Normalize
import OrphanedCode.Telemetry.TimeRange
import OrphanedCode.Telemetry.Timestamp
import OrphanedCode.Telemetry.Client
import OrphanedCode.Config.Settings
import OrphanedCode.Code.Reader
import OrphanedCode.Code.Item
import OrphanedCode.Code.Idiom
import OrphanedCode.Code.Reference
import OrphanedCode.Code.Extract
import OrphanedCode.Code.Encode
import OrphanedCode.Telemetry.Usage
import OrphanedCode.Analysis.Finding
import OrphanedCode.Analysis.Static
import OrphanedCode.Analysis.Join
import OrphanedCode.Analysis.Encode
import OrphanedCode.Text.Utf8
import OrphanedCode.Workspace.Tree
import OrphanedCode.Workspace.Ignore
import OrphanedCode.Workspace.Scan
import OrphanedCode.Analysis.Run
import OrphanedCode.Telemetry.TraceSearch
import OrphanedCode.Telemetry.Query
import OrphanedCode.Report.Location
import OrphanedCode.Report.Markdown
import OrphanedCode.Report.Workflow
import OrphanedCode.Report.Sarif
import OrphanedCode.Report.Terminal
import OrphanedCode.Report.Print
import OrphanedCode.Toml.Value
import OrphanedCode.Toml.Read
import OrphanedCode.Yaml.Node
import OrphanedCode.Yaml.Token
import OrphanedCode.Yaml.Scalar
import OrphanedCode.Yaml.Scan
import OrphanedCode.Yaml.Compose
import OrphanedCode.Config.File
import OrphanedCode.Config.Load
import OrphanedCode.Proofs.Text
import OrphanedCode.Proofs.Route
import OrphanedCode.Proofs.RouteJoin
import OrphanedCode.Proofs.Usage
import OrphanedCode.Proofs.Index
import OrphanedCode.Proofs.Evidence
import OrphanedCode.Proofs.Reference
import OrphanedCode.Proofs.Idiom
import OrphanedCode.Proofs.Extract
import OrphanedCode.Proofs.PathOrder
import OrphanedCode.Proofs.Scan
import OrphanedCode.Proofs.Discovery
import OrphanedCode.Proofs.Run
import OrphanedCode.Proofs.Binary64Order
import OrphanedCode.Proofs.Outcome
import OrphanedCode.Proofs.Aggregate
import OrphanedCode.Proofs.Strategy
import OrphanedCode.Proofs.Forms
import OrphanedCode.Proofs.LineExtraction
import OrphanedCode.Proofs.Verb
import OrphanedCode.Proofs.TimeRange
import OrphanedCode.Proofs.Settings
import OrphanedCode.Proofs.Workflow
import OrphanedCode.Proofs.Markdown
import OrphanedCode.Proofs.Window
import OrphanedCode.Proofs.StepOutputs
import OrphanedCode.Proofs.Utf8
import OrphanedCode.Proofs.JsonText
import OrphanedCode.Proofs.JsonSteps
import OrphanedCode.Proofs.JsonRoundTrip
import OrphanedCode.Proofs.Sarif
import OrphanedCode.Proofs.Credentials
import OrphanedCode.Proofs.Terminal
