import OrphanedCode.Report.Location
import OrphanedCode.Analysis.Finding
import OrphanedCode.Json.Write
/-!
The SARIF 2.1.0 log of a run, for code-scanning dashboards.

One run of the tool lists a rule per reason, in code order, with the reason's default message and
level (a warning is `warning`, information is `note`), and a result per finding, endpoints first:
its rule, level, a message `label: message`, its file relative to the workspace root with its
lines, and its confidence.
-/

namespace OrphanedCode.Report

/-- The SARIF level of a severity. -/
def sarifLevel : Severity → String
  | .warning => "warning"
  | .info => "note"

/-- The rule of a reason. -/
def sarifRule (reason : OrphanReason) : Json :=
  .obj [("id", .str reason.code), ("name", .str reason.name),
    ("shortDescription", .obj [("text", .str reason.message)]),
    ("defaultConfiguration", .obj [("level", .str (sarifLevel reason.severity))])]

/-- The result of a finding. -/
def sarifResult (root : String) (f : OrphanFinding) : Json :=
  .obj [("ruleId", .str f.reason.code), ("level", .str (sarifLevel f.severity)),
    ("message", .obj [("text", .str (f.item.label ++ ": " ++ f.message))]),
    ("locations", .arr [.obj [("physicalLocation", .obj [
      ("artifactLocation", .obj [("uri", .str (relativePath root f.item.file))]),
      ("region", .obj [("startLine", .nat f.item.startLine), ("endLine", .nat f.item.endLine)])])]]),
    ("properties", .obj [("confidence", .num f.confidence)])]

/-- The SARIF log of a run. -/
def sarif (root : String) (r : AnalysisResult) : Json :=
  .obj [("$schema", .str "https://raw.githubusercontent.com/oasis-tcs/sarif-spec/master/Schemata/sarif-schema-2.1.0.json"),
    ("version", .str "2.1.0"),
    ("runs", .arr [.obj [
      ("tool", .obj [("driver", .obj [("name", .str "orphanscan"), ("version", .str "0.1.0"),
        ("rules", .arr (OrphanReason.every.map sarifRule))])]),
      ("results", .arr (r.findings.map (sarifResult root)))]])]

/-- The SARIF log of a run as indented JSON text. -/
def sarifText (root : String) (r : AnalysisResult) : String :=
  Json.pretty (sarif root r)

end OrphanedCode.Report
