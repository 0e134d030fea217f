import OrphanedCode.Analysis.Finding
import OrphanedCode.Code.Encode
/-!
Findings, usage and results as JSON objects, with their fields in a fixed order.

An item is the declaration's object with a leading `type` field (`endpoint` or `function`). A
finding has `item`, `reason`, `message`, `confidence`, then `last_accessed` and `usage_count` only
when it carries usage. A usage has `endpoint`, `method`, `hitCount`, `lastAccessed`,
`avgResponseTime`; a summary `total_endpoints`, `total_functions`, `orphaned_count`,
`confidence_threshold`, `analysis_mode`; a result `orphaned_endpoints`, `orphaned_functions`,
`active_endpoints`, `summary`.
-/

namespace OrphanedCode

/-- An item as a JSON object tagged with its kind. -/
def CodeItem.toJson : CodeItem → Json
  | .endpoint e => .obj (("type", .str "endpoint") :: e.fields)
  | .function f => .obj (("type", .str "function") :: f.fields)

/-- A finding as a JSON object. -/
def OrphanFinding.toJson (f : OrphanFinding) : Json :=
  .obj ([("item", f.item.toJson), ("reason", .str f.reason.name), ("message", .str f.message),
    ("confidence", .num f.confidence)] ++
    (match f.lastAccessed with
      | some t => [("last_accessed", .str t)]
      | none => []) ++
    (match f.usageCount with
      | some n => [("usage_count", .nat n)]
      | none => []))

/-- A usage as a JSON object. -/
def TelemetryUsage.toJson (u : TelemetryUsage) : Json :=
  .obj [("endpoint", .str u.endpoint), ("method", .str u.method), ("hitCount", .nat u.hitCount),
    ("lastAccessed", .str u.lastAccessed), ("avgResponseTime", .num u.avgResponseTime)]

/-- A summary as a JSON object. -/
def AnalysisSummary.toJson (s : AnalysisSummary) : Json :=
  .obj [("total_endpoints", .nat s.totalEndpoints), ("total_functions", .nat s.totalFunctions),
    ("orphaned_count", .nat s.orphanedCount), ("confidence_threshold", .num s.confidenceThreshold),
    ("analysis_mode", .str s.analysisMode.name)]

/-- A result as a JSON object. -/
def AnalysisResult.toJson (r : AnalysisResult) : Json :=
  .obj [("orphaned_endpoints", .arr (r.orphanedEndpoints.map OrphanFinding.toJson)),
    ("orphaned_functions", .arr (r.orphanedFunctions.map OrphanFinding.toJson)),
    ("active_endpoints", .arr (r.activeEndpoints.map TelemetryUsage.toJson)),
    ("summary", r.summary.toJson)]

end OrphanedCode
