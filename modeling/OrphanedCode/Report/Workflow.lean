import OrphanedCode.Report.Location
import OrphanedCode.Analysis.Encode
import OrphanedCode.Json.Write
/-!
Reports for a continuous integration workflow: warning annotations and step outputs.

The confident findings (endpoints first) become warnings: a first line counts them, and the first
of them up to the annotation limit each become a warning on their file and lines. In a warning's
message `%`, carriage return and line feed are written as percent escapes; in a property also the
colon and the comma. The step outputs are `key=value` lines: the two lists of findings and the
summary as compact JSON, and the two counts.
-/

namespace OrphanedCode.Report

/-- A workflow message with its special characters escaped. -/
def escapeData (s : String) : String :=
  replaceEach (fun c =>
    match c with
    | '%' => "%25"
    | '\r' => "%0D"
    | '\n' => "%0A"
    | c => c.toString) s

/-- A workflow property with its special characters escaped. -/
def escapeProperty (s : String) : String :=
  replaceEach (fun c =>
    match c with
    | ':' => "%3A"
    | ',' => "%2C"
    | c => c.toString) (escapeData s)

/-- The warning on one finding. -/
def warningOf (root : String) (f : OrphanFinding) : String :=
  "::warning file=" ++ escapeProperty (relativePath root f.item.file) ++
    ",line=" ++ toString f.item.startLine ++ ",endLine=" ++ toString f.item.endLine ++
    ",title=" ++ escapeProperty ("Potentially orphaned " ++ f.item.kindName) ++
    "::" ++ escapeData f.message

/-- The warnings of a run, in the order they are emitted. -/
def annotations (root : String) (limits : ReportLimits) (r : AnalysisResult) : List String :=
  let high := r.findings.filter fun f => f.confidence ≥ limits.annotationConfidence
  if high.isEmpty then []
  else
    ("::warning::Found " ++ toString high.length ++ " high-confidence orphaned code items") ::
      (high.take limits.maxAnnotations).map (warningOf root)

/-- The step outputs of a run, one `key=value` line each. -/
def stepOutputs (r : AnalysisResult) : String :=
  let entries : List (String × String) :=
    [("orphaned-endpoints", Json.compact (.arr (r.orphanedEndpoints.map OrphanFinding.toJson))),
     ("orphaned-functions", Json.compact (.arr (r.orphanedFunctions.map OrphanFinding.toJson))),
     ("orphaned-count", toString r.summary.orphanedCount),
     ("active-endpoints", toString r.activeEndpoints.length),
     ("analysis-summary", Json.compact r.summary.toJson)]
  String.join (entries.map fun (k, v) => k ++ "=" ++ v ++ "\n")

end OrphanedCode.Report
