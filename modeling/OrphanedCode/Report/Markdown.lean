import OrphanedCode.Report.Location
import OrphanedCode.Analysis.Finding
/-!
The Markdown summary of a run, as a job summary page shows it.

It opens with a table of counts (the active endpoints only in a full run), the mode and the
threshold, then a table of orphaned endpoints and one of orphaned functions when there are any,
each cut to the row limit with a note on how many there were, and ends with a note that all is
clean or with recommendations. In a cell, a bar is escaped and a line break becomes a space.
-/

namespace OrphanedCode.Report

/-- A cell's text, safe inside a table row. -/
def cell (s : String) : String :=
  replaceEach (fun c => if c == '|' then "\\|" else if c == '\n' then " " else c.toString) s

/-- A table row of the given cells. -/
def row (cells : List String) : String :=
  "| " ++ " | ".intercalate cells ++ " |\n"

/-- The recommendations that close a report with findings. -/
def recommendations : List String :=
  ["Review high-confidence orphaned items for potential removal",
   "Consider adding tests or documentation for low-usage endpoints",
   "Use Datadog integration (full mode) for production accuracy",
   "Set up regular orphaned code detection in CI/CD pipeline"]

/-- The note under a table that shows only the first rows. -/
def overflowNote (limit total : Nat) (kind : String) : String :=
  if total > limit then
    "\n*Showing first " ++ toString limit ++ " of " ++ toString total ++ " orphaned " ++ kind ++
      "*\n"
  else ""

/-- The row of an endpoint finding; a function item has an empty label here. -/
def endpointRow (f : OrphanFinding) : String :=
  let label := match f.item with
    | .endpoint _ => f.item.label
    | .function _ => ""
  row [cell (fileLabel f.item.file), cell label, cell f.message, percent f.confidence,
    match f.usageCount with
    | some n => toString n
    | none => "N/A"]

/-- The row of a function finding. -/
def functionRow (f : OrphanFinding) : String :=
  row [cell (fileLabel f.item.file), cell f.item.label, cell f.message, percent f.confidence]

/-- The Markdown summary of a run. -/
def markdown (limits : ReportLimits) (r : AnalysisResult) : String :=
  let s := r.summary
  let full := s.analysisMode == .full
  let counts :=
    "## 🔍 Orphaned Code Detection Results\n\n" ++
    "| Metric | Count |\n| --- | --- |\n" ++
    row ["Total Endpoints", toString s.totalEndpoints] ++
    row ["Total Functions", toString s.totalFunctions] ++
    row ["Orphaned Endpoints", toString r.orphanedEndpoints.length] ++
    row ["Orphaned Functions", toString r.orphanedFunctions.length] ++
    row ["**Total Orphaned**", "**" ++ toString s.orphanedCount ++ "**"] ++
    (if full then row ["Active Endpoints (Datadog)", toString r.activeEndpoints.length] else "")
  let mode := if full then "Full (with Datadog)" else "PR Changes Only"
  let settings :=
    "\n**Analysis Mode:** " ++ mode ++ "  \n" ++
    "**Confidence Threshold:** " ++ Binary64.plainText s.confidenceThreshold ++ "\n"
  let endpoints :=
    if r.orphanedEndpoints.isEmpty then ""
    else
      "\n### 🚫 Orphaned Endpoints\n\n" ++
      "| File | Endpoint | Reason | Confidence | Usage |\n| --- | --- | --- | --- | --- |\n" ++
      String.join ((r.orphanedEndpoints.take limits.maxTableRows).map endpointRow) ++
      overflowNote limits.maxTableRows r.orphanedEndpoints.length "endpoints"
  let functions :=
    if r.orphanedFunctions.isEmpty then ""
    else
      "\n### 🗑️ Orphaned Functions\n\n" ++
      "| File | Function | Reason | Confidence |\n| --- | --- | --- | --- |\n" ++
      String.join ((r.orphanedFunctions.take limits.maxTableRows).map functionRow) ++
      overflowNote limits.maxTableRows r.orphanedFunctions.length "functions"
  let closing :=
    if r.isClean then "\n✅ **No orphaned code detected!** Your codebase looks clean.\n"
    else "\n### 💡 Recommendations\n\n" ++ String.join (recommendations.map fun t => "- " ++ t ++ "\n")
  counts ++ settings ++ endpoints ++ functions ++ closing

end OrphanedCode.Report
