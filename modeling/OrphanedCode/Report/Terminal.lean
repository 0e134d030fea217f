import OrphanedCode.Report.Location
import OrphanedCode.Analysis.Finding
/-!
The plain-text report of a run, as a terminal shows it.

A clean run says so and shows the summary. Otherwise the findings, in report order (endpoints
first), are filed one by one under their file relative to the workspace root, in groups kept in
the order of their paths; each finding shows a mark for its confidence, its line,
severity, rule code, message and percentage, and below it what it is about with its usage. The
summary closes the report, with the active endpoints in a full run or a tip otherwise.
-/

namespace OrphanedCode.Report

/-- The mark of a confidence: higher confidence, fuller circle. -/
def confidenceMark (c : Float) : String :=
  if c ≥ 0.9 then "●" else if c ≥ 0.8 then "◉" else if c ≥ 0.7 then "○" else "◌"

/-- The two lines of one finding. -/
def findingLines (f : OrphanFinding) : String :=
  "  " ++ confidenceMark f.confidence ++ " " ++ toString f.item.startLine ++ " " ++
    f.severity.name ++ " [" ++ f.reason.code ++ "] " ++ f.message ++ " (" ++
    percent f.confidence ++ ")\n" ++
  "    → " ++ f.item.kindName ++ " \x27" ++ f.item.label ++ "\x27" ++
    (match f.usageCount with
      | some n => " " ++ toString n ++ " hits"
      | none => "") ++
    (match f.lastAccessed with
      | some t => " last seen " ++ t
      | none => "") ++ "\n"

/-- The closing summary of a report. -/
def summaryLines (r : AnalysisResult) : String :=
  let s := r.summary
  String.ofList (List.replicate 60 '─') ++ "\n" ++
  "Scanned " ++ toString s.totalEndpoints ++ " endpoints and " ++ toString s.totalFunctions ++
    " functions (" ++ s.analysisMode.name ++ " mode, threshold " ++
    Binary64.plainText s.confidenceThreshold ++ ")\n" ++
  "Orphaned: " ++ toString r.orphanedEndpoints.length ++ " endpoints, " ++
    toString r.orphanedFunctions.length ++ " functions\n" ++
  (if s.analysisMode == .full then
    "Active endpoints in telemetry: " ++ toString r.activeEndpoints.length ++ "\n"
  else if !r.isClean then
    "Tip: Run with --mode full and Datadog credentials for production accuracy\n"
  else "")

/-- Files a finding under a path, in groups kept in ascending order of their paths: at the end of
the group of that path, or in a new group in its place. -/
def fileUnder (path : String) (f : OrphanFinding) :
    List (String × List OrphanFinding) → List (String × List OrphanFinding)
  | [] => [(path, [f])]
  | (p, fs) :: rest =>
    match compare path p with
    | .lt => (path, [f]) :: (p, fs) :: rest
    | .eq => (p, fs ++ [f]) :: rest
    | .gt => (p, fs) :: fileUnder path f rest

/-- The findings grouped by relative path, each filed in turn, the paths in order. -/
def groupByPath (root : String) (findings : List OrphanFinding) :
    List (String × List OrphanFinding) :=
  findings.foldl (fun gs f => fileUnder (relativePath root f.item.file) f gs) []

/-- The terminal report of a run. -/
def terminal (root : String) (r : AnalysisResult) : String :=
  if r.isClean then "No orphaned code found!\n" ++ summaryLines r
  else
    "\nFound " ++ toString r.summary.orphanedCount ++ " potentially orphaned items:\n\n" ++
    String.join ((groupByPath root r.findings).map fun (p, fs) =>
      p ++ "\n" ++ String.join (fs.map findingLines) ++ "\n") ++
    summaryLines r

end OrphanedCode.Report
