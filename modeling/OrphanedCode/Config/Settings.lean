import OrphanedCode.Text.Blank
import OrphanedCode.Text.Lines
import OrphanedCode.Number.Layout
import OrphanedCode.Telemetry.TimeRange
/-!
Settings of a run and their validation.

A run is either a pull-request run (`pr`), which judges code by static evidence only, or a full
run (`full`), which also asks a telemetry service how often each route was hit. Validation checks,
in this order: the confidence threshold lies in `[0, 1]` (not-a-number does not); in a full run, no
telemetry credential is missing or blank, all missing ones being named at once; in a full run, the
time range reads as one.
-/

namespace OrphanedCode

/-- The kind of run. -/
inductive AnalysisMode where
  | full
  | pr
  deriving DecidableEq, Repr, Inhabited

namespace AnalysisMode

/-- The lower-case name of a mode. -/
def name : AnalysisMode → String
  | .full => "full"
  | .pr => "pr"

/-- The mode a lower-case name stands for. -/
def ofName? : String → Option AnalysisMode
  | "full" => some .full
  | "pr" => some .pr
  | _ => none

end AnalysisMode

/-- Where and how usage telemetry is fetched. -/
structure TelemetrySettings where
  apiKey : Option String := none
  appKey : Option String := none
  site : String := "datadoghq.com"
  serviceName : Option String := none
  timeRange : String := "7d"

/-- How many rows and annotations the reports show. -/
structure ReportLimits where
  maxTableRows : Nat := 10
  maxAnnotations : Nat := 10
  annotationConfidence : Float := 0.9

/-- The settings of a run. -/
structure Config where
  mode : AnalysisMode := .pr
  exclude : List String := []
  confidenceThreshold : Float := 0.8
  output : Option String := none
  respectGitignore : Bool := false
  telemetry : TelemetrySettings := {}
  report : ReportLimits := {}

/-- A reason why settings are refused. -/
inductive ConfigError where
  | thresholdOutOfRange (threshold : Float)
  | missingTelemetry (items : List String)
  | invalidTimeRange (text : String)

/-- The message of a refusal. -/
def ConfigError.message : ConfigError → String
  | .thresholdOutOfRange t =>
    "Confidence threshold must be between 0 and 1, got " ++ Binary64.plainText t
  | .missingTelemetry items =>
    "Full mode requires telemetry settings that are missing: " ++ ", ".intercalate items
  | .invalidTimeRange s => invalidTimeRangeMessage s

/-- Whether a setting is absent or blank. -/
def isUnset (s : Option String) : Bool :=
  match s with
  | none => true
  | some t => Text.isBlankText t

/-- Accepts a threshold between 0 and 1, both included. -/
def checkThreshold (t : Float) : Except ConfigError Unit :=
  if 0.0 ≤ t ∧ t ≤ 1.0 then .ok () else .error (.thresholdOutOfRange t)

/-- The telemetry settings that a full run lacks, in a fixed order. -/
def TelemetrySettings.missing (t : TelemetrySettings) : List String :=
  (if isUnset t.apiKey then ["api key"] else []) ++
    (if isUnset t.appKey then ["application key"] else []) ++
    (if isUnset t.serviceName then ["service name"] else [])

/-- Checks settings: the threshold, then in a full run the credentials and the time range. -/
def Config.validate (c : Config) : Except ConfigError Unit := do
  checkThreshold c.confidenceThreshold
  if c.mode = .full then
    let missing := c.telemetry.missing
    if !missing.isEmpty then throw (.missingTelemetry missing)
    match TimeRange.parse? c.telemetry.timeRange with
    | some _ => pure ()
    | none => throw (.invalidTimeRange c.telemetry.timeRange)

/-- The names in a comma-separated list, trimmed, without empty ones. -/
def parseExcludeList (s : String) : List String :=
  ((Text.pieces s ',').map Text.trim).filter (!·.isEmpty)

end OrphanedCode
