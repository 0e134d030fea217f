import OrphanedCode.Analysis.Static
import OrphanedCode.Analysis.Join
import OrphanedCode.Workspace.Scan
import OrphanedCode.Telemetry.Client
import OrphanedCode.Telemetry.Query
/-!
A detection run: scan a workspace, weigh the evidence of use, and keep the confident findings.

A run makes three checks, in this order, and the first that fails ends it: the threshold lies
between 0 and 1, the root is a directory, and, when telemetry is the evidence, the time range
reads. Static evidence then judges endpoints by their handlers and functions by their uses;
telemetry judges endpoints by the usage aggregated from the traces, never functions, and the
usage itself is reported as the active endpoints. Findings below the threshold are dropped, and
the others keep the order of the scan.

Traces come from a gateway whose answers carry effects in a monad `m` (a network client, a
recording stand-in). The gateway is asked once, after the checks, through its usage method: that
method reads the time range again, fetches the traces of the window and aggregates them, and a
failure it reports ends the run as it is.

A run as the settings select validates them first. A full run then makes a client from the two
keys and asks it for the configured service; the client reads the clock for the end of the window,
sends its query through a link to the service, and reads the traces from the reply.
-/

namespace OrphanedCode

/-- Where a run takes its evidence of use from. -/
inductive Evidence where
  | static
  | telemetry (traces : List TraceRecord) (timeRange : String)

/-- The mode of analysis that an evidence stands for. -/
def Evidence.mode : Evidence → AnalysisMode
  | .static => .pr
  | .telemetry _ _ => .full

/-- The name of the strategy that weighs an evidence. -/
def Evidence.strategyName : Evidence → String
  | .static => "static"
  | .telemetry _ _ => "telemetry"

/-- Why a run ends without a result. -/
inductive RunError where
  | config (e : ConfigError)
  | telemetry (e : TelemetryError)
  | missingRoot (root : String)

/-- The message of a failed run. -/
def RunError.message : RunError → String
  | .config e => "Invalid configuration: " ++ e.message
  | .telemetry e => "Usage telemetry unavailable: " ++ e.message
  | .missingRoot r => "Workspace root does not exist or is not a directory: " ++ r

/-- Whether the root of a workspace is a directory. -/
def WorkspaceRoot.isDir : WorkspaceRoot → Bool
  | .dir _ => true
  | _ => false

/-- The findings of telemetry over an inventory, given the usage of its routes: endpoints judged
by the usage, no function, and the usage as the active endpoints. -/
def judgeByUsage (usage : List TelemetryUsage) (inv : Inventory) :
    List OrphanFinding × List OrphanFinding × List TelemetryUsage :=
  (TelemetryEvidence.orphanedEndpoints usage inv.endpoints, [], usage)

/-- The findings on endpoints and on functions, before the threshold, with the active usage. -/
def Evidence.judge (evidence : Evidence) (inv : Inventory) :
    List OrphanFinding × List OrphanFinding × List TelemetryUsage :=
  match evidence with
  | .static =>
    (StaticEvidence.orphanedEndpoints inv.endpoints inv.functions,
      StaticEvidence.orphanedFunctions inv.functions inv.endpoints, [])
  | .telemetry traces _ => judgeByUsage (aggregateUsage traces) inv

/-- The outcome of a run over a scanned inventory, from the judged findings and the active usage:
the findings that reach the threshold, and the figures of the run. -/
def AnalysisResult.ofJudged (config : Config) (mode : AnalysisMode) (inv : Inventory)
    (judged : List OrphanFinding × List OrphanFinding × List TelemetryUsage) : AnalysisResult :=
  let (endpoints, functions, active) := judged
  let endpoints := keepConfident config.confidenceThreshold endpoints
  let functions := keepConfident config.confidenceThreshold functions
  { orphanedEndpoints := endpoints, orphanedFunctions := functions,
    activeEndpoints := active,
    summary := { totalEndpoints := inv.endpoints.length,
                 totalFunctions := inv.functions.length,
                 orphanedCount := endpoints.length + functions.length,
                 confidenceThreshold := config.confidenceThreshold,
                 analysisMode := mode } }

/-- The outcome of a run over a scanned inventory: the judged findings that reach the threshold,
the active usage, and the figures of the run. -/
def Evidence.analyze (evidence : Evidence) (config : Config) (inv : Inventory) : AnalysisResult :=
  .ofJudged config evidence.mode inv (evidence.judge inv)

/-- A source of usage telemetry, its answers carrying effects in `m`. -/
structure UsageGateway (m : Type → Type) where
  /-- Every trace of a service within the last window, or why they cannot be had. -/
  fetchTraces : String → TimeRange → m (Except TelemetryError (List TraceRecord))

namespace UsageGateway

/-- The gateway that answers every request with the same traces. -/
def replay (traces : List TraceRecord) : UsageGateway Id :=
  ⟨fun _ _ => pure (.ok traces)⟩

/-- The usage of a service over a time range: a text that is no time range fails before anything
is fetched; otherwise the traces of the window are fetched and aggregated per route. -/
def endpointUsage {m : Type → Type} [Monad m] (g : UsageGateway m) (service timeRange : String) :
    ExceptT TelemetryError m (List TelemetryUsage) := do
  let some window := TimeRange.parse? timeRange | throw (.invalidTimeRange timeRange)
  let traces ← ExceptT.mk (g.fetchTraces service window)
  return aggregateUsage traces

end UsageGateway

/-- How a run obtains its evidence of use: from the code alone, or from the usage that a gateway
reports for a service over a time range. -/
inductive RunMode (m : Type → Type) where
  | pr
  | full (gateway : UsageGateway m) (serviceName timeRange : String)

/-- The mode of analysis of a run mode. -/
def RunMode.analysisMode {m : Type → Type} : RunMode m → AnalysisMode
  | .pr => .pr
  | .full .. => .full

/-- Runs a detection with an explicit mode over the workspace whose root is called `rootName`. -/
def analyzeRun {m : Type → Type} [Monad m] (config : Config) (mode : RunMode m)
    (rootName : String) (root : WorkspaceRoot) : ExceptT RunError m AnalysisResult := do
  match checkThreshold config.confidenceThreshold with
  | .error e => throw (.config e)
  | .ok () => pure ()
  if !root.isDir then throw (.missingRoot rootName)
  match mode with
  | .full _ _ text =>
    if (TimeRange.parse? text).isNone then throw (.telemetry (.invalidTimeRange text))
  | .pr => pure ()
  let inv := Inventory.scan ⟨config.exclude, config.respectGitignore⟩ rootName root
  match mode with
  | .pr => return Evidence.static.analyze config inv
  | .full gateway service text =>
    match ← (gateway.endpointUsage service text).run with
    | .error e => throw (.telemetry e)
    | .ok usage => return .ofJudged config .full inv (judgeByUsage usage inv)

/-- The client as a source of traces: it reads the clock for the end of the window, sends the query
for the service over the range, and reads the traces from the reply; an exchange that fails is a
transport failure. -/
def TelemetryClient.gateway {m : Type → Type} [Monad m] (c : TelemetryClient)
    (link : ServiceLink m) : UsageGateway m :=
  ⟨fun service window => do
    let finish ← link.now
    match ← link.exchange (c.request service window finish) with
    | .error detail => pure (.error (.transport detail))
    | .ok reply => pure (TelemetryClient.replyTraces reply)⟩

/-- Runs a detection as the settings select, after validating them: a pull-request run, or a full
run through a client for the configured keys, for the configured service over the configured time
range. -/
def Config.run {m : Type → Type} [Monad m] (config : Config) (link : ServiceLink m)
    (rootName : String) (root : WorkspaceRoot) : ExceptT RunError m AnalysisResult := do
  match config.validate with
  | .error e => throw (.config e)
  | .ok () => pure ()
  match config.mode with
  | .pr => analyzeRun config .pr rootName root
  | .full =>
    let client ← match TelemetryClient.ofSettings config.telemetry with
      | .ok c => pure c
      | .error e => throw (.telemetry e)
    let some service := config.telemetry.serviceName
      | throw (.telemetry (.missingCredentials "service name"))
    analyzeRun config (.full (client.gateway link) service config.telemetry.timeRange) rootName root

/-- The run mode of an evidence: telemetry is the gateway that replays its traces. -/
def Evidence.runMode : Evidence → RunMode Id
  | .static => .pr
  | .telemetry traces timeRange => .full (.replay traces) "" timeRange

/-- Runs a detection over the workspace whose root is called `rootName`. -/
def detect (config : Config) (evidence : Evidence) (rootName : String) (root : WorkspaceRoot) :
    Except RunError AnalysisResult :=
  Id.run (analyzeRun config evidence.runMode rootName root).run

end OrphanedCode
