import OrphanedCode.Code.Item
import OrphanedCode.Config.Settings
import OrphanedCode.Telemetry.Usage
/-!
Findings: a declaration that looks unused, and why.

Each reason has a code, a fixed confidence, a default message and a severity:

| reason | code | confidence | severity |
| --- | --- | --- | --- |
| handler not found | OC001 | 0.9 | warning |
| handler unreferenced | OC002 | 0.7 | info |
| minimal references | OC003 | 0.6 | info |
| no traces | OC004 | 0.9 | warning |
| zero hits | OC005 | 0.8 | warning |

A finding on a route that telemetry saw also carries the route's last access and hit count.
-/

namespace OrphanedCode

/-- How serious a finding is; information ranks below a warning. -/
inductive Severity where
  | info
  | warning
  deriving DecidableEq, Repr

/-- The lower-case name of a severity. -/
def Severity.name : Severity → String
  | .info => "info"
  | .warning => "warning"

/-- Why a declaration looks unused. -/
inductive OrphanReason where
  | handlerNotFound
  | handlerUnreferenced
  | minimalReferences
  | noTraces
  | zeroHits
  deriving DecidableEq, Repr

namespace OrphanReason

/-- Every reason, in the order of their codes. -/
def every : List OrphanReason :=
  [.handlerNotFound, .handlerUnreferenced, .minimalReferences, .noTraces, .zeroHits]

/-- The rule code of a reason. -/
def code : OrphanReason → String
  | .handlerNotFound => "OC001"
  | .handlerUnreferenced => "OC002"
  | .minimalReferences => "OC003"
  | .noTraces => "OC004"
  | .zeroHits => "OC005"

/-- The snake-case name of a reason. -/
def name : OrphanReason → String
  | .handlerNotFound => "handler_not_found"
  | .handlerUnreferenced => "handler_unreferenced"
  | .minimalReferences => "minimal_references"
  | .noTraces => "no_traces"
  | .zeroHits => "zero_hits"

/-- The reason a snake-case name stands for. -/
def ofName? (s : String) : Option OrphanReason :=
  every.find? (·.name == s)

/-- How sure a finding for this reason is. -/
def confidence : OrphanReason → Float
  | .handlerNotFound => 0.9
  | .handlerUnreferenced => 0.7
  | .minimalReferences => 0.6
  | .noTraces => 0.9
  | .zeroHits => 0.8

/-- The message of a finding for this reason. -/
def message : OrphanReason → String
  | .handlerNotFound => "Handler function not found in codebase"
  | .handlerUnreferenced => "Handler function has no references"
  | .minimalReferences => "Function is not exported and has minimal references"
  | .noTraces => "No APM traces found for this endpoint"
  | .zeroHits => "Endpoint exists in APM but has zero hits"

/-- The severity of a finding for this reason. -/
def severity : OrphanReason → Severity
  | .handlerNotFound => .warning
  | .handlerUnreferenced => .info
  | .minimalReferences => .info
  | .noTraces => .warning
  | .zeroHits => .warning

end OrphanReason

/-- A declaration that a finding is about. -/
inductive CodeItem where
  | endpoint (e : CodeEndpoint)
  | function (f : CodeFunction)

namespace CodeItem

/-- The file of the declaration. -/
def file : CodeItem → String
  | .endpoint e => e.file
  | .function f => f.file

/-- The first line of the declaration. -/
def startLine : CodeItem → Nat
  | .endpoint e => e.startLine
  | .function f => f.startLine

/-- The last line of the declaration. -/
def endLine : CodeItem → Nat
  | .endpoint e => e.endLine
  | .function f => f.endLine

/-- The kind of declaration, as a word. -/
def kindName : CodeItem → String
  | .endpoint _ => "endpoint"
  | .function _ => "function"

/-- A short label: the method and route of an endpoint, the name of a function. -/
def label : CodeItem → String
  | .endpoint e => e.label
  | .function f => f.name

end CodeItem

/-- A declaration that looks unused, with the reason and the evidence. -/
structure OrphanFinding where
  item : CodeItem
  reason : OrphanReason
  message : String
  confidence : Float
  lastAccessed : Option String
  usageCount : Option Nat

namespace OrphanFinding

/-- A finding with the reason's message and confidence and no usage. -/
def make (item : CodeItem) (reason : OrphanReason) : OrphanFinding :=
  ⟨item, reason, reason.message, reason.confidence, none, none⟩

/-- The same finding carrying the usage of its route. -/
def withUsage (f : OrphanFinding) (u : TelemetryUsage) : OrphanFinding :=
  { f with lastAccessed := some u.lastAccessed, usageCount := some u.hitCount }

/-- The severity of a finding. -/
def severity (f : OrphanFinding) : Severity :=
  f.reason.severity

end OrphanFinding

/-- The figures of a run. -/
structure AnalysisSummary where
  totalEndpoints : Nat
  totalFunctions : Nat
  orphanedCount : Nat
  confidenceThreshold : Float
  analysisMode : AnalysisMode

/-- The outcome of a run. -/
structure AnalysisResult where
  orphanedEndpoints : List OrphanFinding
  orphanedFunctions : List OrphanFinding
  activeEndpoints : List TelemetryUsage
  summary : AnalysisSummary

namespace AnalysisResult

/-- The findings, endpoints first. -/
def findings (r : AnalysisResult) : List OrphanFinding :=
  r.orphanedEndpoints ++ r.orphanedFunctions

/-- Whether the run found nothing, by its count. -/
def isClean (r : AnalysisResult) : Bool :=
  r.summary.orphanedCount == 0

end AnalysisResult

/-- The findings whose confidence reaches the threshold, in order. -/
def keepConfident (threshold : Float) (findings : List OrphanFinding) : List OrphanFinding :=
  findings.filter fun f => f.confidence ≥ threshold

end OrphanedCode
