import OrphanedCode.Analysis.Finding
import Std.Data.HashMap.Basic
/-!
Telemetry evidence: joining declared routes with observed usage.

The usage is indexed by method and canonical route key, and of several usages that share a key
the first one in the list is kept. A declared endpoint meets the usage filed under its method name
and the canonical key of its route. An endpoint that meets none is reported for `no traces`, one
whose usage has no hits for `zero hits` (carrying that usage); otherwise it is in use. Functions
are never reported from telemetry.
-/

namespace OrphanedCode.TelemetryEvidence

/-- Files a usage under its method and canonical route, unless a usage is filed there already. -/
def fileUsage (index : Std.HashMap (String × String) TelemetryUsage) (u : TelemetryUsage) :
    Std.HashMap (String × String) TelemetryUsage :=
  index.insertIfNew (u.method, Route.canonical u.endpoint) u

/-- The usage filed under each method and canonical route. -/
def usageIndex (usage : List TelemetryUsage) : Std.HashMap (String × String) TelemetryUsage :=
  usage.foldl fileUsage ∅

/-- The usage that an endpoint meets. -/
def usageOf? (usage : List TelemetryUsage) (e : CodeEndpoint) : Option TelemetryUsage :=
  (usageIndex usage)[(e.method.name, Route.canonical e.route)]?

/-- The endpoints that telemetry never saw or saw without hits, in order. -/
def orphanedEndpoints (usage : List TelemetryUsage) (endpoints : List CodeEndpoint) :
    List OrphanFinding :=
  endpoints.filterMap fun e =>
    match usageOf? usage e with
    | none => some (.make (.endpoint e) .noTraces)
    | some u => if u.hitCount == 0 then some ((OrphanFinding.make (.endpoint e) .zeroHits).withUsage u) else none

end OrphanedCode.TelemetryEvidence
