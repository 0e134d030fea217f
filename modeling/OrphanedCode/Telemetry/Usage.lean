import OrphanedCode.Route.Normalize
import OrphanedCode.Text.Blank
import OrphanedCode.Text.Upper
import OrphanedCode.Telemetry.Timestamp
/-!
Route usage from request traces.

A trace names the requested resource, the HTTP method tag (if any), when the request started and
how long it took. Traces with an empty resource are ignored. The others are grouped by the
resource with its identifiers replaced and by the method key: the trimmed tag in upper case, or
`UNKNOWN` when the tag is absent or blank. Groups come out in increasing order of resource, then
method, as texts. A group counts its traces, keeps the start time of its first trace unless a later
trace started strictly later, and averages the durations.
-/

namespace OrphanedCode

/-- One request trace. -/
structure TraceRecord where
  resource : String
  method : Option String
  startTime : Float
  duration : Float

/-- The usage of one route. -/
structure TelemetryUsage where
  endpoint : String
  method : String
  hitCount : Nat
  lastAccessed : String
  avgResponseTime : Float

/-- The method a trace's tag stands for. -/
def TraceRecord.methodKey (t : TraceRecord) : String :=
  match t.method with
  | some m =>
    let m := Text.trim m
    if m.isEmpty then "UNKNOWN" else Text.upper m
  | none => "UNKNOWN"

/-- The key of a trace's group: the normalised resource and the method key. -/
def TraceRecord.groupKey (t : TraceRecord) : String × String :=
  (Route.normalizeResource t.resource, t.methodKey)

/-- What a group has gathered so far. -/
structure Tally where
  hits : Nat
  latest : Float
  totalDuration : Float

/-- The tally of a group's first trace. -/
def Tally.first (t : TraceRecord) : Tally :=
  ⟨1, t.startTime, 0.0 + t.duration⟩

/-- A tally with one more trace. -/
def Tally.add (a : Tally) (t : TraceRecord) : Tally :=
  ⟨a.hits + 1, if t.startTime > a.latest then t.startTime else a.latest,
    a.totalDuration + t.duration⟩

/-- The order of group keys: by resource, then by method. -/
def compareKeys (a b : String × String) : Ordering :=
  match compare a.1 b.1 with
  | .eq => compare a.2 b.2
  | o => o

/-- Adds a trace to the groups, which stay in increasing order of their keys. -/
def addToGroups (key : String × String) (t : TraceRecord) :
    List ((String × String) × Tally) → List ((String × String) × Tally)
  | [] => [(key, Tally.first t)]
  | (k, a) :: rest =>
    match compareKeys key k with
    | .lt => (key, Tally.first t) :: (k, a) :: rest
    | .eq => (k, a.add t) :: rest
    | .gt => (k, a) :: addToGroups key t rest

/-- The groups of a list of traces. -/
def groupTraces (traces : List TraceRecord) : List ((String × String) × Tally) :=
  (traces.filter (!·.resource.isEmpty)).foldl (fun gs t => addToGroups t.groupKey t gs) []

/-- The usage of every route that the traces hit, in increasing order of route and method. -/
def aggregateUsage (traces : List TraceRecord) : List TelemetryUsage :=
  (groupTraces traces).map fun ((endpoint, method), a) =>
    ⟨endpoint, method, a.hits, Timestamp.format a.latest, a.totalDuration / Float.ofNat a.hits⟩

end OrphanedCode
