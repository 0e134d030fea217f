import OrphanedCode.Json.Reader
import OrphanedCode.Telemetry.Usage
/-!
Trace search responses: the body that the telemetry service answers a search with.

A response is an object whose optional `traces` member is `null` or an array of traces; a trace
is an object with the optional members `resource` (a string or `null`), `start_time` and
`duration` (numbers, zero when absent) and `tags` (an object of any values, or `null`). Other
members are skipped, a repeated member of a response or a trace is an error, and of repeated
tags the last one counts. A response or trace may also be an array of its members in that order,
missing ones taking their defaults.

A trace becomes a record when it has a non-empty resource and tags; its method is the
`http.method` tag when that is a string. Errors are reported as a typed decoder reports them,
with their line and column.
-/

namespace OrphanedCode

/-- One trace of a search response, as read. -/
structure TraceEntry where
  resource : Option String
  startTime : Float
  duration : Float
  tags : Option (List (String × Json))

/-- The record of a trace, when it has a non-empty resource and tags. -/
def TraceEntry.record? (t : TraceEntry) : Option TraceRecord :=
  match t.resource, t.tags with
  | some r, some tags =>
    if r.isEmpty then none
    else
      let method := match tags.lookup "http.method" with
        | some (.str m) => some m
        | _ => none
      some { resource := r, method, startTime := t.startTime, duration := t.duration }
  | _, _ => none

/-- The members of a trace read so far; a member read twice is an error. -/
structure TraceSlots where
  resource : Option (Option String) := none
  startTime : Option Float := none
  duration : Option Float := none
  tags : Option (Option (List (String × Json))) := none

/-- The trace of its members, absent ones taking their defaults. -/
def TraceSlots.entry (s : TraceSlots) : TraceEntry :=
  ⟨s.resource.getD none, s.startTime.getD 0.0, s.duration.getD 0.0, s.tags.getD none⟩

namespace TraceSearch

open Json

/-- Reads `null` as absent, and otherwise the value `some` reads. -/
def optional {α : Type} (inner : Reader α) : Reader (Option α) := do
  match ← peekCharAfterBlanks with
  | some 'n' => do
    eat
    readIdent ['u', 'l', 'l']
    pure none
  | _ => Option.some <$> inner

/-- Reads a string. -/
def readText : Reader String := placed do
  match ← peekCharAfterBlanks with
  | none => failAhead .eofWhileParsingValue
  | some '"' => do
    eat
    readStringBody
  | some _ => failWrongType "a string"

/-- Reads a number as a binary64 value. -/
def readFloat : Reader Float := placed do
  match ← peekCharAfterBlanks with
  | none => failAhead .eofWhileParsingValue
  | some '-' => do
    eat
    pure (← readNumber false).toFloat
  | some c => do
    if c.isDigit then pure (← readNumber true).toFloat else failWrongType "f64"

/-- Reads the members of a tag object after its brace. -/
def readTagFields : Nat → Bool → List (String × Json) → Reader (List (String × Json))
  | 0, _, _ => outOfFuel
  | fuel + 1, first, acc => do
    if ← hasNextKey first then
      let k ← readKey
      objectColon
      let v ← readAny fuel
      readTagFields fuel false (setField k v acc)
    else pure acc

/-- Reads a tag object. -/
def readTags (fuel : Nat) : Reader (List (String × Json)) := placed do
  match ← peekCharAfterBlanks with
  | none => failAhead .eofWhileParsingValue
  | some '{' => nested (readTagFields fuel true []) endMap
  | some _ => failWrongType "a map"

/-- Reads the members of a trace object after its brace. -/
def readTraceFields : Nat → Bool → TraceSlots → Reader TraceEntry
  | 0, _, _ => outOfFuel
  | fuel + 1, first, slots => do
    if ← hasNextKey first then
      let k ← readKey
      match k with
      | "resource" =>
        if slots.resource.isSome then failUnplaced (.duplicateField "resource")
        objectColon
        let v ← optional readText
        readTraceFields fuel false { slots with resource := some v }
      | "start_time" =>
        if slots.startTime.isSome then failUnplaced (.duplicateField "start_time")
        objectColon
        let v ← readFloat
        readTraceFields fuel false { slots with startTime := some v }
      | "duration" =>
        if slots.duration.isSome then failUnplaced (.duplicateField "duration")
        objectColon
        let v ← readFloat
        readTraceFields fuel false { slots with duration := some v }
      | "tags" =>
        if slots.tags.isSome then failUnplaced (.duplicateField "tags")
        objectColon
        let v ← optional (readTags fuel)
        readTraceFields fuel false { slots with tags := some v }
      | _ =>
        objectColon
        skipValue fuel
        readTraceFields fuel false slots
    else pure slots.entry

/-- Reads the members of a trace array, in order, after its bracket. -/
def readTraceItems (fuel : Nat) : Reader TraceEntry := do
  let resource ← if ← hasNextElement true then optional readText else pure none
  let startTime ← if ← hasNextElement false then readFloat else pure 0.0
  let duration ← if ← hasNextElement false then readFloat else pure 0.0
  let tags ← if ← hasNextElement false then optional (readTags fuel) else pure none
  pure ⟨resource, startTime, duration, tags⟩

/-- Reads a trace. -/
def readTrace (fuel : Nat) : Reader TraceEntry := placed do
  match ← peekCharAfterBlanks with
  | none => failAhead .eofWhileParsingValue
  | some '[' => nested (readTraceItems fuel) endSeq
  | some '{' => nested (readTraceFields fuel true {}) endMap
  | some _ => failWrongType "struct ApmTrace"

/-- Reads the traces of an array after its bracket. -/
def readTraceList : Nat → Bool → List TraceEntry → Reader (List TraceEntry)
  | 0, _, _ => outOfFuel
  | fuel + 1, first, acc => do
    if ← hasNextElement first then
      let t ← readTrace fuel
      readTraceList fuel false (t :: acc)
    else pure acc.reverse

/-- Reads an array of traces. -/
def readTraces (fuel : Nat) : Reader (List TraceEntry) := placed do
  match ← peekCharAfterBlanks with
  | none => failAhead .eofWhileParsingValue
  | some '[' => nested (readTraceList fuel true []) endSeq
  | some _ => failWrongType "a sequence"

/-- Reads the members of a response object after its brace. -/
def readResponseFields : Nat → Bool → Option (Option (List TraceEntry)) →
    Reader (Option (List TraceEntry))
  | 0, _, _ => outOfFuel
  | fuel + 1, first, slot => do
    if ← hasNextKey first then
      let k ← readKey
      if k == "traces" then
        if slot.isSome then failUnplaced (.duplicateField "traces")
        objectColon
        let v ← optional (readTraces fuel)
        readResponseFields fuel false (some v)
      else
        objectColon
        skipValue fuel
        readResponseFields fuel false slot
    else pure (slot.getD none)

/-- Reads a response: its traces, absent when it has none. -/
def readResponse (fuel : Nat) : Reader (Option (List TraceEntry)) := placed do
  match ← peekCharAfterBlanks with
  | none => failAhead .eofWhileParsingValue
  | some '[' =>
    nested (do if ← hasNextElement true then optional (readTraces fuel) else pure none) endSeq
  | some '{' => nested (readResponseFields fuel true none) endMap
  | some _ => failWrongType "struct TraceSearchResponse"

end TraceSearch

/-- The records of a trace search response body, or the message of why it cannot be read. -/
def decodeTraceSearch (body : String) : Except String (List TraceRecord) :=
  let start := Json.Cursor.start body
  let run : Json.Reader (Option (List TraceEntry)) := do
    let traces ← TraceSearch.readResponse start.fuel
    Json.endOfText
    pure traces
  match run start with
  | .ok traces _ => .ok ((traces.getD []).filterMap TraceEntry.record?)
  | .error e _ => .error (e.message start.bytes)

/-- A trace record as a JSON object. -/
def TraceRecord.toJson (t : TraceRecord) : Json :=
  .obj [("resource", .str t.resource), ("method", Json.ofOption t.method),
    ("start_time", .num t.startTime), ("duration", .num t.duration)]

end OrphanedCode
