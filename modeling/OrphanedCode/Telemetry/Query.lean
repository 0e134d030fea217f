import OrphanedCode.Telemetry.Client
import OrphanedCode.Telemetry.TraceSearch
import OrphanedCode.Telemetry.Usage
import OrphanedCode.Telemetry.TimeRange
/-!
A usage query to the telemetry service, and how its reply is read.

A query asks the trace search path for one service over a window that ends now: the service, the
first and last second, and a limit of 1000 traces, form-encoded. Both keys travel as header
values, so they may hold tabs and any character from the space on except DEL; a key with another
control character stops the query before it is sent.

A reply with a status outside 200–299 is a failure that carries the body. A successful body is a
trace search response; the usage is aggregated from its traces. Replies with no status line a
client accepts (codes outside 100–999, or an informational 1xx that never ends) are transport
failures, and replies to 204 and 304 carry no body.

The current second and the exchange of a query for its reply come from outside the program: they
are a link whose effects live in a monad.
-/

namespace OrphanedCode

/-- The path of the trace search. -/
def traceSearchPath : String :=
  "/api/v1/traces/search"

/-- The most traces one query asks for. -/
def traceLimit : Nat :=
  1000

/-- Whether a text may be sent as a header value: tabs, and characters from the space on other
than DEL. -/
def headerSafe (s : String) : Bool :=
  s.all fun c => c == '\t' || (c.toNat ≥ 32 && c.toNat != 127)

/-- Whether a character stands for itself in form encoding. -/
def formPlain (c : Char) : Bool :=
  c.isAlphanum || c == '*' || c == '-' || c == '.' || c == '_'

/-- The two upper-case hexadecimal digits of a byte, after a percent sign. -/
def percentByte (b : UInt8) : String :=
  let digit (n : Nat) : Char := if n < 10 then Char.ofNat (48 + n) else Char.ofNat (55 + n)
  String.ofList ['%', digit (b.toNat / 16), digit (b.toNat % 16)]

/-- Form encoding: a space becomes `+`, ASCII letters, digits and `*-._` stay, and every other
UTF-8 byte becomes `%XX`. -/
def formEncode (s : String) : String :=
  String.join (s.toList.map fun c =>
    if c == ' ' then "+"
    else if formPlain c then c.toString
    else String.join (c.toString.toUTF8.toList.map percentByte))

/-- A usage query as sent: the form-encoded pairs of its query string, the length of its window
in seconds, and the two keys. -/
structure UsageQuery where
  pairs : List (String × String)
  window : Nat
  apiKey : String
  appKey : String

/-- A reply of the telemetry service: its status code and its body. -/
structure Reply where
  status : Nat
  body : String

/-- What a client takes from outside the program to query the service, with effects in `m`: the
current second, and an exchange that sends a query over HTTP and returns the reply, or the text of
the transport failure (a key that is no header value, a connection that fails, a body that does not
arrive). -/
structure ServiceLink (m : Type → Type) where
  now : m Int64
  exchange : UsageQuery → m (Except String Reply)

namespace TelemetryClient

/-- The query for a service over a time range whose window ends at the second `finish`. -/
def request (c : TelemetryClient) (service : String) (r : TimeRange) (finish : Int64) :
    UsageQuery :=
  let start := windowStart finish r
  ⟨[("service", formEncode service), ("start", toString start), ("end", toString finish),
    ("limit", toString traceLimit)], (finish.toInt - start.toInt).toNat, c.apiKey, c.appKey⟩

/-- The query as it is sent; none when a key cannot be sent as a header value. -/
def usageQuery (c : TelemetryClient) (service : String) (r : TimeRange) (finish : Int64) :
    Option UsageQuery :=
  if !(headerSafe c.apiKey && headerSafe c.appKey) then none
  else some (c.request service r finish)

/-- The traces a reply carries, or why it carries none. -/
def replyTraces (reply : Reply) : Except TelemetryError (List TraceRecord) :=
  if reply.status < 200 || reply.status > 999 then .error (.transport "")
  else
    let body := if reply.status == 204 || reply.status == 304 then "" else reply.body
    if reply.status ≥ 300 then .error (.status reply.status body)
    else
      match decodeTraceSearch body with
      | .ok traces => .ok traces
      | .error m => .error (.decode m)

/-- The usage a reply gives, or why it gives none. -/
def readReply (reply : Reply) : Except TelemetryError (List TelemetryUsage) :=
  (replyTraces reply).map aggregateUsage

end TelemetryClient

end OrphanedCode
