import OrphanedCode.Config.Settings
import OrphanedCode.Number.Binary64
/-!
The telemetry service client: its address, its credentials, the window of a query, and the ways a
query can fail.

A client needs both keys; an empty key is accepted, an absent one is not (the API key is asked for
first). Its address is `https://api.<site>` unless another one is given, from which trailing
slashes are dropped. A query over a time range ends now and starts the range's seconds earlier, in
64-bit signed words whose conversion and subtraction saturate instead of overflowing.
-/

namespace OrphanedCode

/-- A reason why usage telemetry is unavailable. -/
inductive TelemetryError where
  | invalidTimeRange (text : String)
  | transport (detail : String)
  | status (code : Nat) (body : String)
  | decode (detail : String)
  | missingCredentials (what : String)

/-- The message of a telemetry failure. -/
def TelemetryError.message : TelemetryError → String
  | .invalidTimeRange s => invalidTimeRangeMessage s
  | .transport d => "Telemetry request failed: " ++ d
  | .status c b => "Telemetry API returned " ++ Binary64.digitText c ++ ": " ++ b
  | .decode d => "Failed to decode telemetry response: " ++ d
  | .missingCredentials w => "Telemetry credentials are missing: " ++ w

/-- A telemetry service client. -/
structure TelemetryClient where
  baseUrl : String
  apiKey : String
  appKey : String

namespace TelemetryClient

/-- The address of the service for a site. -/
def siteUrl (site : String) : String :=
  "https://api." ++ site

/-- An address without its trailing slashes. -/
def trimSlashes (url : String) : String :=
  String.ofList (url.toList.reverse.dropWhile (· == '/')).reverse

/-- A client for the settings, when both keys are present. -/
def ofSettings (t : TelemetrySettings) : Except TelemetryError TelemetryClient :=
  match t.apiKey, t.appKey with
  | none, _ => .error (.missingCredentials "api key")
  | some _, none => .error (.missingCredentials "application key")
  | some api, some app => .ok ⟨siteUrl t.site, api, app⟩

/-- The same client at another address. -/
def withBaseUrl (c : TelemetryClient) (url : String) : TelemetryClient :=
  { c with baseUrl := trimSlashes url }

/-- The first second of a query window that ends at `finish` and spans the range: the range's
seconds as a signed word, subtracted with saturation. -/
def windowStart (finish : Int64) (r : TimeRange) : Int64 :=
  Word.subSat finish (Word.toSignedOrMax r.seconds)

end TelemetryClient

end OrphanedCode
