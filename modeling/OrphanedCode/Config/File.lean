import OrphanedCode.Config.Settings
import OrphanedCode.Json.Value
import OrphanedCode.Source.Path
import OrphanedCode.Toml.Read
import OrphanedCode.Yaml.Compose
/-!
Settings files, written in YAML or TOML.

Every setting is optional and takes its default when absent; unknown keys are skipped, and a key
given twice in one table is an error. The format is chosen by the file's extension: `yml` and
`yaml` are YAML, `toml` is TOML, and any other name is tried as YAML first and then as TOML.

Both formats are decoded by one set of rules over a `SettingsSource`, which says how a value of
the format reads as each kind of setting. The formats differ in what they accept:

* in YAML, text settings take any scalar; booleans and numbers must be plain scalars, or literal
  block scalars tagged with their core type; an optional text is absent when it is a plain null
  (`~`, `null`, or empty and untagged); the mode is a scalar naming it, or a local tag naming it
  on a plain null scalar; a list or a table may also be an empty plain scalar, which reads as
  empty;
* in TOML, text settings take strings only; a number setting takes an integer or a float, a count
  a non-negative integer; a table setting may also be an array of its settings in order, or a
  date, which reads as a table of no known settings; the mode may also be a table holding only
  the mode's name mapped to an empty table or array.
-/

namespace OrphanedCode

/-- How the values of a document format read as settings. -/
structure SettingsSource (V : Type) where
  /-- A text setting. -/
  text : V → Option String
  /-- An optional text setting: `some none` when the value stands for absence. -/
  optText : V → Option (Option String)
  /-- A boolean setting. -/
  flag : V → Option Bool
  /-- A number setting. -/
  real : V → Option Float
  /-- A count setting. -/
  count : V → Option Nat
  /-- A list of texts. -/
  texts : V → Option (List String)
  /-- The mode of a run. -/
  mode : V → Option AnalysisMode
  /-- The entries of a table of settings whose names, in order, are given. -/
  fields : List String → V → Option (List (String × V))

namespace SettingsSource

variable {V : Type} (src : SettingsSource V)

/-- Whether no known setting is given twice. -/
def distinctKnown (names : List String) (entries : List (String × V)) : Bool :=
  let known := (entries.map Prod.fst).filter names.contains
  known.eraseDups.length == known.length

/-- The names of the telemetry settings. -/
def telemetryNames : List String :=
  ["api_key", "app_key", "site", "service_name", "time_range"]

/-- The names of the report settings. -/
def reportNames : List String :=
  ["max_table_rows", "max_annotations", "annotation_confidence"]

/-- The names of the settings of a run. -/
def configNames : List String :=
  ["mode", "exclude", "confidence_threshold", "output", "respect_gitignore", "telemetry",
    "report"]

/-- Reads telemetry settings. -/
def telemetry (v : V) : Option TelemetrySettings := do
  let entries ← src.fields telemetryNames v
  if !distinctKnown telemetryNames entries then none
  entries.foldlM (fun (t : TelemetrySettings) (k, x) =>
    match k with
    | "api_key" => do pure { t with apiKey := ← src.optText x }
    | "app_key" => do pure { t with appKey := ← src.optText x }
    | "site" => do pure { t with site := ← src.text x }
    | "service_name" => do pure { t with serviceName := ← src.optText x }
    | "time_range" => do pure { t with timeRange := ← src.text x }
    | _ => pure t) {}

/-- Reads report settings. -/
def report (v : V) : Option ReportLimits := do
  let entries ← src.fields reportNames v
  if !distinctKnown reportNames entries then none
  entries.foldlM (fun (r : ReportLimits) (k, x) =>
    match k with
    | "max_table_rows" => do pure { r with maxTableRows := ← src.count x }
    | "max_annotations" => do pure { r with maxAnnotations := ← src.count x }
    | "annotation_confidence" => do pure { r with annotationConfidence := ← src.real x }
    | _ => pure r) {}

/-- Reads the settings of a run. -/
def config (v : V) : Option Config := do
  let entries ← src.fields configNames v
  if !distinctKnown configNames entries then none
  entries.foldlM (fun (c : Config) (k, x) =>
    match k with
    | "mode" => do pure { c with mode := ← src.mode x }
    | "exclude" => do pure { c with exclude := ← src.texts x }
    | "confidence_threshold" => do pure { c with confidenceThreshold := ← src.real x }
    | "output" => do pure { c with output := ← src.optText x }
    | "respect_gitignore" => do pure { c with respectGitignore := ← src.flag x }
    | "telemetry" => do pure { c with telemetry := ← src.telemetry x }
    | "report" => do pure { c with report := ← src.report x }
    | _ => pure c) {}

end SettingsSource

namespace Yaml

/-- The text of a scalar. -/
def scalarText? : YamlNode → Option String
  | .scalar s _ _ => some s
  | _ => none

/-- The text of a scalar that may be read as a typed value whose core tag is `core`: a plain
scalar with any tag, or a literal block scalar with exactly that tag. -/
def typedText? (core : String) : YamlNode → Option String
  | .scalar s .plain _ => some s
  | .scalar s .literal (some t) => if t == coreTag core then some s else none
  | _ => none

/-- Whether a node is an empty plain scalar, which reads as an empty list or table. -/
def isEmptyPlain : YamlNode → Bool
  | .scalar "" .plain _ => true
  | _ => false

/-- An optional text: a plain null word, or an empty plain scalar with no tag, is absent; the
null tag requires a null word; any other scalar is its text. -/
def optionalText? : YamlNode → Option (Option String)
  | .scalar s .plain none => if s.isEmpty || isNullWord s then some none else some (some s)
  | .scalar s .plain (some t) =>
    if t == coreTag "null" then (if isNullWord s then some none else none) else some (some s)
  | .scalar s _ _ => some (some s)
  | _ => none

/-- The mode a scalar names: by a local tag on a plain null scalar, or by its text. -/
def modeOf? : YamlNode → Option AnalysisMode
  | .scalar s style tag =>
    match localTagName? tag with
    | some name =>
      if style == .plain && (s.isEmpty || isNullWord s) then AnalysisMode.ofName? name else none
    | none => AnalysisMode.ofName? s
  | _ => none

/-- How the nodes of a YAML document read as settings; an alias inside its own node is followed
to that node. -/
def settingsSource (d : Document) : SettingsSource YamlNode where
  text := fun n => scalarText? (d.resolve n)
  optText := fun n => optionalText? (d.resolve n)
  flag := fun n => (typedText? "bool" (d.resolve n)).bind boolOf?
  real := fun n => (typedText? "float" (d.resolve n)).bind floatOf?
  count := fun n => (typedText? "int" (d.resolve n)).bind unsignedOf?
  texts := fun n => match d.resolve n with
    | .seq items => items.mapM fun i => scalarText? (d.resolve i)
    | n => if isEmptyPlain n then some [] else none
  mode := fun n => modeOf? (d.resolve n)
  fields := fun _ n => match d.resolve n with
    | .map entries => entries.mapM fun (k, v) => (scalarText? (d.resolve k)).map fun s => (s, v)
    | n => if isEmptyPlain n then some [] else none

end Yaml

namespace Toml

/-- The text of a string value. -/
def stringOf? : TomlValue → Option String
  | .string s => some s
  | _ => none

/-- Whether a value is an empty table or an empty array. -/
def isEmptyContainer : TomlValue → Bool
  | .table [] => true
  | .array [] => true
  | _ => false

/-- How TOML values read as settings. -/
def settingsSource : SettingsSource TomlValue where
  text := stringOf?
  optText := fun v => (stringOf? v).map some
  flag := fun
    | .boolean b => some b
    | _ => none
  real := fun
    | .integer i => some (Float.ofInt i)
    | .float x => some x
    | _ => none
  count := fun
    | .integer i => if 0 ≤ i then some i.toNat else none
    | _ => none
  texts := fun
    | .array items => items.mapM stringOf?
    | _ => none
  mode := fun
    | .string s => AnalysisMode.ofName? s
    | .table [(k, v)] => if isEmptyContainer v then AnalysisMode.ofName? k else none
    | _ => none
  fields := fun names v => match v with
    | .table entries => some entries
    | .array items => some (names.zip items)
    | .datetime _ => some []
    | _ => none

end Toml

/-- Reads YAML settings: a document that is a table, or none at all. -/
def Config.ofYaml? (text : String) : Option Config :=
  match Yaml.readStream text with
  | none => none
  | some none => some {}
  | some (some d) => (Yaml.settingsSource d).config d.root

/-- Reads TOML settings. -/
def Config.ofToml? (text : String) : Option Config :=
  (TomlValue.read? text).bind Toml.settingsSource.config

/-- The format a settings file is read in. -/
inductive ConfigFormat where
  | yaml
  | toml
  /-- YAML, or TOML when the text is no YAML settings. -/
  | either
  deriving DecidableEq, Repr

/-- The format for a file name, by its extension. -/
def ConfigFormat.ofFileName (name : String) : ConfigFormat :=
  match SourcePath.extension? name with
  | some "yml" => .yaml
  | some "yaml" => .yaml
  | some "toml" => .toml
  | _ => .either

/-- The message when a file of this format cannot be read as settings. -/
def ConfigFormat.failure : ConfigFormat → String
  | .yaml => "Failed to parse YAML config"
  | .toml => "Failed to parse TOML config"
  | .either => "Failed to parse config file"

/-- Reads settings in a format, or gives the message of why they cannot be read. -/
def Config.read (format : ConfigFormat) (text : String) : Except String Config :=
  let found :=
    match format with
    | .yaml => Config.ofYaml? text
    | .toml => Config.ofToml? text
    | .either => (Config.ofYaml? text).orElse fun _ => Config.ofToml? text
  match found with
  | some c => .ok c
  | none => .error format.failure

/-- Telemetry settings as a JSON object. -/
def TelemetrySettings.toJson (t : TelemetrySettings) : Json :=
  .obj [("api_key", Json.ofOption t.apiKey), ("app_key", Json.ofOption t.appKey),
    ("site", .str t.site), ("service_name", Json.ofOption t.serviceName),
    ("time_range", .str t.timeRange)]

/-- Report limits as a JSON object. -/
def ReportLimits.toJson (r : ReportLimits) : Json :=
  .obj [("max_table_rows", .nat r.maxTableRows), ("max_annotations", .nat r.maxAnnotations),
    ("annotation_confidence", .num r.annotationConfidence)]

/-- The settings of a run as a JSON object. -/
def Config.toJson (c : Config) : Json :=
  .obj [("mode", .str c.mode.name), ("exclude", .arr (c.exclude.map Json.str)),
    ("confidence_threshold", .num c.confidenceThreshold), ("output", Json.ofOption c.output),
    ("respect_gitignore", .bool c.respectGitignore), ("telemetry", c.telemetry.toJson),
    ("report", c.report.toJson)]

end OrphanedCode
