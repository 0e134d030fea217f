import OrphanedCode.Code.Item
import OrphanedCode.Json.Value
/-!
Declarations as JSON objects, with their fields in a fixed order: an endpoint's `language`,
`file`, `start_line`, `end_line`, `snippet`, `method`, `route`, `handler_name`, `framework_hint`
and `confidence`, and a function's `language`, `file`, `start_line`, `end_line`, `snippet`,
`function_name`, `is_exported`, `references` and `confidence`.
-/

namespace OrphanedCode

/-- A place as a JSON object. -/
def ReferenceSite.toJson (r : ReferenceSite) : Json :=
  .obj [("line", .nat r.line), ("column", .nat r.column)]

/-- The fields of an endpoint. -/
def CodeEndpoint.fields (e : CodeEndpoint) : List (String × Json) :=
  [("language", .str e.language.name), ("file", .str e.file), ("start_line", .nat e.startLine),
    ("end_line", .nat e.endLine), ("snippet", .str e.snippet), ("method", .str e.method.name),
    ("route", .str e.route), ("handler_name", Json.ofOption e.handler),
    ("framework_hint", .str e.framework.name), ("confidence", .num e.confidence)]

/-- The fields of a function. -/
def CodeFunction.fields (f : CodeFunction) : List (String × Json) :=
  [("language", .str f.language.name), ("file", .str f.file), ("start_line", .nat f.startLine),
    ("end_line", .nat f.endLine), ("snippet", .str f.snippet), ("function_name", .str f.name),
    ("is_exported", .bool f.isExported), ("references", .arr (f.references.map (·.toJson))),
    ("confidence", .num f.confidence)]

/-- An endpoint as a JSON object. -/
def CodeEndpoint.toJson (e : CodeEndpoint) : Json :=
  .obj e.fields

/-- A function as a JSON object. -/
def CodeFunction.toJson (f : CodeFunction) : Json :=
  .obj f.fields

end OrphanedCode
