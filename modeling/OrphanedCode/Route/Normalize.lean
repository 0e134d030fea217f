import OrphanedCode.Text.Lines
import OrphanedCode.Text.Alnum
/-!
Route keys: how a declared route and a requested path are brought to one form.

A path is first stripped: cut at its first `?` or `#`, then, when more than one byte is left, all
trailing slashes go. It is then cut into segments at its slashes; empty segments stay empty, and
the segments are joined back with slashes after a rule has rewritten each non-empty one.

* The resource rule replaces identifiers: a run of ASCII digits becomes `:id`, a UUID (five
  groups of 8, 4, 4, 4 and 12 hexadecimal digits joined by hyphens) becomes `:uuid`, and 24
  hexadecimal digits become `:objectId`.
* The route rule replaces placeholders: a last segment starting with `*` becomes `*`; a segment
  `:name…`, where the name is the longest run of alphanumeric characters and underscores and is not
  empty, becomes `:param…` (what follows the name is kept); a segment of more than two bytes
  wrapped in braces or angle brackets becomes `:param`.

The canonical key of a path applies the resource rule and then the route rule.
-/

namespace OrphanedCode.Route

/-- The text that stands for an identifier of some kind. -/
def idText : List Char := ":id".toList

/-- The text that stands for a UUID. -/
def uuidText : List Char := ":uuid".toList

/-- The text that stands for an object id. -/
def objectIdText : List Char := ":objectId".toList

/-- The text that stands for a placeholder. -/
def paramText : List Char := ":param".toList

/-- Whether a character is an ASCII hexadecimal digit. -/
def isHexDigit (c : Char) : Bool :=
  c.isDigit || ('a' ≤ c && c ≤ 'f') || ('A' ≤ c && c ≤ 'F')

/-- A path cut at its first `?` or `#`. -/
def beforeQuery (cs : List Char) : List Char :=
  cs.takeWhile fun c => c != '?' && c != '#'

/-- A path without its trailing slashes. -/
def dropTrailingSlashes (cs : List Char) : List Char :=
  (cs.reverse.dropWhile (· == '/')).reverse

/-- A path cut at its first `?` or `#` and, when more than one byte is left, without trailing
slashes. -/
def strip (cs : List Char) : List Char :=
  let p := beforeQuery cs
  if Text.byteLength p > 1 then dropTrailingSlashes p else p

/-- The segments of a path. -/
def segments (cs : List Char) : List (List Char) :=
  Text.splitChars '/' cs

/-- Segments joined with slashes. -/
def join (segs : List (List Char)) : List Char :=
  List.intercalate ['/'] segs

/-- Rewrites the non-empty segments of a stripped path by `rule`, which also learns whether the
segment is the last one. -/
def mapSegments (rule : List Char → Bool → List Char) (cs : List Char) : List Char :=
  let segs := segments (strip cs)
  join (segs.mapIdx fun i s => if s.isEmpty then [] else rule s (i + 1 == segs.length))

/-- Whether a segment is a run of ASCII digits. -/
def isNumeric (s : List Char) : Bool :=
  !s.isEmpty && s.all Char.isDigit

/-- Whether a segment is a UUID: hexadecimal groups of 8, 4, 4, 4 and 12 digits. -/
def isUuid (s : List Char) : Bool :=
  Text.byteLength s == 36 &&
    match Text.splitChars '-' s with
    | [a, b, c, d, e] =>
      [(a, 8), (b, 4), (c, 4), (d, 4), (e, 12)].all fun (g, n) => g.length == n && g.all isHexDigit
    | _ => false

/-- Whether a segment is an object id: 24 hexadecimal digits. -/
def isObjectId (s : List Char) : Bool :=
  s.length == 24 && s.all isHexDigit

/-- The resource rule for one segment. -/
def resourceSegment (s : List Char) : List Char :=
  if isNumeric s then idText
  else if isUuid s then uuidText
  else if isObjectId s then objectIdText
  else s

/-- Whether a character may stand in a placeholder name. -/
def isNameChar (c : Char) : Bool :=
  Text.isAlphanumeric c || c == '_'

/-- Whether a segment of more than two bytes starts with `first` and ends with `last`. -/
def isWrapped (s : List Char) (first last : Char) : Bool :=
  Text.byteLength s > 2 && s.head? == some first && s.getLast? == some last

/-- The route rule for one segment. -/
def routeSegment (s : List Char) (isLast : Bool) : List Char :=
  if isLast && s.head? == some '*' then ['*']
  else
    let wrapped := if isWrapped s '{' '}' || isWrapped s '<' '>' then paramText else s
    match s with
    | ':' :: rest =>
      let nameLength := (rest.takeWhile isNameChar).length
      if nameLength > 0 then paramText ++ rest.drop nameLength else wrapped
    | _ => wrapped

/-- A requested path with its identifiers replaced. -/
def normalizeResource (path : String) : String :=
  String.ofList (mapSegments (fun s _ => resourceSegment s) path.toList)

/-- A declared route with its placeholders replaced. -/
def normalizeRoute (path : String) : String :=
  String.ofList (mapSegments routeSegment path.toList)

/-- The key under which a declared route and a requested path meet. -/
def canonical (path : String) : String :=
  normalizeRoute (normalizeResource path)

end OrphanedCode.Route
