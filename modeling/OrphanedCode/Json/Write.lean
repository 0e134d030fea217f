import OrphanedCode.Json.Value
import OrphanedCode.Number.Layout
/-!
Writing JSON values.

A string escapes the quote, the backslash and every control character below U+0020 (`\b`, `\t`,
`\n`, `\f`, `\r` by name, the others as `\u00XX` with lower-case digits); all else is written as
it is, unless the style also asks for the line separators U+0085, U+2028 and U+2029 as escapes.
The compact form has no blanks. The pretty form puts each element and field on its own line,
indented by two spaces per level, writes `"key": value`, and writes an empty array or object as
`[]` or `{}`. Numbers are written by `Binary64.jsonText`, so that not-a-number and the infinities
become `null`.
-/

namespace OrphanedCode.Json

/-- How a document is laid out. -/
structure Style where
  /-- Whether elements and fields go on lines of their own, indented. -/
  pretty : Bool
  /-- Whether U+0085, U+2028 and U+2029 are written as escapes. -/
  escapeSeparators : Bool

/-- The compact layout of documents embedded in reports. -/
def compactStyle : Style := ⟨false, false⟩

/-- The indented layout of documents embedded in reports. -/
def prettyStyle : Style := ⟨true, false⟩

/-- Four lower-case hexadecimal digits. -/
def hex4 (n : Nat) : String :=
  let ds := Nat.toDigits 16 n
  String.ofList (List.replicate (4 - ds.length) '0' ++ ds)

/-- The written form of one character inside a JSON string. -/
def escapeChar (style : Style) (c : Char) : String :=
  match c with
  | '"' => "\\\""
  | '\\' => "\\\\"
  | '\n' => "\\n"
  | '\r' => "\\r"
  | '\t' => "\\t"
  | '\x08' => "\\b"
  | '\x0c' => "\\f"
  | _ =>
    if c.toNat < 0x20 then "\\u" ++ hex4 c.toNat
    else if style.escapeSeparators && (c.toNat == 0x85 || c.toNat == 0x2028 || c.toNat == 0x2029)
    then "\\u" ++ hex4 c.toNat
    else c.toString

/-- A string literal. -/
def quoteString (style : Style) (s : String) : String :=
  "\"" ++ String.join (s.toList.map (escapeChar style)) ++ "\""

/-- The line break and indentation before an element at nesting depth `depth`. -/
def lineBreak (style : Style) (depth : Nat) : String :=
  if style.pretty then "\n" ++ String.ofList (List.replicate (2 * depth) ' ') else ""

/-- The separator between a key and its value. -/
def keySeparator (style : Style) : String :=
  if style.pretty then ": " else ":"

mutual
/-- The text of a value whose elements sit at depth `depth + 1`. -/
def write (style : Style) (depth : Nat) : Json → String
  | .null => "null"
  | .bool b => if b then "true" else "false"
  | .nat n => Binary64.digitText n
  | .num x => Binary64.jsonText x
  | .str s => quoteString style s
  | .arr [] => "[]"
  | .arr (v :: vs) =>
    "[" ++ lineBreak style (depth + 1) ++ write style (depth + 1) v ++
      writeItems style (depth + 1) vs ++ lineBreak style depth ++ "]"
  | .obj [] => "\x7b\x7d"
  | .obj ((k, v) :: fs) =>
    "\x7b" ++ lineBreak style (depth + 1) ++ quoteString style k ++ keySeparator style ++
      write style (depth + 1) v ++ writeFields style (depth + 1) fs ++ lineBreak style depth ++ "\x7d"

/-- The elements after the first, each after a comma. -/
def writeItems (style : Style) (depth : Nat) : List Json → String
  | [] => ""
  | v :: vs => "," ++ lineBreak style depth ++ write style depth v ++ writeItems style depth vs

/-- The fields after the first, each after a comma. -/
def writeFields (style : Style) (depth : Nat) : List (String × Json) → String
  | [] => ""
  | (k, v) :: fs =>
    "," ++ lineBreak style depth ++ quoteString style k ++ keySeparator style ++
      write style depth v ++ writeFields style depth fs
end

/-- The compact text of a value. -/
def compact (v : Json) : String :=
  write compactStyle 0 v

/-- The indented text of a value. -/
def pretty (v : Json) : String :=
  write prettyStyle 0 v

end OrphanedCode.Json
