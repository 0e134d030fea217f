import OrphanedCode.Number.Decimal
/-!
YAML nodes, and the rules by which a scalar's text reads as a typed value.

A node is a scalar, a sequence or a mapping. A scalar keeps its text, how it was written and its
tag, if any, with the tag's handle already expanded (`!!int` is `tag:yaml.org,2002:int`). An alias
of a node that is still open where the alias stands (a node that contains an alias of itself)
is kept as a reference to the anchored node's number.

The typed readings follow the core schema, each on its own:

* null is `~`, `null`, `Null` or `NULL` (an empty scalar is null only where a reader says so);
* booleans are `true`, `True`, `TRUE`, `false`, `False`, `FALSE`;
* an unsigned integer is hexadecimal `0x`, octal `0o` or binary `0b`, or decimal without a
  leading zero, each with an optional `+` and below 2^64;
* a float is `.inf`, `-.inf`, `.nan` in their three spellings, or a decimal numeral with an
  optional sign that reads as a finite binary64.
-/

namespace OrphanedCode

/-- How a scalar is written. -/
inductive ScalarStyle where
  | plain
  | singleQuoted
  | doubleQuoted
  | literal
  | folded
  deriving DecidableEq, Repr, Inhabited

/-- A YAML node. -/
inductive YamlNode where
  | scalar (text : String) (style : ScalarStyle) (tag : Option String)
  | seq (items : List YamlNode)
  | map (entries : List (YamlNode × YamlNode))
  /-- An alias of the anchored node with this number, made inside that node. -/
  | alias (id : Nat)
  deriving Inhabited

namespace Yaml

/-- The empty plain scalar with no tag, which a missing value reads as. -/
def emptyScalar : YamlNode :=
  .scalar "" .plain none

/-- The full name of a tag of the core schema. -/
def coreTag (name : String) : String :=
  "tag:yaml.org,2002:" ++ name

/-- Whether a scalar's text is a null word. -/
def isNullWord (s : String) : Bool :=
  s == "~" || s == "null" || s == "Null" || s == "NULL"

/-- The boolean a scalar's text spells. -/
def boolOf? (s : String) : Option Bool :=
  if s == "true" || s == "True" || s == "TRUE" then some true
  else if s == "false" || s == "False" || s == "FALSE" then some false
  else none

/-- The value of digits in a base, when there are some and all are digits of it. -/
def radixValue? (base : Nat) (cs : List Char) : Option Nat :=
  if cs.isEmpty then none
  else cs.foldlM (fun acc c =>
    let d :=
      if c.isDigit then c.toNat - '0'.toNat
      else if 'a' ≤ c && c ≤ 'z' then c.toNat - 'a'.toNat + 10
      else if 'A' ≤ c && c ≤ 'Z' then c.toNat - 'A'.toNat + 10
      else 99
    if d < base then some (acc * base + d) else none) 0

/-- Whether text starts with a sign. -/
def startsSigned (cs : List Char) : Bool :=
  cs.head? == some '+' || cs.head? == some '-'

/-- Whether the text, less one sign, is a zero followed by more digits: such text is no number. -/
def zeroPadded (cs : List Char) : Bool :=
  let cs := match cs with
    | '+' :: r => r
    | '-' :: r => r
    | r => r
  cs.length > 1 && cs.head? == some '0' && (cs.drop 1).all Char.isDigit

/-- The unsigned 64-bit integer a scalar's text spells. -/
def unsignedOf? (s : String) : Option Nat :=
  let cs := s.toList
  let body := match cs with
    | '+' :: r => r
    | r => r
  let inRange (n : Nat) : Option Nat := if n < Nat.pow 2 64 then some n else none
  let radix (base : Nat) (digits : List Char) : Option Nat :=
    if startsSigned digits then none else (radixValue? base digits).bind inRange
  match body with
  | '0' :: 'x' :: r => radix 16 r
  | '0' :: 'o' :: r => radix 8 r
  | '0' :: 'b' :: r => radix 2 r
  | _ =>
    if startsSigned body || zeroPadded cs || !body.all Char.isDigit then none
    else (radixValue? 10 body).bind inRange

/-- The float a scalar's text spells; overflowing numerals and the words `inf` and `nan` are
not floats. -/
def floatOf? (s : String) : Option Float :=
  let cs := s.toList
  let unsigned := match cs with
    | '+' :: r => r
    | r => r
  if cs.take 2 == ['+', '+'] || cs.take 2 == ['+', '-'] then none
  else if [".inf", ".Inf", ".INF"].contains (String.ofList unsigned) then some (1.0 / 0.0)
  else if ["-.inf", "-.Inf", "-.INF"].contains s then some (-(1.0 / 0.0))
  else if [".nan", ".NaN", ".NAN"].contains s then some (0.0 / 0.0)
  else
    match Binary64.readDecimal? (String.ofList unsigned) with
    | some x =>
      let word := String.ofList (unsigned.map Char.toLower)
      if x.isNaN || x.isInf || word.startsWith "inf" || word.startsWith "nan" ||
          word.startsWith "-inf" || word.startsWith "-nan" || word.startsWith "+" then none
      else some x
    | none => none

/-- The name a local tag gives: the tag less its `!`, or `!` itself for the bare `!` tag. -/
def localTagName? : Option String → Option String
  | some t =>
    match t.toList with
    | '!' :: [] => some "!"
    | '!' :: r => some (String.ofList r)
    | _ => none
  | none => none

end Yaml

end OrphanedCode
