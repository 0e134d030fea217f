import OrphanedCode.Toml.Value
import OrphanedCode.Number.Decimal
/-!
Reading TOML text into a document.

A document is a sequence of lines, each blank, a comment, a header `[key]` or `[[key]]`, or a
key-value pair, each optionally followed by a comment. Keys are bare (letters, digits, `_`, `-`)
or quoted, and may be dotted. Values are strings (basic, literal, and their multi-line forms),
integers (decimal with an optional sign, or hexadecimal, octal, binary), floats (with a fraction
or an exponent, or `inf` and `nan` with an optional sign), booleans, dates and times, arrays
(which may span lines and hold comments) and inline tables (on one line, with no trailing comma).
In numbers an underscore must stand between two digits, and a decimal integer part has no
leading zero; a positive float beyond the largest binary64 is refused, while a negative one
reads as minus infinity. Comments and strings may not hold control characters other than the tab.

The reader only says whether the text is a document and which; every loop runs on fuel of the
text's length.
-/

namespace OrphanedCode.Toml

/-- Whether a character is a blank within a line. -/
def isBlank (c : Char) : Bool :=
  c == ' ' || c == '\t'

/-- Drops blanks within a line. -/
def skipBlanks (cs : List Char) : List Char :=
  cs.dropWhile isBlank

/-- Whether a character may stand in a comment. -/
def commentChar (c : Char) : Bool :=
  c == '\t' || (c.toNat ≥ 0x20 && c.toNat != 0x7F)

/-- Drops a comment, if one starts here, up to the end of its line. -/
def skipComment (cs : List Char) : List Char :=
  match cs with
  | '#' :: rest => rest.dropWhile commentChar
  | _ => cs

/-- The end of a line after a value or header: blanks, a comment, then a line break or the end. -/
def lineEnd (cs : List Char) : Option (List Char) :=
  match skipComment (skipBlanks cs) with
  | [] => some []
  | '\n' :: rest => some rest
  | '\r' :: '\n' :: rest => some rest
  | _ => none

/-- Drops blanks, comments and line breaks, as between the values of an array. -/
def skipLayout : Nat → List Char → Option (List Char)
  | 0, _ => none
  | fuel + 1, cs =>
    match skipComment (skipBlanks cs) with
    | '\n' :: rest => skipLayout fuel rest
    | '\r' :: '\n' :: rest => skipLayout fuel rest
    | '\r' :: _ => none
    | rest => some rest

/-- Whether a character may stand in a bare key. -/
def isBareKeyChar (c : Char) : Bool :=
  (c.isAlphanum && c.toNat < 128) || c == '_' || c == '-'

/-- Whether a character may stand unescaped in a basic string. -/
def basicChar (c : Char) : Bool :=
  c == '\t' || (c.toNat ≥ 0x20 && c.toNat != 0x7F && c != '"' && c != '\\')

/-- Whether a character may stand in a literal string. -/
def literalChar (c : Char) : Bool :=
  c == '\t' || (c.toNat ≥ 0x20 && c.toNat != 0x7F && c != '\x27')

/-- The value of hexadecimal digits. -/
def hexValue? (ds : List Char) : Option Nat :=
  ds.foldlM (fun acc d =>
    if d.isDigit then some (acc * 16 + (d.toNat - '0'.toNat))
    else if 'a' ≤ d && d ≤ 'f' then some (acc * 16 + (d.toNat - 'a'.toNat + 10))
    else if 'A' ≤ d && d ≤ 'F' then some (acc * 16 + (d.toNat - 'A'.toNat + 10))
    else none) 0

/-- A code point given by `n` hexadecimal digits, when it is a Unicode scalar value. -/
def codePoint? (n : Nat) (cs : List Char) : Option (Char × List Char) := do
  if cs.length < n then none
  let v ← hexValue? (cs.take n)
  if v ≥ 0xD800 && v ≤ 0xDFFF || v > 0x10FFFF then none
  pure (Char.ofNat v, cs.drop n)

/-- Reads an escape after its backslash. -/
def escape (cs : List Char) : Option (Char × List Char) :=
  match cs with
  | 'b' :: rest => some ('\x08', rest)
  | 't' :: rest => some ('\t', rest)
  | 'n' :: rest => some ('\n', rest)
  | 'f' :: rest => some ('\x0C', rest)
  | 'r' :: rest => some ('\r', rest)
  | '"' :: rest => some ('"', rest)
  | '\\' :: rest => some ('\\', rest)
  | 'u' :: rest => codePoint? 4 rest
  | 'U' :: rest => codePoint? 8 rest
  | _ => none

/-- Reads the rest of a basic string after its opening quote. -/
def basicString : Nat → List Char → List Char → Option (String × List Char)
  | 0, _, _ => none
  | _ + 1, [], _ => none
  | _ + 1, '"' :: rest, acc => some (String.ofList acc.reverse, rest)
  | fuel + 1, '\\' :: rest, acc => do
    let (c, rest) ← escape rest
    basicString fuel rest (c :: acc)
  | fuel + 1, c :: rest, acc => if basicChar c then basicString fuel rest (c :: acc) else none

/-- Reads the rest of a literal string after its opening quote. -/
def literalString (cs : List Char) : Option (String × List Char) :=
  let body := cs.takeWhile literalChar
  match cs.drop body.length with
  | '\x27' :: rest => some (String.ofList body, rest)
  | _ => none

/-- Drops a line break right after the opening quotes of a multi-line string. -/
def dropFirstBreak (cs : List Char) : List Char :=
  match cs with
  | '\n' :: rest => rest
  | '\r' :: '\n' :: rest => rest
  | _ => cs

/-- Ends a multi-line string at a run of `q` quotes, of which up to two belong to the string. -/
def closeQuotes (q : Char) (cs : List Char) (acc : List Char) : Option (String × List Char) :=
  let run := (cs.takeWhile (· == q)).length
  if run > 5 then none
  else some (String.ofList (acc.reverse ++ List.replicate (run - 3) q), cs.drop run)

/-- Drops blanks and line breaks after a line-ending backslash. -/
def trimAfterBackslash (cs : List Char) : List Char :=
  cs.dropWhile fun c => c == ' ' || c == '\t' || c == '\n' || c == '\r'

/-- Whether a backslash ends its line: only blanks follow it before a line break. -/
def endsLine (cs : List Char) : Bool :=
  match skipBlanks cs with
  | '\n' :: _ => true
  | '\r' :: '\n' :: _ => true
  | _ => false

/-- Reads the body of a multi-line basic string. -/
def multiBasic : Nat → List Char → List Char → Option (String × List Char)
  | 0, _, _ => none
  | _ + 1, [], _ => none
  | _ + 1, '"' :: '"' :: '"' :: rest, acc => closeQuotes '"' ('"' :: '"' :: '"' :: rest) acc
  | fuel + 1, '\\' :: rest, acc =>
    if endsLine rest then multiBasic fuel (trimAfterBackslash rest) acc
    else do
      let (c, rest) ← escape rest
      multiBasic fuel rest (c :: acc)
  | fuel + 1, '\n' :: rest, acc => multiBasic fuel rest ('\n' :: acc)
  | fuel + 1, '\r' :: '\n' :: rest, acc => multiBasic fuel rest ('\n' :: acc)
  | fuel + 1, c :: rest, acc =>
    if c == '"' || basicChar c then multiBasic fuel rest (c :: acc) else none

/-- Reads the body of a multi-line literal string. -/
def multiLiteral : Nat → List Char → List Char → Option (String × List Char)
  | 0, _, _ => none
  | _ + 1, [], _ => none
  | _ + 1, '\x27' :: '\x27' :: '\x27' :: rest, acc =>
    closeQuotes '\x27' ('\x27' :: '\x27' :: '\x27' :: rest) acc
  | fuel + 1, '\n' :: rest, acc => multiLiteral fuel rest ('\n' :: acc)
  | fuel + 1, '\r' :: '\n' :: rest, acc => multiLiteral fuel rest ('\n' :: acc)
  | fuel + 1, c :: rest, acc =>
    if c == '\x27' || literalChar c then multiLiteral fuel rest (c :: acc) else none

/-- Reads one key, bare or quoted. -/
def simpleKey (cs : List Char) : Option (String × List Char) :=
  match cs with
  | '"' :: rest => basicString (rest.length + 1) rest []
  | '\x27' :: rest => literalString rest
  | _ =>
    let k := cs.takeWhile isBareKeyChar
    if k.isEmpty then none else some (String.ofList k, cs.drop k.length)

/-- Reads a key, dotted or not. -/
def dottedKey : Nat → List Char → Option (List String × List Char)
  | 0, _ => none
  | fuel + 1, cs => do
    let (k, rest) ← simpleKey cs
    match skipBlanks rest with
    | '.' :: more => do
      let (ks, rest) ← dottedKey fuel (skipBlanks more)
      pure (k :: ks, rest)
    | _ => pure ([k], rest)

/-- Reads digits in which an underscore may stand between two digits; gives the digits. -/
def digitRun (isDigit : Char → Bool) (cs : List Char) : Option (List Char × List Char) :=
  match cs with
  | c :: rest => if isDigit c then some (go rest [c]) |>.bind id else none
  | [] => none
where
  go : List Char → List Char → Option (List Char × List Char)
    | '_' :: d :: rest, acc => if isDigit d then go rest (d :: acc) else none
    | d :: rest, acc => if isDigit d then go rest (d :: acc) else some (acc.reverse, d :: rest)
    | [], acc => some (acc.reverse, [])

/-- Whether a character is a hexadecimal digit. -/
def isHexDigit (c : Char) : Bool :=
  c.isDigit || ('a' ≤ c && c ≤ 'f') || ('A' ≤ c && c ≤ 'F')

/-- The value of digits in a base. -/
def digitsValue (base : Nat) (ds : List Char) : Nat :=
  ds.foldl (fun acc d => acc * base + ((hexValue? [d]).getD 0)) 0

/-- An integer that fits 64 bits. -/
def integer? (n : Int) : Option TomlValue :=
  if -(Int.pow 2 63) ≤ n && n < Int.pow 2 63 then some (.integer n) else none

/-- Reads a whole number written in base 16, 8 or 2 after its prefix. -/
def radixInteger (base : Nat) (isDigit : Char → Bool) (cs : List Char) :
    Option (TomlValue × List Char) := do
  let (ds, rest) ← digitRun isDigit cs
  let v ← integer? (digitsValue base ds)
  pure (v, rest)

/-- Reads a decimal integer or float after its sign. -/
def decimalNumber (negative : Bool) (cs : List Char) : Option (TomlValue × List Char) := do
  let (whole, rest) ← digitRun Char.isDigit cs
  if whole.length > 1 && whole.head? == some '0' then none
  let (fraction, rest) ←
    match rest with
    | '.' :: more => do
      let (f, r) ← digitRun Char.isDigit more
      pure (some f, r)
    | _ => pure (none, rest)
  let (shift, rest) ←
    match rest with
    | e :: more =>
      if e == 'e' || e == 'E' then do
        let (neg, more) :=
          match more with
          | '+' :: r => (false, r)
          | '-' :: r => (true, r)
          | r => (false, r)
        let (ds, r) ← digitRun Char.isDigit more
        let k := Binary64.digitValue ds
        pure (some (if neg then -(k : Int) else k), r)
      else pure (none, rest)
    | [] => pure (none, rest)
  match fraction, shift with
  | none, none =>
    let n := Binary64.digitValue whole
    let v ← integer? (if negative then -(n : Int) else n)
    pure (v, rest)
  | _, _ =>
    let f := fraction.getD []
    let x := Binary64.ofDecimal (Binary64.digitValue (whole ++ f)) (shift.getD 0 - f.length)
    -- a positive float too large for a binary64 is refused; a negative one reads as -inf
    if !negative && x.isInf then none
    pure (.float (Binary64.withSign negative x), rest)

/-- The number of days in a month. -/
def monthDays (year month : Nat) : Nat :=
  if month == 2 then
    if year % 4 == 0 && (year % 100 != 0 || year % 400 == 0) then 29 else 28
  else if month == 4 || month == 6 || month == 9 || month == 11 then 30
  else 31

/-- Reads `n` digits. -/
def fixedDigits (n : Nat) (cs : List Char) : Option (Nat × List Char) :=
  let ds := cs.take n
  if ds.length == n && ds.all Char.isDigit then some (Binary64.digitValue ds, cs.drop n)
  else none

/-- Reads a time of day `HH:MM:SS` with an optional fraction of a second. -/
def timeOfDay (cs : List Char) : Option (List Char) := do
  let (h, rest) ← fixedDigits 2 cs
  let rest ← match rest with
    | ':' :: r => some r
    | _ => none
  let (m, rest) ← fixedDigits 2 rest
  let rest ← match rest with
    | ':' :: r => some r
    | _ => none
  let (s, rest) ← fixedDigits 2 rest
  if h > 23 || m > 59 || s > 60 then none
  match rest with
  | '.' :: r =>
    let ds := r.takeWhile Char.isDigit
    if ds.isEmpty then none else some (r.drop ds.length)
  | r => some r

/-- Reads a time offset, if one follows. -/
def timeOffset (cs : List Char) : Option (List Char) :=
  match cs with
  | 'Z' :: rest => some rest
  | 'z' :: rest => some rest
  | s :: rest =>
    if s == '+' || s == '-' then do
      let (h, rest) ← fixedDigits 2 rest
      let rest ← match rest with
        | ':' :: r => some r
        | _ => none
      let (m, rest) ← fixedDigits 2 rest
      if h > 23 || m > 59 then none else some rest
    else some cs
  | [] => some []

/-- Reads a date `YYYY-MM-DD`, with an optional time and offset. -/
def dateTime (cs : List Char) : Option (List Char) := do
  let (y, rest) ← fixedDigits 4 cs
  let rest ← match rest with
    | '-' :: r => some r
    | _ => none
  let (mo, rest) ← fixedDigits 2 rest
  let rest ← match rest with
    | '-' :: r => some r
    | _ => none
  let (d, rest) ← fixedDigits 2 rest
  if mo < 1 || mo > 12 || d < 1 || d > monthDays y mo then none
  match rest with
  | t :: more =>
    if t == 'T' || t == 't' || (t == ' ' && (fixedDigits 2 more).isSome) then do
      let r ← timeOfDay more
      timeOffset r
    else some rest
  | [] => some []

/-- Reads a number, date or time. -/
def numberOrDate (cs : List Char) : Option (TomlValue × List Char) :=
  let text (rest : List Char) := String.ofList (cs.take (cs.length - rest.length))
  match cs with
  | 'i' :: 'n' :: 'f' :: rest => some (.float (1.0 / 0.0), rest)
  | 'n' :: 'a' :: 'n' :: rest => some (.float (0.0 / 0.0), rest)
  | '+' :: 'i' :: 'n' :: 'f' :: rest => some (.float (1.0 / 0.0), rest)
  | '-' :: 'i' :: 'n' :: 'f' :: rest => some (.float (-(1.0 / 0.0)), rest)
  | '+' :: 'n' :: 'a' :: 'n' :: rest => some (.float (0.0 / 0.0), rest)
  | '-' :: 'n' :: 'a' :: 'n' :: rest => some (.float (0.0 / 0.0), rest)
  | '0' :: 'x' :: rest => radixInteger 16 isHexDigit rest
  | '0' :: 'o' :: rest => radixInteger 8 (fun c => '0' ≤ c && c ≤ '7') rest
  | '0' :: 'b' :: rest => radixInteger 2 (fun c => c == '0' || c == '1') rest
  | '+' :: rest => decimalNumber false rest
  | '-' :: rest => decimalNumber true rest
  | _ =>
    if (fixedDigits 4 cs).isSome && (cs.drop 4).head? == some '-' then
      (dateTime cs).map fun rest => (.datetime (text rest), rest)
    else if (fixedDigits 2 cs).isSome && (cs.drop 2).head? == some ':' then
      (timeOfDay cs).map fun rest => (.datetime (text rest), rest)
    else decimalNumber false cs

mutual

/-- Reads a value. -/
def value : Nat → List Char → Option (TomlValue × List Char)
  | 0, _ => none
  | fuel + 1, cs =>
    match cs with
    | '"' :: '"' :: '"' :: rest =>
      (multiBasic (rest.length + 1) (dropFirstBreak rest) []).map fun (s, r) => (.string s, r)
    | '"' :: rest => (basicString (rest.length + 1) rest []).map fun (s, r) => (.string s, r)
    | '\x27' :: '\x27' :: '\x27' :: rest =>
      (multiLiteral (rest.length + 1) (dropFirstBreak rest) []).map fun (s, r) => (.string s, r)
    | '\x27' :: rest => (literalString rest).map fun (s, r) => (.string s, r)
    | 't' :: 'r' :: 'u' :: 'e' :: rest => some (.boolean true, rest)
    | 'f' :: 'a' :: 'l' :: 's' :: 'e' :: rest => some (.boolean false, rest)
    | '[' :: rest => do
      let rest ← skipLayout (rest.length + 1) rest
      match rest with
      | ']' :: more => pure (.array [], more)
      | _ => arrayItems fuel rest []
    | '{' :: rest =>
      match skipBlanks rest with
      | '}' :: more => some (.table [], more)
      | more => inlineMembers fuel more Item.empty
    | _ => numberOrDate cs

/-- Reads the values of an array from its next value, up to its closing bracket. -/
def arrayItems : Nat → List Char → List TomlValue → Option (TomlValue × List Char)
  | 0, _, _ => none
  | fuel + 1, cs, acc => do
    let (v, rest) ← value fuel cs
    let rest ← skipLayout (rest.length + 1) rest
    match rest with
    | ',' :: more => do
      let more ← skipLayout (more.length + 1) more
      match more with
      | ']' :: after => pure (.array (acc ++ [v]), after)
      | _ => arrayItems fuel more (acc ++ [v])
    | ']' :: more => pure (.array (acc ++ [v]), more)
    | _ => none

/-- Reads the members of an inline table from its next member, up to its closing brace. -/
def inlineMembers : Nat → List Char → Toml.Item → Option (TomlValue × List Char)
  | 0, _, _ => none
  | fuel + 1, cs, table => do
    let (keys, rest) ← dottedKey (cs.length + 1) cs
    let rest ← match skipBlanks rest with
      | '=' :: r => some (skipBlanks r)
      | _ => none
    let (v, rest) ← value fuel rest
    let table ← table.addKey [] keys v
    match skipBlanks rest with
    | ',' :: more => inlineMembers fuel (skipBlanks more) table
    | '}' :: more => pure (table.toValue, more)
    | _ => none

end

/-- What one line of a document does. -/
inductive Line where
  | blank
  | header (path : List String)
  | arrayHeader (path : List String)
  | keyValue (keys : List String) (v : TomlValue)

/-- Reads one line, giving what follows it. -/
def line (cs : List Char) : Option (Line × List Char) := do
  let cs := skipBlanks cs
  match cs with
  | '[' :: '[' :: rest => do
    let (path, rest) ← dottedKey (rest.length + 1) (skipBlanks rest)
    match skipBlanks rest with
    | ']' :: ']' :: more => pure (.arrayHeader path, ← lineEnd more)
    | _ => none
  | '[' :: rest => do
    let (path, rest) ← dottedKey (rest.length + 1) (skipBlanks rest)
    match skipBlanks rest with
    | ']' :: more => pure (.header path, ← lineEnd more)
    | _ => none
  | [] => pure (.blank, [])
  | '#' :: _ => do pure (.blank, ← lineEnd cs)
  | '\n' :: rest => pure (.blank, rest)
  | '\r' :: '\n' :: rest => pure (.blank, rest)
  | _ => do
    let (keys, rest) ← dottedKey (cs.length + 1) cs
    let rest ← match skipBlanks rest with
      | '=' :: r => some (skipBlanks r)
      | _ => none
    let (v, rest) ← value (rest.length + 1) rest
    pure (.keyValue keys v, ← lineEnd rest)

/-- The state of a document being read: its tables, and the header that lines now add to. -/
structure Reading where
  root : Item
  current : List String

/-- Applies one line to a document. -/
def Reading.apply (r : Reading) : Line → Option Reading
  | .blank => some r
  | .header path => (r.root.openTable path).map fun root => ⟨root, path⟩
  | .arrayHeader path => (r.root.openTableArray path).map fun root => ⟨root, path⟩
  | .keyValue keys v => (r.root.addKey r.current keys v).map fun root => { r with root }

/-- Reads the lines of a document. -/
def readLines : Nat → List Char → Reading → Option Reading
  | 0, _, _ => none
  | _ + 1, [], r => some r
  | fuel + 1, cs, r => do
    let (l, rest) ← line cs
    let r ← r.apply l
    readLines fuel rest r

end OrphanedCode.Toml

namespace OrphanedCode

/-- Reads a TOML document: its root table, or `none` when the text is no document. -/
def TomlValue.read? (text : String) : Option TomlValue :=
  let cs := match text.toList with
    | '\uFEFF' :: rest => rest
    | cs => cs
  (Toml.readLines (cs.length + 1) cs ⟨Toml.Item.empty, []⟩).map fun r => r.root.toValue

end OrphanedCode
