import OrphanedCode.Json.Value
import OrphanedCode.Number.Layout
import OrphanedCode.Text.Quoted
import OrphanedCode.Text.Utf8
/-!
Reading JSON text strictly, byte by byte, as a typed decoder does.

The reader works on the UTF-8 bytes of the text with a cursor. Blanks are space, tab, line feed
and carriage return only. A number is a 64-bit whole number when it has no fraction and no
exponent and fits, and otherwise a binary64 value computed as the significand scaled by an exact
power of ten (a literal too large for binary64 is an error, one too small is zero). A string
must close, may not hold control characters, and may hold only valid escapes, a surrogate pair
being one escape of a leading and one of a trailing surrogate.

Every error carries a fault and the byte offset it is reported at: most faults are reported at
the cursor, those found by looking at the next byte one byte after it. Faults that a decoder of
a particular shape raises (a value of the wrong type, a repeated field) are placed when the
value being read ends. A message gives the line and the column of that offset, both counted from
one, the column in bytes.

Nesting is limited to 127 levels. All loops run on one fuel argument: each step consumes a byte
or is one of a few steps before one, so fuel four times the length of the text never runs out.
-/

namespace OrphanedCode.Json

/-! ## Errors -/

/-- A fault in the syntax of JSON text. -/
inductive SyntaxFault where
  | eofWhileParsingList
  | eofWhileParsingObject
  | eofWhileParsingString
  | eofWhileParsingValue
  | expectedColon
  | expectedListCommaOrEnd
  | expectedObjectCommaOrEnd
  | expectedSomeIdent
  | expectedSomeValue
  | invalidEscape
  | invalidNumber
  | numberOutOfRange
  | controlCharacterWhileParsingString
  | keyMustBeAString
  | loneLeadingSurrogateInHexEscape
  | trailingComma
  | trailingCharacters
  | unexpectedEndOfHexEscape
  | recursionLimitExceeded
  deriving DecidableEq, Repr

/-- The text of a syntax fault. -/
def SyntaxFault.message : SyntaxFault → String
  | .eofWhileParsingList => "EOF while parsing a list"
  | .eofWhileParsingObject => "EOF while parsing an object"
  | .eofWhileParsingString => "EOF while parsing a string"
  | .eofWhileParsingValue => "EOF while parsing a value"
  | .expectedColon => "expected `:`"
  | .expectedListCommaOrEnd => "expected `,` or `]`"
  | .expectedObjectCommaOrEnd => "expected `,` or `\x7d`"
  | .expectedSomeIdent => "expected ident"
  | .expectedSomeValue => "expected value"
  | .invalidEscape => "invalid escape"
  | .invalidNumber => "invalid number"
  | .numberOutOfRange => "number out of range"
  | .controlCharacterWhileParsingString =>
    "control character (\\u0000-\\u001F) found while parsing a string"
  | .keyMustBeAString => "key must be a string"
  | .loneLeadingSurrogateInHexEscape => "lone leading surrogate in hex escape"
  | .trailingComma => "trailing comma"
  | .trailingCharacters => "trailing characters"
  | .unexpectedEndOfHexEscape => "unexpected end of hex escape"
  | .recursionLimitExceeded => "recursion limit exceeded"

/-- A number as the reader finds it: a whole number that fits 64 bits, a negative whole number
down to `-2^63`, or a binary64 value. -/
inductive Number where
  | unsigned (n : Nat)
  | signed (n : Int)
  | float (x : Float)

/-- The binary64 value of a number, rounded to nearest. -/
def Number.toFloat : Number → Float
  | .unsigned n => n.toUInt64.toFloat
  | .signed n => -n.natAbs.toUInt64.toFloat
  | .float x => x

/-- A number as a JSON value. -/
def Number.toJson : Number → Json
  | .unsigned n => .nat n
  | n => .num n.toFloat

/-- What a decoder found where it expected a value of another type. -/
inductive Unexpected where
  | null
  | bool (b : Bool)
  | number (n : Number)
  | str (s : String)
  | seq
  | map

/-- How an unexpected value is named in a message. -/
def Unexpected.text : Unexpected → String
  | .null => "null"
  | .bool b => "boolean `" ++ (if b then "true" else "false") ++ "`"
  | .number (.unsigned n) => "integer `" ++ toString n ++ "`"
  | .number (.signed n) => "integer `" ++ toString n ++ "`"
  | .number (.float x) => "floating point `" ++ Binary64.pointedText x ++ "`"
  | .str s => "string " ++ Text.quote s
  | .seq => "sequence"
  | .map => "map"

/-- Why reading stopped. -/
inductive ReadFault where
  | malformed (fault : SyntaxFault)
  | invalidType (found : Unexpected) (expected : String)
  | duplicateField (name : String)

/-- The text of a fault. -/
def ReadFault.message : ReadFault → String
  | .malformed f => f.message
  | .invalidType u e => "invalid type: " ++ u.text ++ ", expected " ++ e
  | .duplicateField n => "duplicate field `" ++ n ++ "`"

/-- A reading error: the fault and the byte offset it is reported at, once placed. -/
structure ReadError where
  fault : ReadFault
  offset : Option Nat

/-- The line and column of a byte offset: the line counts the line feeds before it, the column
the bytes after the last of them. -/
def position (bytes : Array UInt8) (offset : Nat) : Nat × Nat :=
  let before := bytes.toList.take offset
  (1 + before.count 10, (before.reverse.takeWhile (· != 10)).length)

/-- The message of an error in the given text. -/
def ReadError.message (bytes : Array UInt8) (e : ReadError) : String :=
  match e.offset with
  | none => e.fault.message
  | some o =>
    let (line, column) := position bytes o
    e.fault.message ++ " at line " ++ toString line ++ " column " ++ toString column

/-! ## Pure scanning of bytes -/

/-- Whether a byte is a JSON blank. -/
def isBlankByte (b : UInt8) : Bool :=
  b == 32 || b == 10 || b == 9 || b == 13

/-- Whether a byte is an ASCII digit. -/
def isDigitByte (b : UInt8) : Bool :=
  48 ≤ b && b ≤ 57

/-- The value of a digit byte. -/
def digitOf (b : UInt8) : Nat :=
  b.toNat - 48

/-- The first index at or after `i` that holds no blank. -/
def blankEnd (bytes : Array UInt8) (i : Nat) : Nat :=
  if h : i < bytes.size then
    if isBlankByte bytes[i] then blankEnd bytes (i + 1) else i
  else i
termination_by bytes.size - i

/-- The first index at or after `i` that holds no digit. -/
def digitsEnd (bytes : Array UInt8) (i : Nat) : Nat :=
  if h : i < bytes.size then
    if isDigitByte bytes[i] then digitsEnd bytes (i + 1) else i
  else i
termination_by bytes.size - i

/-- Whether the byte at `i` is a digit. -/
def digitAt (bytes : Array UInt8) (i : Nat) : Bool :=
  (bytes[i]?.map isDigitByte).getD false

/-- Reads digits into a significand while it stays at most `limit`, stopping before a digit that
would pass it; gives the significand and the index where it stopped. -/
def accumulate (bytes : Array UInt8) (i sig limit : Nat) : Nat × Nat :=
  if h : i < bytes.size then
    let b := bytes[i]
    if isDigitByte b && sig * 10 + digitOf b ≤ limit then
      accumulate bytes (i + 1) (sig * 10 + digitOf b) limit
    else (sig, i)
  else (sig, i)
termination_by bytes.size - i

/-- Reads exponent digits after the first; `none` when the exponent passes `2^31 - 1`, with the
index just after the digit that made it pass. -/
def exponentDigits (bytes : Array UInt8) (i exp : Nat) : Option Nat × Nat :=
  if h : i < bytes.size then
    let b := bytes[i]
    if isDigitByte b then
      let e := exp * 10 + digitOf b
      if e > Nat.pow 2 31 - 1 then (none, i + 1) else exponentDigits bytes (i + 1) e
    else (some exp, i)
  else (some exp, i)
termination_by bytes.size - i

/-- An error at a byte offset. -/
def faultAt (f : SyntaxFault) (offset : Nat) : ReadError :=
  ⟨.malformed f, some offset⟩

/-- The offset one byte after `i`, within the text. -/
def ahead (bytes : Array UInt8) (i : Nat) : Nat :=
  min bytes.size (i + 1)

/-! ## Numbers -/

/-- Ten to the power `k`, rounded to binary64. -/
def pow10 (k : Nat) : Float :=
  Float.ofScientific 1 false k

/-- Divides by ten to the power `e`, in steps of `10^308` while `e` is larger. -/
def scaleDown (f : Float) (e : Nat) : Float :=
  if e ≤ 308 then f / pow10 e
  else if f == 0.0 then f
  else scaleDown (f / pow10 308) (e - 308)
termination_by e
decreasing_by omega

/-- A 32-bit signed exponent, saturated. -/
def saturate (e : Int) : Int :=
  max (-(Int.pow 2 31)) (min (Int.pow 2 31 - 1) e)

/-- The value `significand · 10^exp` with the sign, reported at `offset` when too large. -/
def fromParts (positive : Bool) (sig : Nat) (exp : Int) (offset : Nat) :
    Except ReadError Float := do
  let f := sig.toUInt64.toFloat
  let f ←
    if 0 ≤ exp then
      if exp.toNat ≤ 308 then
        let g := f * pow10 exp.toNat
        if g.isInf then throw (faultAt .numberOutOfRange offset) else pure g
      else if f == 0.0 then pure f
      else throw (faultAt .numberOutOfRange offset)
    else pure (scaleDown f exp.natAbs)
  pure (if positive then f else -f)

/-- Reads an exponent whose marker is at `j`. -/
def exponentAt (bytes : Array UInt8) (positive : Bool) (sig : Nat) (start : Int) (j : Nat) :
    Except ReadError (Number × Nat) :=
  let i := j + 1
  let (up, i) :=
    match bytes[i]? with
    | some 43 => (true, i + 1)
    | some 45 => (false, i + 1)
    | _ => (true, i)
  match bytes[i]? with
  | none => throw (faultAt .eofWhileParsingValue i)
  | some c =>
    if !isDigitByte c then throw (faultAt .invalidNumber (i + 1))
    else
      match exponentDigits bytes (i + 1) (digitOf c) with
      | (none, p) =>
        if sig != 0 && up then throw (faultAt .numberOutOfRange p)
        else pure (.float (if positive then 0.0 else -0.0), digitsEnd bytes p)
      | (some e, p) => do
        let x ← fromParts positive sig (saturate (if up then start + e else start - e)) p
        pure (.float x, p)

/-- Ends a number at `p` that may still have an exponent. -/
def exponentOrEnd (bytes : Array UInt8) (positive : Bool) (sig : Nat) (exp : Int) (p : Nat) :
    Except ReadError (Number × Nat) :=
  match bytes[p]? with
  | some 101 => exponentAt bytes positive sig exp p
  | some 69 => exponentAt bytes positive sig exp p
  | _ => do
    let x ← fromParts positive sig exp p
    pure (.float x, p)

/-- Reads a fraction whose point is at `j`; digits past 64 bits of significand are dropped. -/
def fractionAt (bytes : Array UInt8) (positive : Bool) (sig : Nat) (before : Int) (j : Nat) :
    Except ReadError (Number × Nat) :=
  let start := j + 1
  let (sig, p) := accumulate bytes start sig (Nat.pow 2 64 - 1)
  let exp := before - ((p - start : Nat) : Int)
  if digitAt bytes p then exponentOrEnd bytes positive sig exp (digitsEnd bytes p)
  else if p == start then
    match bytes[p]? with
    | some _ => throw (faultAt .invalidNumber (ahead bytes p))
    | none => throw (faultAt .eofWhileParsingValue (ahead bytes p))
  else exponentOrEnd bytes positive sig exp p

/-- Ends a number at `j` after its integer part: a fraction, an exponent, or a whole number. -/
def numberTail (bytes : Array UInt8) (positive : Bool) (sig : Nat) (j : Nat) :
    Except ReadError (Number × Nat) :=
  match bytes[j]? with
  | some 46 => fractionAt bytes positive sig 0 j
  | some 101 => exponentAt bytes positive sig 0 j
  | some 69 => exponentAt bytes positive sig 0 j
  | _ =>
    if positive then pure (.unsigned sig, j)
    else if sig == 0 || sig > Nat.pow 2 63 then pure (.float (-sig.toUInt64.toFloat), j)
    else pure (.signed (-(sig : Int)), j)

/-- Reads a number at `i`, after its sign. An integer part past 64 bits keeps its first digits
and counts the others in the exponent. -/
def numberAt (bytes : Array UInt8) (positive : Bool) (i : Nat) :
    Except ReadError (Number × Nat) :=
  match bytes[i]? with
  | none => throw (faultAt .eofWhileParsingValue i)
  | some b =>
    if b == 48 then
      if digitAt bytes (i + 1) then throw (faultAt .invalidNumber (ahead bytes (i + 1)))
      else numberTail bytes positive 0 (i + 1)
    else if isDigitByte b then
      let (sig, j) := accumulate bytes (i + 1) (digitOf b) (Nat.pow 2 64 - 1)
      if digitAt bytes j then
        let k := digitsEnd bytes j
        match bytes[k]? with
        | some 46 => fractionAt bytes positive sig (k - j : Nat) k
        | _ => exponentOrEnd bytes positive sig (k - j : Nat) k
      else numberTail bytes positive sig j
    else throw (faultAt .invalidNumber (i + 1))

/-! ## Strings -/

/-- The first index at or after `i` that holds a quote, a backslash or a control byte. -/
def stopIndex (bytes : Array UInt8) (i : Nat) : Nat :=
  if h : i < bytes.size then
    let b := bytes[i]
    if b == 34 || b == 92 || b < 32 then i else stopIndex bytes (i + 1)
  else i
termination_by bytes.size - i

/-- The value of a hexadecimal digit byte. -/
def hexOf? (b : UInt8) : Option Nat :=
  if 48 ≤ b && b ≤ 57 then some (b.toNat - 48)
  else if 97 ≤ b && b ≤ 102 then some (b.toNat - 87)
  else if 65 ≤ b && b ≤ 70 then some (b.toNat - 55)
  else none

/-- Reads four hexadecimal digits at `i`. -/
def hexQuadAt (bytes : Array UInt8) (i : Nat) : Except ReadError (Nat × Nat) :=
  if i + 4 ≤ bytes.size then
    match (List.range 4).mapM fun k => bytes[i + k]?.bind hexOf? with
    | some ds => pure (ds.foldl (fun acc d => acc * 16 + d) 0, i + 4)
    | none => throw (faultAt .invalidEscape (i + 4))
  else throw (faultAt .eofWhileParsingString bytes.size)

/-- The UTF-8 bytes of a code point. -/
def utf8Of (n : Nat) : List UInt8 :=
  (Char.ofNat n).toString.toUTF8.toList

/-- Reads the escape `\u` with its digits at `m`; a leading surrogate must be followed by the
escape of a trailing one. -/
def unicodeAt (bytes : Array UInt8) (m : Nat) : Except ReadError (List UInt8 × Nat) := do
  let (n, p) ← hexQuadAt bytes m
  if 0xDC00 ≤ n && n ≤ 0xDFFF then throw (faultAt .loneLeadingSurrogateInHexEscape p)
  else if n < 0xD800 || n > 0xDBFF then pure (utf8Of n, p)
  else
    match bytes[p]? with
    | none => throw (faultAt .eofWhileParsingString p)
    | some b =>
      if b != 92 then throw (faultAt .unexpectedEndOfHexEscape (p + 1))
      else
        match bytes[p + 1]? with
        | none => throw (faultAt .eofWhileParsingString (p + 1))
        | some u =>
          if u != 117 then throw (faultAt .unexpectedEndOfHexEscape (p + 2))
          else
            let (n2, q) ← hexQuadAt bytes (p + 2)
            if n2 < 0xDC00 || n2 > 0xDFFF then throw (faultAt .loneLeadingSurrogateInHexEscape q)
            else pure (utf8Of ((n - 0xD800) * 1024 + (n2 - 0xDC00) + 0x10000), q)

/-- Reads the escape whose letter is at `k`, giving its bytes. -/
def escapeAt (bytes : Array UInt8) (k : Nat) : Except ReadError (List UInt8 × Nat) :=
  match bytes[k]? with
  | none => throw (faultAt .eofWhileParsingString k)
  | some c =>
    match Char.ofNat c.toNat with
    | '"' => pure ([34], k + 1)
    | '\\' => pure ([92], k + 1)
    | '/' => pure ([47], k + 1)
    | 'b' => pure ([8], k + 1)
    | 'f' => pure ([12], k + 1)
    | 'n' => pure ([10], k + 1)
    | 'r' => pure ([13], k + 1)
    | 't' => pure ([9], k + 1)
    | 'u' => unicodeAt bytes (k + 1)
    | _ => throw (faultAt .invalidEscape (k + 1))

/-- Reads the rest of a string from `i`, after its opening quote, collecting its bytes. -/
def stringLoop : Nat → Array UInt8 → Nat → Array UInt8 → Except ReadError (Array UInt8 × Nat)
  | 0, bytes, _, _ => throw (faultAt .eofWhileParsingString bytes.size)
  | fuel + 1, bytes, i, acc =>
    let j := stopIndex bytes i
    let acc := acc ++ bytes.extract i j
    match bytes[j]? with
    | none => throw (faultAt .eofWhileParsingString j)
    | some 34 => pure (acc, j + 1)
    | some 92 => do
      let (bs, k) ← escapeAt bytes (j + 1)
      stringLoop fuel bytes k (acc ++ bs.toArray)
    | some _ => throw (faultAt .controlCharacterWhileParsingString (j + 1))

/-- Reads a string whose opening quote is just before `i`. -/
def stringAt (bytes : Array UInt8) (i : Nat) : Except ReadError (String × Nat) := do
  let (acc, j) ← stringLoop (bytes.size + 1) bytes i #[]
  pure ((Text.ofUtf8? acc.toList).getD "", j)

/-- Passes over the escape whose letter is at `k`, checking only its form. -/
def skipEscapeAt (bytes : Array UInt8) (k : Nat) : Except ReadError Nat :=
  match bytes[k]? with
  | none => throw (faultAt .eofWhileParsingString k)
  | some c =>
    match Char.ofNat c.toNat with
    | 'u' => do
      let (_, p) ← hexQuadAt bytes (k + 1)
      pure p
    | d =>
      if "\"\\/bfnrt".toList.contains d then pure (k + 1)
      else throw (faultAt .invalidEscape (k + 1))

/-- Passes over the rest of a string from `i`; a control byte is reported where it stands. -/
def skipStringLoop : Nat → Array UInt8 → Nat → Except ReadError Nat
  | 0, bytes, _ => throw (faultAt .eofWhileParsingString bytes.size)
  | fuel + 1, bytes, i =>
    let j := stopIndex bytes i
    match bytes[j]? with
    | none => throw (faultAt .eofWhileParsingString j)
    | some 34 => pure (j + 1)
    | some 92 => do
      let k ← skipEscapeAt bytes (j + 1)
      skipStringLoop fuel bytes k
    | some _ => throw (faultAt .controlCharacterWhileParsingString j)

/-- Passes over a number at `i`, after its sign, checking only its form. -/
def skipNumberAt (bytes : Array UInt8) (i : Nat) : Except ReadError Nat := do
  let j ←
    match bytes[i]? with
    | some 48 =>
      if digitAt bytes (i + 1) then throw (faultAt .invalidNumber (ahead bytes (i + 1)))
      else pure (i + 1)
    | some b =>
      if isDigitByte b then pure (digitsEnd bytes (i + 1))
      else throw (faultAt .invalidNumber (i + 1))
    | none => throw (faultAt .invalidNumber i)
  let skipExponent (e : Nat) : Except ReadError Nat :=
    let s := match bytes[e + 1]? with
      | some 43 => e + 2
      | some 45 => e + 2
      | _ => e + 1
    if digitAt bytes s then pure (digitsEnd bytes (s + 1))
    else throw (faultAt .invalidNumber (min bytes.size (s + 1)))
  match bytes[j]? with
  | some 46 =>
    let k := digitsEnd bytes (j + 1)
    if k == j + 1 then throw (faultAt .invalidNumber (ahead bytes k))
    else if bytes[k]? == some 101 || bytes[k]? == some 69 then skipExponent k
    else pure k
  | some 101 => skipExponent j
  | some 69 => skipExponent j
  | _ => pure j

/-! ## The cursor -/

/-- A position in JSON text with what is left of the nesting budget. -/
structure Cursor where
  bytes : Array UInt8
  index : Nat
  depth : Nat

/-- A reading step: it moves the cursor, and on an error still gives the cursor it stopped at. -/
abbrev Reader := EStateM ReadError Cursor

/-- The cursor at the start of a text, with the full nesting budget. -/
def Cursor.start (text : String) : Cursor :=
  ⟨text.toUTF8.data, 0, 128⟩

/-- The byte under the cursor, as a character. -/
def peekChar : Reader (Option Char) := fun s =>
  .ok (s.bytes[s.index]?.map fun b => Char.ofNat b.toNat) s

/-- Moves past blanks and gives the byte under the cursor, as a character. -/
def peekCharAfterBlanks : Reader (Option Char) := fun s =>
  let i := blankEnd s.bytes s.index
  .ok (s.bytes[i]?.map fun b => Char.ofNat b.toNat) { s with index := i }

/-- Moves one byte on. -/
def eat : Reader Unit := fun s =>
  .ok () { s with index := s.index + 1 }

/-- Fails with a fault reported at the cursor. -/
def failHere {α : Type} (f : SyntaxFault) : Reader α := fun s =>
  .error (faultAt f s.index) s

/-- Fails with a fault reported one byte after the cursor. -/
def failAhead {α : Type} (f : SyntaxFault) : Reader α := fun s =>
  .error (faultAt f (ahead s.bytes s.index)) s

/-- Fails with a fault to be placed later. -/
def failUnplaced {α : Type} (f : ReadFault) : Reader α := fun s =>
  .error ⟨f, none⟩ s

/-- Places a pending fault of a step at the cursor where the step stopped. -/
def placed {α : Type} (r : Reader α) : Reader α := fun s =>
  match r s with
  | .ok a s' => .ok a s'
  | .error e s' => .error (if e.offset.isNone then { e with offset := some s'.index } else e) s'

/-- Runs a step and gives its outcome, keeping the cursor it stopped at. -/
def attempt {α : Type} (r : Reader α) : Reader (Except ReadError α) := fun s =>
  match r s with
  | .ok a s' => .ok (.ok a) s'
  | .error e s' => .ok (.error e) s'

/-- Runs a pure scan at the cursor. -/
def scanWith {α : Type} (f : Array UInt8 → Nat → Except ReadError (α × Nat)) : Reader α := fun s =>
  match f s.bytes s.index with
  | .ok (a, i) => .ok a { s with index := i }
  | .error e => .error e s

/-- Reads the letters of a keyword after its first. -/
def readIdent : List Char → Reader Unit
  | [] => pure ()
  | c :: cs => do
    match ← peekChar with
    | none => failHere .eofWhileParsingValue
    | some d =>
      eat
      if c == d then readIdent cs else failHere .expectedSomeIdent

/-- Reads a number at the cursor, after its sign. -/
def readNumber (positive : Bool) : Reader Number :=
  scanWith fun bytes i => numberAt bytes positive i

/-- Reads a string whose opening quote is just behind the cursor. -/
def readStringBody : Reader String :=
  scanWith stringAt

/-- Passes over a string whose opening quote is just behind the cursor. -/
def skipStringBody : Reader Unit :=
  scanWith fun bytes i => do
    let j ← skipStringLoop (bytes.size + 1) bytes i
    pure ((), j)

/-- Passes over a number at the cursor, after its sign. -/
def skipNumber : Reader Unit :=
  scanWith fun bytes i => do
    let j ← skipNumberAt bytes i
    pure ((), j)

/-- Fails for a value of the wrong type at the cursor, reading it first to name it. -/
def failWrongType {α : Type} (expected : String) : Reader α := do
  let found : Unexpected ←
    match ← peekChar with
    | some 'n' => do eat; readIdent ['u', 'l', 'l']; pure .null
    | some 't' => do eat; readIdent ['r', 'u', 'e']; pure (.bool true)
    | some 'f' => do eat; readIdent ['a', 'l', 's', 'e']; pure (.bool false)
    | some '-' => do eat; pure (.number (← readNumber false))
    | some '"' => do eat; pure (.str (← readStringBody))
    | some '[' => pure .seq
    | some '{' => pure .map
    | some c => do
      if c.isDigit then pure (.number (← readNumber true)) else failAhead .expectedSomeValue
    | none => failAhead .expectedSomeValue
  placed (failUnplaced (.invalidType found expected))

/-! ## Arrays and objects -/

/-- Enters an array or object: spends a level of nesting and moves past the bracket. -/
def enter : Reader Unit := fun s =>
  if s.depth ≤ 1 then
    .error (faultAt .recursionLimitExceeded (ahead s.bytes s.index)) { s with depth := s.depth - 1 }
  else .ok () { s with depth := s.depth - 1, index := s.index + 1 }

/-- Gives back the level of nesting spent on entering. -/
def leave : Reader Unit := fun s =>
  .ok () { s with depth := s.depth + 1 }

/-- Reads the inside of an array or object and then its end. The end is read even when the
inside failed, and then the inside's error wins. -/
def nested {α : Type} (inside : Reader α) (close : Reader Unit) : Reader α := do
  enter
  let r ← attempt inside
  leave
  let c ← attempt close
  match r, c with
  | .ok a, .ok () => pure a
  | .error e, _ => throw e
  | .ok _, .error e => throw e

/-- The end of an array. -/
def endSeq : Reader Unit := do
  match ← peekCharAfterBlanks with
  | some ']' => eat
  | some ',' =>
    eat
    match ← peekCharAfterBlanks with
    | some ']' => failAhead .trailingComma
    | _ => failAhead .trailingCharacters
  | some _ => failAhead .trailingCharacters
  | none => failAhead .eofWhileParsingList

/-- The end of an object. -/
def endMap : Reader Unit := do
  match ← peekCharAfterBlanks with
  | some '}' => eat
  | some ',' => failAhead .trailingComma
  | some _ => failAhead .trailingCharacters
  | none => failAhead .eofWhileParsingObject

/-- Whether another element follows in an array; `first` before the first element. -/
def hasNextElement (first : Bool) : Reader Bool := do
  match ← peekCharAfterBlanks with
  | none => failAhead .eofWhileParsingList
  | some ']' => pure false
  | some c =>
    if first then pure true
    else if c == ',' then
      eat
      match ← peekCharAfterBlanks with
      | some ']' => failAhead .trailingComma
      | some _ => pure true
      | none => failAhead .eofWhileParsingValue
    else failAhead .expectedListCommaOrEnd

/-- Whether another member follows in an object; `first` before the first member. The cursor
stays on the key's opening quote. -/
def hasNextKey (first : Bool) : Reader Bool := do
  match ← peekCharAfterBlanks with
  | none => failAhead .eofWhileParsingObject
  | some '}' => pure false
  | some c =>
    if first then
      if c == '"' then pure true else failAhead .keyMustBeAString
    else if c == ',' then
      eat
      match ← peekCharAfterBlanks with
      | some '"' => pure true
      | some '}' => failAhead .trailingComma
      | some _ => failAhead .keyMustBeAString
      | none => failAhead .eofWhileParsingValue
    else failAhead .expectedObjectCommaOrEnd

/-- Reads a key at its opening quote. -/
def readKey : Reader String := do
  eat
  readStringBody

/-- Reads the colon after a key. -/
def objectColon : Reader Unit := do
  match ← peekCharAfterBlanks with
  | some ':' => eat
  | some _ => failAhead .expectedColon
  | none => failAhead .eofWhileParsingObject

/-- Checks that only blanks are left. -/
def endOfText : Reader Unit := do
  match ← peekCharAfterBlanks with
  | some _ => failAhead .trailingCharacters
  | none => pure ()

/-! ## Whole values -/

/-- Sets a member of an object, a repeated key keeping its first place and its last value. -/
def setField (k : String) (v : Json) : List (String × Json) → List (String × Json)
  | [] => [(k, v)]
  | (k', v') :: rest => if k' == k then (k, v) :: rest else (k', v') :: setField k v rest

/-- The step taken when fuel runs out; ample fuel never reaches it. -/
def outOfFuel {α : Type} : Reader α :=
  failHere .recursionLimitExceeded

mutual

/-- Reads any value. -/
def readAny : Nat → Reader Json
  | 0 => outOfFuel
  | fuel + 1 => placed do
    match ← peekCharAfterBlanks with
    | none => failAhead .eofWhileParsingValue
    | some 'n' => do eat; readIdent ['u', 'l', 'l']; pure .null
    | some 't' => do eat; readIdent ['r', 'u', 'e']; pure (.bool true)
    | some 'f' => do eat; readIdent ['a', 'l', 's', 'e']; pure (.bool false)
    | some '-' => do eat; pure (← readNumber false).toJson
    | some '"' => do eat; pure (.str (← readStringBody))
    | some '[' => nested (readAnyItems fuel true []) endSeq
    | some '{' => nested (readAnyFields fuel true []) endMap
    | some c => if c.isDigit then pure (← readNumber true).toJson else failAhead .expectedSomeValue

/-- Reads the elements of an array after its bracket. -/
def readAnyItems : Nat → Bool → List Json → Reader Json
  | 0, _, _ => outOfFuel
  | fuel + 1, first, acc => do
    if ← hasNextElement first then
      let v ← readAny fuel
      readAnyItems fuel false (v :: acc)
    else pure (.arr acc.reverse)

/-- Reads the members of an object after its brace. -/
def readAnyFields : Nat → Bool → List (String × Json) → Reader Json
  | 0, _, _ => outOfFuel
  | fuel + 1, first, acc => do
    if ← hasNextKey first then
      let k ← readKey
      objectColon
      let v ← readAny fuel
      readAnyFields fuel false (setField k v acc)
    else pure (.obj acc)

end

/-! ## Skipping values

A skipped value is checked for its form only: numbers are not converted, and nesting is not
limited. Open brackets are kept on a stack, the innermost one apart. -/

mutual

/-- Skips a value; `inner` is the innermost open bracket, if any, and `outer` the others. -/
def skipStart : Nat → List Char → Option Char → Reader Unit
  | 0, _, _ => outOfFuel
  | fuel + 1, outer, inner => do
    let opened ←
      match ← peekCharAfterBlanks with
      | none => failAhead .eofWhileParsingValue
      | some 'n' => do eat; readIdent ['u', 'l', 'l']; pure none
      | some 't' => do eat; readIdent ['r', 'u', 'e']; pure none
      | some 'f' => do eat; readIdent ['a', 'l', 's', 'e']; pure none
      | some '-' => do eat; skipNumber; pure none
      | some '"' => do eat; skipStringBody; pure none
      | some '[' => do eat; pure (some '[')
      | some '{' => do eat; pure (some '{')
      | some c => if c.isDigit then do skipNumber; pure none else failAhead .expectedSomeValue
    match opened, inner with
    | some b, _ => skipClose fuel (inner.toList ++ outer) false b
    | none, some b => skipClose fuel outer true b
    | none, none => pure ()

/-- After a value inside the bracket `frame`: a comma, the end of the bracket, or (right after
the bracket opened) the first element. -/
def skipClose : Nat → List Char → Bool → Char → Reader Unit
  | 0, _, _, _ => outOfFuel
  | fuel + 1, outer, acceptComma, frame => do
    match ← peekCharAfterBlanks with
    | some ',' =>
      if acceptComma then do eat; skipMember fuel outer frame
      else skipMember fuel outer frame
    | some c =>
      if (c == ']' && frame == '[') || (c == '}' && frame == '{') then do
        eat
        match outer with
        | [] => pure ()
        | b :: rest => skipClose fuel rest true b
      else if acceptComma then
        failAhead (if frame == '[' then .expectedListCommaOrEnd else .expectedObjectCommaOrEnd)
      else skipMember fuel outer frame
    | none => failAhead (if frame == '[' then .eofWhileParsingList else .eofWhileParsingObject)

/-- Skips the next element of the bracket `frame`, with its key and colon in an object. -/
def skipMember : Nat → List Char → Char → Reader Unit
  | 0, _, _ => outOfFuel
  | fuel + 1, outer, frame => do
    if frame == '{' then
      match ← peekCharAfterBlanks with
      | some '"' => eat
      | some _ => failAhead .keyMustBeAString
      | none => failAhead .eofWhileParsingObject
      skipStringBody
      match ← peekCharAfterBlanks with
      | some ':' => eat
      | some _ => failAhead .expectedColon
      | none => failAhead .eofWhileParsingObject
    skipStart fuel outer (some frame)

end

/-- Skips one value. -/
def skipValue (fuel : Nat) : Reader Unit :=
  skipStart fuel [] none

/-- Fuel enough for reading a text of the given cursor. -/
def Cursor.fuel (s : Cursor) : Nat :=
  4 * s.bytes.size + 16

end OrphanedCode.Json
