import OrphanedCode.Yaml.Scalar
/-!
Cutting a YAML text into tokens.

The scanner reads token after token, skipping blanks, comments and line breaks between them. In
block context it tracks the columns of the open collections: a `-` entry, a `?` key or a `:`
value deeper than the current column opens a collection, and a token left of it closes the
deeper ones. Braces and brackets open flow context, where indentation does not count.

A key need not be marked: a scalar, a flow collection, an anchor or a tag may turn out to be a
simple key when a `:` follows on the same line, within 1024 characters. The scanner notes each
such candidate with the number its token will have; when the `:` comes, a key token (and, if
needed, the start of a block mapping) is put in front of it. A candidate at the indentation of
the current block collection is required to be a key: if the line ends first, the text is
refused.
-/

namespace OrphanedCode.Yaml

/-- A place where a simple key may start. -/
structure SimpleKey where
  possible : Bool := false
  required : Bool := false
  tokenNumber : Nat := 0
  mark : Mark := {}

/-- The state of the scanner. -/
structure Scanner where
  cursor : Cursor
  tokens : Array Token
  /-- The column of the innermost block collection, -1 at the top. -/
  indent : Int := -1
  /-- The columns of the enclosing block collections, innermost first. -/
  indents : List Int := []
  /-- Whether a simple key may start at the cursor. -/
  keyAllowed : Bool := true
  /-- One candidate key per flow level, innermost first. -/
  keys : List SimpleKey := [{}]
  flowLevel : Nat := 0
  finished : Bool := false

namespace Scanner

/-- Whether the scanner is inside a flow collection. -/
def inFlow (s : Scanner) : Bool :=
  s.flowLevel > 0

/-- Adds a token at the end. -/
def emit (t : Token) (s : Scanner) : Scanner :=
  { s with tokens := s.tokens.push t }

/-- Moves the cursor `n` characters along its line. -/
def advance (n : Nat) (s : Scanner) : Scanner :=
  { s with cursor := s.cursor.forward n }

/-- Gives up the candidate keys that can no longer be keys: those on an earlier line or more
than 1024 characters back. Refused when such a key was required. -/
def staleKeys (s : Scanner) : Option Scanner := do
  let m := s.cursor.mark
  let keys ← s.keys.mapM fun k =>
    if k.possible && (k.mark.line < m.line || k.mark.index + 1024 < m.index) then
      if k.required then none else some { k with possible := false }
    else some k
  pure { s with keys }

/-- Gives up the innermost candidate key; refused when it was required. -/
def removeKey (s : Scanner) : Option Scanner :=
  match s.keys with
  | k :: ks =>
    if k.possible && k.required then none
    else some { s with keys := { k with possible := false } :: ks }
  | [] => some s

/-- Notes a candidate key at the cursor, when a simple key may start here. -/
def saveKey (s : Scanner) : Option Scanner :=
  if s.keyAllowed then do
    let required := !s.inFlow && s.indent == (s.cursor.mark.column : Int)
    let k : SimpleKey := ⟨true, required, s.tokens.size, s.cursor.mark⟩
    let s ← s.removeKey
    pure { s with keys := k :: s.keys.drop 1 }
  else some s

/-- Enters a flow collection. -/
def enterFlow (s : Scanner) : Scanner :=
  { s with keys := {} :: s.keys, flowLevel := s.flowLevel + 1 }

/-- Leaves a flow collection. -/
def leaveFlow (s : Scanner) : Scanner :=
  if s.flowLevel > 0 then { s with keys := s.keys.drop 1, flowLevel := s.flowLevel - 1 } else s

/-- In block context, opens a collection at `column` when it is deeper than the current one;
its start token goes at `position`, or at the end. -/
def rollIndent (column : Nat) (position : Option Nat) (t : Token) (s : Scanner) : Scanner :=
  if s.inFlow || (column : Int) ≤ s.indent then s
  else
    let tokens := match position with
      | some n => s.tokens.insertIdxIfInBounds n t
      | none => s.tokens.push t
    { s with indents := s.indent :: s.indents, indent := column, tokens }

/-- In block context, closes the collections deeper than `column`. -/
def unrollIndent (column : Int) (s : Scanner) : Scanner :=
  if s.inFlow then s else go s.indents s
where
  /-- Closes one collection at a time. -/
  go : List Int → Scanner → Scanner
    | [], s => s
    | i :: is, s =>
      if s.indent > column then go is { s with tokens := s.tokens.push .blockEnd, indent := i, indents := is }
      else s

/-- Skips blanks, comments and line breaks before the next token, and the byte order mark at the
start of a line. In block context a line break lets a simple key start, and a tab is skipped only
where no simple key may start. Returns the position and whether a simple key may start there. -/
def skipToToken (flow : Bool) : List Char → Mark → Bool → Bool → Cursor × Bool
  | [], m, allowed, _ => (⟨[], m⟩, allowed)
  | '\r' :: '\n' :: r, m, allowed, _ => skipToToken flow r (m.newline 2) (allowed || !flow) false
  | c :: r, m, allowed, inComment =>
    if isBreak c then skipToToken flow r (m.newline 1) (allowed || !flow) false
    else if inComment then skipToToken flow r m.next allowed true
    else if m.column == 0 && c == '\uFEFF' then skipToToken flow r m.next allowed false
    else if c == ' ' || ((flow || !allowed) && c == '\t') then skipToToken flow r m.next allowed false
    else if c == '#' then skipToToken flow r m.next allowed true
    else (⟨c :: r, m⟩, allowed)

/-- Whether a plain scalar may start with this text. -/
def startsPlain (flow : Bool) : List Char → Bool
  | [] => false
  | c :: r =>
    !(isBlank c || isBreak c || "-?:,[]\x7b\x7d#&*!|>\x27\"%@\x60".contains c) ||
      (c == '-' && !((r.head?.map isBlank).getD false)) ||
      (!flow && (c == '?' || c == ':') && !blankZAt r)

/-- The end of the text: closes every block collection. -/
def fetchStreamEnd (s : Scanner) : Option Scanner := do
  let s ← (s.unrollIndent (-1)).removeKey
  pure ({ s with keyAllowed := false, finished := true }.emit .streamEnd)

/-- A directive. -/
def fetchDirective (s : Scanner) : Option Scanner := do
  let s ← (s.unrollIndent (-1)).removeKey
  let (t, cursor) ← scanDirective s.cursor
  pure ({ s with keyAllowed := false, cursor }.emit t)

/-- A document marker, `---` or `...`. -/
def fetchMarker (t : Token) (s : Scanner) : Option Scanner := do
  let s ← (s.unrollIndent (-1)).removeKey
  pure (({ s with keyAllowed := false }.advance 3).emit t)

/-- An opening bracket or brace. -/
def fetchFlowStart (t : Token) (s : Scanner) : Option Scanner := do
  let s ← s.saveKey
  pure (({ s.enterFlow with keyAllowed := true }.advance 1).emit t)

/-- A closing bracket or brace. -/
def fetchFlowEnd (t : Token) (s : Scanner) : Option Scanner := do
  let s ← s.removeKey
  pure (({ s.leaveFlow with keyAllowed := false }.advance 1).emit t)

/-- A comma between flow entries. -/
def fetchFlowEntry (s : Scanner) : Option Scanner := do
  let s ← s.removeKey
  pure (({ s with keyAllowed := true }.advance 1).emit .flowEntry)

/-- Opens a block collection at the cursor where a simple key may start; refused elsewhere. -/
def openBlock (t : Token) (s : Scanner) : Option Scanner :=
  if s.inFlow then some s
  else if !s.keyAllowed then none
  else some (s.rollIndent s.cursor.mark.column none t)

/-- A `-` entry of a block sequence. -/
def fetchBlockEntry (s : Scanner) : Option Scanner := do
  let s ← s.openBlock .blockSequenceStart
  let s ← s.removeKey
  pure (({ s with keyAllowed := true }.advance 1).emit .blockEntry)

/-- A `?` key. -/
def fetchKey (s : Scanner) : Option Scanner := do
  let s ← s.openBlock .blockMappingStart
  let s ← s.removeKey
  pure (({ s with keyAllowed := !s.inFlow }.advance 1).emit .key)

/-- A `:` value: it makes the innermost candidate, if any, a key. -/
def fetchValue (s : Scanner) : Option Scanner := do
  let s ←
    match s.keys with
    | k :: ks =>
      if k.possible then
        let s := { s with tokens := s.tokens.insertIdxIfInBounds k.tokenNumber .key }
        let s := s.rollIndent k.mark.column (some k.tokenNumber) .blockMappingStart
        pure { s with keys := { k with possible := false } :: ks, keyAllowed := false }
      else do
        let s ← s.openBlock .blockMappingStart
        pure { s with keyAllowed := !s.inFlow }
    | [] => none
  pure ((s.advance 1).emit .value)

/-- An anchor or an alias. -/
def fetchAnchor (isAlias : Bool) (s : Scanner) : Option Scanner := do
  let s ← s.saveKey
  let (name, cursor) ← scanAnchorName s.cursor
  pure ({ s with keyAllowed := false, cursor }.emit (if isAlias then .alias name else .anchor name))

/-- A tag. -/
def fetchTag (s : Scanner) : Option Scanner := do
  let s ← s.saveKey
  let ((handle, suffix), cursor) ← scanTag s.inFlow s.cursor
  pure ({ s with keyAllowed := false, cursor }.emit (.tag handle suffix))

/-- A literal or folded block scalar. -/
def fetchBlockScalar (literal : Bool) (s : Scanner) : Option Scanner := do
  let s ← s.removeKey
  let (text, cursor) ← scanBlock literal s.indent s.cursor
  pure ({ s with keyAllowed := true, cursor }.emit
    (.scalar text (if literal then .literal else .folded)))

/-- A single- or double-quoted scalar. -/
def fetchQuoted (single : Bool) (s : Scanner) : Option Scanner := do
  let s ← s.saveKey
  let (text, cursor) ← scanQuoted single s.cursor
  pure ({ s with keyAllowed := false, cursor }.emit
    (.scalar text (if single then .singleQuoted else .doubleQuoted)))

/-- A plain scalar; a simple key may follow it when it ended after a line break. -/
def fetchPlain (s : Scanner) : Option Scanner := do
  let s ← s.saveKey
  let (text, broke, cursor) ← scanPlain s.inFlow (s.indent + 1) s.cursor
  pure ({ s with keyAllowed := broke, cursor }.emit (.scalar text .plain))

/-- Reads the next token, with the block ends before it. -/
def fetchNext (s : Scanner) : Option Scanner := do
  let (cursor, keyAllowed) := skipToToken s.inFlow s.cursor.rest s.cursor.mark s.keyAllowed false
  let s ← { s with cursor, keyAllowed }.staleKeys
  let s := s.unrollIndent s.cursor.mark.column
  let atLineStart := s.cursor.mark.column == 0
  let flow := s.inFlow
  match s.cursor.rest with
  | [] => s.fetchStreamEnd
  | c :: r =>
    if atLineStart && c == '%' then s.fetchDirective
    else if atLineStart && startsMarker (c :: r) then
      s.fetchMarker (if c == '-' then .documentStart else .documentEnd)
    else if c == '[' then s.fetchFlowStart .flowSequenceStart
    else if c == '\x7b' then s.fetchFlowStart .flowMappingStart
    else if c == ']' then s.fetchFlowEnd .flowSequenceEnd
    else if c == '\x7d' then s.fetchFlowEnd .flowMappingEnd
    else if c == ',' then s.fetchFlowEntry
    else if c == '-' && blankZAt r then s.fetchBlockEntry
    else if c == '?' && (flow || blankZAt r) then s.fetchKey
    else if c == ':' && (flow || blankZAt r) then s.fetchValue
    else if c == '*' then s.fetchAnchor true
    else if c == '&' then s.fetchAnchor false
    else if c == '!' then s.fetchTag
    else if c == '|' && !flow then s.fetchBlockScalar true
    else if c == '>' && !flow then s.fetchBlockScalar false
    else if c == '\x27' then s.fetchQuoted true
    else if c == '"' then s.fetchQuoted false
    else if startsPlain flow (c :: r) then s.fetchPlain
    else none

end Scanner

/-- The tokens of a YAML text, from the stream start to the stream end; none when the text
cannot be cut into tokens. A byte order mark at the very start is no part of the text. -/
def tokenize (text : List Char) : Option (List Token) :=
  let text := match text with
    | '\uFEFF' :: r => r
    | r => r
  loop (text.length + 2) { cursor := ⟨text, {}⟩, tokens := #[.streamStart] }
where
  /-- Reads tokens until the stream ends; each step reads at least one character. -/
  loop : Nat → Scanner → Option (List Token)
    | 0, _ => none
    | fuel + 1, s => do
      let s ← s.fetchNext
      if s.finished then pure s.tokens.toList else loop fuel s

end OrphanedCode.Yaml
