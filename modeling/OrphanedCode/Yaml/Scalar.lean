import OrphanedCode.Yaml.Token
/-!
Reading the pieces of a YAML token that carry text: plain, quoted and block scalars, anchor
names, tags and directives.

Scalars that span lines fold their line breaks. Between two runs of text, blanks are kept as
they are when no line break came between; otherwise a single LF break becomes a space, an LF
followed by more breaks becomes those breaks, and an LS or PS break keeps itself and the breaks
after it. A block scalar keeps its lines as they are (literal) or joins lines that start with no
blank by a space (folded), and its last breaks are chomped as its header says.

Every reader returns what it read with the position after it, or nothing when the text is not
well formed there.
-/

namespace OrphanedCode.Yaml

/-- Text held back between two runs of a scalar: the blanks after a run, or the first line break
and the breaks after it. -/
structure Gap where
  blanks : List Char := []
  firstBreak : Option (List Char) := none
  breaks : List Char := []

/-- A gap with one more blank; blanks after a line break are not kept. -/
def Gap.addBlank (g : Gap) (c : Char) : Gap :=
  if g.firstBreak.isNone then { g with blanks := g.blanks ++ [c] } else g

/-- A gap with one more line break; the first break drops the blanks before it. -/
def Gap.addBreak (g : Gap) (b : List Char) : Gap :=
  match g.firstBreak with
  | none => { firstBreak := some b }
  | some _ => { g with breaks := g.breaks ++ b }

/-- The text a gap stands for between two runs. -/
def Gap.text (g : Gap) : List Char :=
  match g.firstBreak with
  | none => g.blanks
  | some b => if b == ['\n'] then (if g.breaks.isEmpty then [' '] else g.breaks) else b ++ g.breaks

/-- Reads blanks and line breaks into a gap. With a limit, a tab left of that column on a
continuation line is refused. -/
def readGap (tabLimit : Option Int) : List Char → Mark → Gap → Option (Gap × Cursor)
  | [], m, g => some (g, ⟨[], m⟩)
  | '\r' :: '\n' :: r, m, g => readGap tabLimit r (m.newline 2) (g.addBreak ['\n'])
  | c :: r, m, g =>
    if isBlank c then
      let tooFar := match tabLimit with
        | some l => (m.column : Int) < l
        | none => false
      if c == '\t' && g.firstBreak.isSome && tooFar then none
      else readGap tabLimit r m.next (g.addBlank c)
    else if isBreak c then readGap tabLimit r (m.newline 1) (g.addBreak (breakText c))
    else some (g, ⟨c :: r, m⟩)

/-! ## Plain scalars -/

/-- Reads a run of a plain scalar, up to a blank, a break, the end, `:` before a blank, or in
flow context one of `,` `[` `]` `{` `}`. In flow context a `:` right before one of `,` `?` `[`
`]` `{` `}` is refused. -/
def plainRun (flow : Bool) : List Char → Mark → List Char → Option (List Char × Cursor)
  | [], m, acc => some (acc.reverse, ⟨[], m⟩)
  | c :: r, m, acc =>
    if isBlank c || isBreak c then some (acc.reverse, ⟨c :: r, m⟩)
    else if flow && c == ':' && startsWithOneOf ",?[]\x7b\x7d" r then none
    else if (c == ':' && blankZAt r) || (flow && ",[]\x7b\x7d".contains c) then
      some (acc.reverse, ⟨c :: r, m⟩)
    else plainRun flow r m.next (c :: acc)

/-- Reads a plain scalar at the cursor. It ends before a comment, a document marker at the
start of a line, an indicator that ends a run, or, in block context, a line indented less than
`indent`. Returns its text, whether line breaks came after its last run, and the position. -/
def scanPlain (flow : Bool) (indent : Int) (start : Cursor) : Option (String × Bool × Cursor) :=
  go (start.rest.length + 1) [] {} start
where
  /-- One run and the gap after it, while the scalar goes on. -/
  go : Nat → List Char → Gap → Cursor → Option (String × Bool × Cursor)
    | 0, _, _, _ => none
    | fuel + 1, acc, gap, cur =>
      if (cur.mark.column == 0 && startsMarker cur.rest) || cur.rest.head? == some '#' then
        some (String.ofList acc, gap.firstBreak.isSome, cur)
      else
        match plainRun flow cur.rest cur.mark [] with
        | none => none
        | some (run, next) =>
          let (acc, gap) := if run.isEmpty then (acc, gap) else (acc ++ gap.text ++ run, {})
          if next.rest.isEmpty || !blankZAt next.rest then
            some (String.ofList acc, gap.firstBreak.isSome, next)
          else
            match readGap (some indent) next.rest next.mark gap with
            | none => none
            | some (gap, after) =>
              if !flow && (after.mark.column : Int) < indent then
                some (String.ofList acc, gap.firstBreak.isSome, after)
              else go fuel acc gap after

/-! ## Quoted scalars -/

/-- The character a one-letter escape of a double-quoted scalar stands for. -/
def simpleEscape (c : Char) : Option Char :=
  match c with
  | '0' => some '\x00'
  | 'a' => some '\x07'
  | 'b' => some '\x08'
  | 't' => some '\t'
  | '\t' => some '\t'
  | 'n' => some '\n'
  | 'v' => some '\x0b'
  | 'f' => some '\x0c'
  | 'r' => some '\r'
  | 'e' => some '\x1b'
  | ' ' => some ' '
  | '"' => some '"'
  | '/' => some '/'
  | '\x27' => some '\x27'
  | '\\' => some '\\'
  | 'N' => some '\x85'
  | '_' => some '\xa0'
  | 'L' => some '\u2028'
  | 'P' => some '\u2029'
  | _ => none

/-- The number of hexadecimal digits after an escape letter that gives a code point. -/
def escapeWidth (c : Char) : Nat :=
  if c == 'x' then 2 else if c == 'u' then 4 else if c == 'U' then 8 else 0

/-- Reads a run of a quoted scalar, up to a blank, a break, the closing quote or the end. In a
single-quoted scalar two quotes stand for one; in a double-quoted one, escapes are decoded, and
a backslash before a line break ends the run, which the second result then says. -/
def quotedRun (single : Bool) : List Char → Mark → List Char → Option (List Char × Bool × Cursor)
  | [], m, acc => some (acc.reverse, false, ⟨[], m⟩)
  | c :: r, m, acc =>
    if isBlank c || isBreak c then some (acc.reverse, false, ⟨c :: r, m⟩)
    else if single then
      if c == '\x27' then
        match r with
        | '\x27' :: more => quotedRun single more (m.forward 2) ('\x27' :: acc)
        | _ => some (acc.reverse, false, ⟨c :: r, m⟩)
      else quotedRun single r m.next (c :: acc)
    else if c == '"' then some (acc.reverse, false, ⟨c :: r, m⟩)
    else if c == '\\' then
      match r with
      | [] => none
      | d :: more =>
        if isBreak d then some (acc.reverse, true, Cursor.skipLine ⟨d :: more, m.next⟩)
        else
          match simpleEscape d with
          | some e => quotedRun single more (m.forward 2) (e :: acc)
          | none =>
            let width := escapeWidth d
            let digits := more.take width
            if width == 0 || digits.length < width then none
            else
              match radixValue? 16 digits with
              | none => none
              | some v =>
                if (0xD800 ≤ v && v ≤ 0xDFFF) || v > 0x10FFFF then none
                else quotedRun single (more.drop width) (m.forward (2 + width)) (Char.ofNat v :: acc)
    else quotedRun single r m.next (c :: acc)
termination_by cs => cs.length

/-- Reads a quoted scalar whose opening quote is at the cursor. A document marker at the start
of a line, or the end of the text, inside it is refused. -/
def scanQuoted (single : Bool) (start : Cursor) : Option (String × Cursor) :=
  go (start.rest.length + 1) [] (start.forward 1)
where
  /-- One run and the gap after it, until the closing quote. -/
  go : Nat → List Char → Cursor → Option (String × Cursor)
    | 0, _, _ => none
    | fuel + 1, acc, cur =>
      if (cur.mark.column == 0 && startsMarker cur.rest) || cur.rest.isEmpty then none
      else
        match quotedRun single cur.rest cur.mark [] with
        | none => none
        | some (run, escapedBreak, next) =>
          if next.rest.head? == some (if single then '\x27' else '"') then
            some (String.ofList (acc ++ run), next.forward 1)
          else
            let gap : Gap := if escapedBreak then { firstBreak := some [] } else {}
            match readGap none next.rest next.mark gap with
            | none => none
            | some (gap, after) => go fuel (acc ++ run ++ gap.text) after

/-! ## Block scalars -/

/-- Reads the empty lines before a line of a block scalar, with their breaks, and the spaces
that indent the next line up to `indent` (all of them while the indentation is not yet known,
`indent = 0`). A tab inside that indentation is refused. Also returns the deepest column the
spaces reached. -/
def blockBreaks (indent : Nat) : List Char → Mark → Nat → List Char →
    Option (Nat × List Char × Cursor)
  | [], m, top, bs => some (top, bs, ⟨[], m⟩)
  | '\r' :: '\n' :: r, m, top, bs => blockBreaks indent r (m.newline 2) top (bs ++ ['\n'])
  | c :: r, m, top, bs =>
    let room := indent == 0 || m.column < indent
    if c == ' ' && room then blockBreaks indent r m.next (max top (m.column + 1)) bs
    else if c == '\t' && room then none
    else if isBreak c then blockBreaks indent r (m.newline 1) top (bs ++ breakText c)
    else some (top, bs, ⟨c :: r, m⟩)

/-- The break at the cursor as scalar text, and the position after it. -/
def Cursor.readBreak (c : Cursor) : List Char × Cursor :=
  match c.rest with
  | b :: _ => if isBreak b then (breakText b, c.skipLine) else ([], c)
  | [] => ([], c)

/-- The cursor after the blanks at its start. -/
def Cursor.skipBlanks (c : Cursor) : Cursor :=
  c.forward (c.rest.takeWhile isBlank).length

/-- Reads the header of a block scalar after its indicator: a chomping sign (`-` strips the last
breaks, `+` keeps them all, none keeps one) and an indentation digit from 1 to 9, in either
order. -/
def blockHeader (cur : Cursor) : Option (Int × Nat × Cursor) :=
  let chompOf (c : Char) : Int := if c == '+' then 1 else -1
  let digit (c : Char) : Nat := c.toNat - '0'.toNat
  match cur.rest with
  | c :: r =>
    if c == '+' || c == '-' then
      match r with
      | d :: _ =>
        if d == '0' then none
        else if d.isDigit then some (chompOf c, digit d, cur.forward 2)
        else some (chompOf c, 0, cur.forward 1)
      | [] => some (chompOf c, 0, cur.forward 1)
    else if c == '0' then none
    else if c.isDigit then
      match r with
      | d :: _ =>
        if d == '+' || d == '-' then some (chompOf d, digit c, cur.forward 2)
        else some (0, digit c, cur.forward 1)
      | [] => some (0, digit c, cur.forward 1)
    else some (0, 0, cur)
  | [] => some (0, 0, cur)

/-- Reads a block scalar whose indicator is at the cursor, inside a block collection indented
at `parent`. The header line may end in a comment. The indentation is given by the header, or
is that of the first line with text, and at least one more than `parent`; the scalar ends at
the first line indented less. -/
def scanBlock (literal : Bool) (parent : Int) (start : Cursor) : Option (String × Cursor) := do
  let (chomp, step, cur) ← blockHeader (start.forward 1)
  let cur := cur.skipBlanks
  let cur := if cur.rest.head? == some '#' then cur.restOfLine.2 else cur
  if !breakZAt cur.rest then none
  let cur := cur.skipLine
  let given : Nat := if step == 0 then 0 else if parent ≥ 0 then (parent + step).toNat else step
  let (top, breaks, cur) ← blockBreaks given cur.rest cur.mark 0 []
  let indent := if given > 0 then given else max (max top (parent + 1).toNat) 1
  let (text, lastBreak, trailing, cur) ←
    lines indent (cur.rest.length + 1) [] [] breaks false cur
  let text := if chomp == -1 then text else text ++ lastBreak
  let text := if chomp == 1 then text ++ trailing else text
  pure (String.ofList text, cur)
where
  /-- The lines at the scalar's indentation: returns the text so far, the break after the last
  line and the empty lines after it. -/
  lines (indent : Nat) : Nat → List Char → List Char → List Char → Bool → Cursor →
      Option (List Char × List Char × List Char × Cursor)
    | 0, _, _, _, _, _ => none
    | fuel + 1, text, leadingBreak, trailing, leadingBlank, cur =>
      if cur.mark.column == indent && !cur.rest.isEmpty then
        let trailingBlank := (cur.rest.head?.map isBlank).getD false
        let text :=
          if !literal && leadingBreak == ['\n'] && !leadingBlank && !trailingBlank then
            if trailing.isEmpty then text ++ [' '] else text
          else text ++ leadingBreak
        let text := text ++ trailing
        let (line, cur) := cur.restOfLine
        let (lineBreak, cur) := cur.readBreak
        match blockBreaks indent cur.rest cur.mark 0 [] with
        | none => none
        | some (_, trailing, cur) =>
          lines indent fuel (text ++ line) lineBreak trailing trailingBlank cur
      else some (text, leadingBreak, trailing, cur)

/-! ## Anchors, tags and directives -/

/-- Reads the name of an anchor or an alias whose `&` or `*` is at the cursor: letters, digits,
`_` and `-`, followed by a blank, a break, the end, or one of `?` `:` `,` `]` `}` `%` `@` and the
backquote. -/
def scanAnchorName (cur : Cursor) : Option (String × Cursor) :=
  let body := cur.rest.drop 1
  let name := body.takeWhile isWordChar
  let after := body.drop name.length
  if name.isEmpty then none
  else if blankZAt after || startsWithOneOf "?:,]\x7d%@\x60" after then
    some (String.ofList name, cur.forward (1 + name.length))
  else none

/-- Whether a character may stand in the URI of a tag; inside `!<...>` and in a directive also
`,`, `[` and `]`. -/
def isUriChar (wide : Bool) (c : Char) : Bool :=
  isWordChar c || ";/?:@&=+$.%!~*\x27()".contains c || (wide && ",[]".contains c)

/-- The value of a `%XX` escape at the start of text. -/
def octetAt : List Char → Option Nat
  | '%' :: a :: b :: _ => radixValue? 16 [a, b]
  | _ => none

/-- The code point that UTF-8 octets encode, or U+FFFD when they encode none. -/
def octetsChar (octets : List Nat) : Char :=
  let value : Nat :=
    match octets with
    | [a] => a
    | [a, b] => (a % 32) * 64 + b % 64
    | [a, b, c] => ((a % 16) * 64 + b % 64) * 64 + c % 64
    | [a, b, c, d] => (((a % 8) * 64 + b % 64) * 64 + c % 64) * 64 + d % 64
    | _ => 0xFFFD
  if (0xD800 ≤ value && value ≤ 0xDFFF) || value > 0x10FFFF then '\uFFFD' else Char.ofNat value

/-- Reads `%XX` escapes that together encode one character in UTF-8: the first octet says how
many follow, and each of those must be a continuation octet. -/
def uriEscape (cur : Cursor) : Option (Char × Cursor) := do
  let lead ← octetAt cur.rest
  let width : Nat :=
    if lead < 0x80 then 1 else if lead / 32 == 6 then 2 else if lead / 16 == 14 then 3
    else if lead / 8 == 30 then 4 else 0
  if width == 0 then none
  let rest := cur.rest.drop 3
  let more ← (List.range (width - 1)).mapM fun i => do
    let o ← octetAt (rest.drop (3 * i))
    if o / 64 == 2 then some o else none
  pure (octetsChar (lead :: more), cur.forward (3 * width))

/-- Reads the URI part of a tag or a tag directive. `lead` is text already read as a would-be
handle; its `!` is dropped and the rest begins the URI. Refused when nothing at all was read. -/
def tagUri (wide : Bool) (lead : List Char) (start : Cursor) : Option (List Char × Cursor) :=
  go (start.rest.length + 1) (lead.drop 1) lead.length start
where
  /-- One character or escape of the URI at a time. -/
  go : Nat → List Char → Nat → Cursor → Option (List Char × Cursor)
    | 0, _, _, _ => none
    | fuel + 1, acc, count, cur =>
      match cur.rest with
      | c :: _ =>
        if isUriChar wide c then
          if c == '%' then
            match uriEscape cur with
            | some (d, next) => go fuel (acc ++ [d]) (count + 1) next
            | none => none
          else go fuel (acc ++ [c]) (count + 1) (cur.forward 1)
        else if count == 0 then none else some (acc, cur)
      | [] => if count == 0 then none else some (acc, cur)

/-- Reads a tag handle: `!`, then letters, digits, `_` and `-`, then possibly a closing `!`. In
a directive a handle with letters must be closed. -/
def tagHandle (directive : Bool) (cur : Cursor) : Option (List Char × Cursor) :=
  match cur.rest with
  | '!' :: r =>
    let word := r.takeWhile isWordChar
    match r.drop word.length with
    | '!' :: _ => some ('!' :: word ++ ['!'], cur.forward (word.length + 2))
    | _ =>
      if directive && !word.isEmpty then none
      else some ('!' :: word, cur.forward (word.length + 1))
  | _ => none

/-- Reads a tag whose `!` is at the cursor: `!<uri>` taken as it is, `!handle!suffix`, `!suffix`
under the handle `!`, or `!` alone. It must be followed by a blank, a break, the end, or in flow
context a comma. Returns the handle and the suffix. -/
def scanTag (flow : Bool) (cur : Cursor) : Option ((String × String) × Cursor) := do
  let (handle, suffix, cur) ←
    match cur.rest with
    | '!' :: '<' :: _ => do
      let (uri, cur) ← tagUri true [] (cur.forward 2)
      match cur.rest with
      | '>' :: _ => pure ([], uri, cur.forward 1)
      | _ => none
    | _ => do
      let (handle, cur) ← tagHandle false cur
      if handle.length > 1 && handle.getLast? == some '!' then
        let (suffix, cur) ← tagUri false [] cur
        pure (handle, suffix, cur)
      else
        let (suffix, cur) ← tagUri false handle cur
        if suffix.isEmpty then pure ([], ['!'], cur) else pure (['!'], suffix, cur)
  if blankZAt cur.rest || (flow && cur.rest.head? == some ',') then
    some ((String.ofList handle, String.ofList suffix), cur)
  else none

/-- Reads the number of a version directive: one to nine digits. -/
def versionNumber (cur : Cursor) : Option (Nat × Cursor) :=
  let digits := cur.rest.takeWhile Char.isDigit
  if digits.isEmpty || digits.length > 9 then none
  else some (digits.foldl (fun n d => n * 10 + (d.toNat - '0'.toNat)) 0, cur.forward digits.length)

/-- Reads a directive whose `%` is at the start of a line: `%YAML major.minor` or
`%TAG handle uri`, then blanks and a comment up to the end of the line. Other directives are
refused. -/
def scanDirective (cur : Cursor) : Option (Token × Cursor) := do
  let name := (cur.rest.drop 1).takeWhile isWordChar
  if name.isEmpty then none
  let cur := cur.forward (1 + name.length)
  if !blankZAt cur.rest then none
  let (token, cur) ←
    if name == "YAML".toList then do
      let (major, cur) ← versionNumber cur.skipBlanks
      if cur.rest.head? != some '.' then none
      let (minor, cur) ← versionNumber (cur.forward 1)
      pure (Token.versionDirective major minor, cur)
    else if name == "TAG".toList then do
      let (handle, cur) ← tagHandle true cur.skipBlanks
      if !((cur.rest.head?.map isBlank).getD false) then none
      let (uri, cur) ← tagUri true [] cur.skipBlanks
      if !blankZAt cur.rest then none
      pure (Token.tagDirective (String.ofList handle) (String.ofList uri), cur)
    else none
  let cur := cur.skipBlanks
  let cur := if cur.rest.head? == some '#' then cur.restOfLine.2 else cur
  if !breakZAt cur.rest then none
  pure (token, cur.skipLine)

end OrphanedCode.Yaml
