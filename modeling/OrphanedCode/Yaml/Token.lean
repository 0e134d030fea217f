import OrphanedCode.Yaml.Node
/-!
YAML tokens and reading positions.

A YAML text is cut into tokens: stream and document markers, directives, the starts and ends of
block and flow collections, entry, key and value indicators, anchors, aliases, tags and
scalars. A reading position keeps what is left of the text with its mark: the number of
characters read, the line and the column.

Line breaks are CR LF, CR, LF, NEL (U+0085), LS (U+2028) and PS (U+2029). Inside a scalar the
first four read as LF, while LS and PS keep themselves.
-/

namespace OrphanedCode.Yaml

/-- A position in the text: characters read, line and column, all counted from zero. -/
structure Mark where
  index : Nat := 0
  line : Nat := 0
  column : Nat := 0
  deriving Inhabited, Repr

/-- The mark after `n` characters within a line. -/
def Mark.forward (m : Mark) (n : Nat) : Mark :=
  { m with index := m.index + n, column := m.column + n }

/-- The mark after the next character within a line. -/
def Mark.next (m : Mark) : Mark :=
  m.forward 1

/-- The mark after a line break of `width` characters. -/
def Mark.newline (m : Mark) (width : Nat) : Mark :=
  ⟨m.index + width, m.line + 1, 0⟩

/-- What is left to read and where it starts. -/
structure Cursor where
  rest : List Char
  mark : Mark
  deriving Inhabited

/-- Whether a character breaks a line. -/
def isBreak (c : Char) : Bool :=
  c == '\n' || c == '\r' || c == '\x85' || c == '\u2028' || c == '\u2029'

/-- Whether a character is a blank: a space or a tab. -/
def isBlank (c : Char) : Bool :=
  c == ' ' || c == '\t'

/-- Whether text starts with a blank, a line break, or is at its end. -/
def blankZAt : List Char → Bool
  | [] => true
  | c :: _ => isBlank c || isBreak c

/-- Whether text starts with a line break or is at its end. -/
def breakZAt : List Char → Bool
  | [] => true
  | c :: _ => isBreak c

/-- Whether text starts with a character of `set`. -/
def startsWithOneOf (set : String) : List Char → Bool
  | [] => false
  | c :: _ => set.contains c

/-- Whether a character may stand in an anchor, a directive name or a tag handle: an ASCII
letter or digit, `_` or `-`. -/
def isWordChar (c : Char) : Bool :=
  c.isAlphanum || c == '_' || c == '-'

/-- Whether a character may stand in a YAML text at all: tab, LF, CR, NEL, the printable ASCII
characters, and the code points from U+00A0 on that are no surrogates and not U+FFFE or U+FFFF. -/
def isAllowedChar (c : Char) : Bool :=
  let n := c.toNat
  n == 0x09 || n == 0x0A || n == 0x0D || (0x20 ≤ n && n ≤ 0x7E) || n == 0x85 ||
    (0xA0 ≤ n && n ≤ 0xD7FF) || (0xE000 ≤ n && n ≤ 0xFFFD) || (0x10000 ≤ n && n ≤ 0x10FFFF)

/-- Whether text starts with a document marker, `---` or `...`, followed by a blank, a break or
the end. -/
def startsMarker : List Char → Bool
  | '-' :: '-' :: '-' :: r => blankZAt r
  | '.' :: '.' :: '.' :: r => blankZAt r
  | _ => false

/-- The cursor after `n` characters within a line. -/
def Cursor.forward (c : Cursor) (n : Nat) : Cursor :=
  ⟨c.rest.drop n, c.mark.forward n⟩

/-- The cursor after a line break at its start; CR LF counts as one break of two characters. -/
def Cursor.skipLine (c : Cursor) : Cursor :=
  match c.rest with
  | '\r' :: '\n' :: r => ⟨r, c.mark.newline 2⟩
  | b :: r => if isBreak b then ⟨r, c.mark.newline 1⟩ else c
  | [] => c

/-- The text a line break stands for inside a scalar. -/
def breakText (b : Char) : List Char :=
  if b == '\u2028' || b == '\u2029' then [b] else ['\n']

/-- The cursor after the characters of a line, up to its break or the end of the text, with
those characters. -/
def Cursor.restOfLine (c : Cursor) : List Char × Cursor :=
  let line := c.rest.takeWhile (fun d => !isBreak d)
  (line, c.forward line.length)

/-- A token of a YAML text. -/
inductive Token where
  | streamStart
  | streamEnd
  | versionDirective (major minor : Nat)
  | tagDirective (handle expansion : String)
  | documentStart
  | documentEnd
  | blockSequenceStart
  | blockMappingStart
  | blockEnd
  | flowSequenceStart
  | flowSequenceEnd
  | flowMappingStart
  | flowMappingEnd
  | blockEntry
  | flowEntry
  | key
  | value
  | alias (name : String)
  | anchor (name : String)
  | tag (handle suffix : String)
  | scalar (text : String) (style : ScalarStyle)
  deriving Inhabited

end OrphanedCode.Yaml
