import OrphanedCode.Text.Blank
import OrphanedCode.Text.Word
/-!
Readers for line idioms.

A reader looks at the front of a character list and either fails or returns what follows the part
it read. Blanks are the Unicode `White_Space` characters; word characters are the Unicode ones. A
caseless word also accepts the Kelvin sign for `k` and the long s for `s`, the two characters
outside ASCII that fold onto ASCII letters.
-/

namespace OrphanedCode.Reader

/-- Whether `c` matches the ASCII character `p` without regard to case. -/
def caselessEq (p c : Char) : Bool :=
  p.toLower == c.toLower || (p.toLower == 'k' && c == '\u212A') ||
    (p.toLower == 's' && c == '\u017F')

/-- Reads the word `w` exactly. -/
def word (w : List Char) (cs : List Char) : Option (List Char) :=
  match w, cs with
  | [], cs => some cs
  | p :: ps, c :: cs => if p == c then word ps cs else none
  | _ :: _, [] => none

/-- Reads the word `w` without regard to case. -/
def caseless (w : List Char) (cs : List Char) : Option (List Char) :=
  match w, cs with
  | [], cs => some cs
  | p :: ps, c :: cs => if caselessEq p c then caseless ps cs else none
  | _ :: _, [] => none

/-- Reads the first of the words that can be read without regard to case, returning the text as
written and what follows. -/
def caselessChoice (ws : List String) (cs : List Char) : Option (List Char × List Char) :=
  ws.findSome? fun w => (caseless w.toList cs).map fun rest => (cs.take w.length, rest)

/-- Reads one character `p`. -/
def char (p : Char) (cs : List Char) : Option (List Char) :=
  match cs with
  | c :: rest => if c == p then some rest else none
  | [] => none

/-- Skips any blanks. -/
def blanks (cs : List Char) : List Char :=
  cs.dropWhile Text.isBlank

/-- Reads at least one blank, and then all that follow. -/
def blanks1 (cs : List Char) : Option (List Char) :=
  match cs with
  | c :: rest => if Text.isBlank c then some (blanks rest) else none
  | [] => none

/-- Whether a character opens or closes a quoted route: a single quote, a double quote or a
backtick. -/
def isQuote (c : Char) : Bool :=
  c == '\x27' || c == '"' || c == '\x60'

/-- Reads one quote character. -/
def quote (cs : List Char) : Option (List Char) :=
  match cs with
  | c :: rest => if isQuote c then some rest else none
  | [] => none

/-- Reads a non-empty run of characters that satisfy `p`, returning the run and what follows. -/
def run1 (p : Char → Bool) (cs : List Char) : Option (List Char × List Char) :=
  let r := cs.takeWhile p
  if r.isEmpty then none else some (r, cs.dropWhile p)

/-- Reads a quoted text: a quote, a non-empty run of characters that are no quotes, a quote. -/
def quoted (cs : List Char) : Option (List Char × List Char) := do
  let r ← quote cs
  let (body, r) ← run1 (fun c => !isQuote c) r
  let r ← quote r
  pure (body, r)

/-- The result of the first position, from the left, at which `m` succeeds. -/
def leftmost {α : Type} (m : List Char → Option α) : List Char → Option α
  | [] => m []
  | c :: cs =>
    match m (c :: cs) with
    | some a => some a
    | none => leftmost m cs

end OrphanedCode.Reader
