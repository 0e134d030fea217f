/-!
Blank characters: the Unicode `White_Space` property, and trimming by it.

The class holds the ASCII blanks tab, line feed, vertical tab, form feed, carriage return and
space, and the Unicode spaces and separators such as U+00A0, U+2028 and U+3000. It does not hold
U+200B or U+FEFF, which are formatting characters and not spaces.
-/

namespace OrphanedCode.Text

/-- Whether a character has the Unicode `White_Space` property. -/
def isBlank (c : Char) : Bool :=
  let n := c.toNat
  (0x9 ≤ n && n ≤ 0xD) || n == 0x20 || n == 0x85 || n == 0xA0 || n == 0x1680 ||
    (0x2000 ≤ n && n ≤ 0x200A) || n == 0x2028 || n == 0x2029 || n == 0x202F ||
    n == 0x205F || n == 0x3000

/-- Drops blanks at the end of a character list. -/
def dropBlankEnd (cs : List Char) : List Char :=
  ((cs.reverse).dropWhile isBlank).reverse

/-- Drops blanks at both ends of a character list. -/
def trimChars (cs : List Char) : List Char :=
  dropBlankEnd (cs.dropWhile isBlank)

/-- A text without its leading and trailing blanks. -/
def trim (s : String) : String :=
  String.ofList (trimChars s.toList)

/-- A text without its trailing blanks. -/
def trimEnd (s : String) : String :=
  String.ofList (dropBlankEnd s.toList)

/-- Whether a text is empty or made of blanks only. -/
def isBlankText (s : String) : Bool :=
  s.toList.all isBlank

end OrphanedCode.Text
