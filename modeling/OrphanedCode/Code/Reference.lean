import OrphanedCode.Text.Lines
import OrphanedCode.Text.Word
import OrphanedCode.Code.Item
/-!
Uses of a name in a text.

A name occurs as a whole word at a place of a line when the line continues with the name there
and a word boundary lies both before and after it (the edges of a line count as non-word
characters). Occurrences are taken from the left without overlap, line by line; the first one in
the whole text is taken for the declaration and dropped. Columns count bytes from 1.
-/

namespace OrphanedCode.Reference

/-- The byte offsets at which the name `n :: ns` occurs as a whole word in a line, from the left
and without overlap; `before` is the character in front of the rest of the line and `offset` the
byte offset of that rest. -/
def offsetsFrom (n : Char) (ns : List Char) : Option Char → List Char → Nat → List Nat
  | _, [], _ => []
  | before, c :: cs, offset =>
    let after := (c :: cs).drop (ns.length + 1)
    let last := ns.getLast?.getD n
    if (n :: ns).isPrefixOf (c :: cs) && Text.isWordBoundary before (some n) &&
        Text.isWordBoundary (some last) after.head? then
      offset :: offsetsFrom n ns (some last) after (offset + Text.byteLength (n :: ns))
    else offsetsFrom n ns (some c) cs (offset + c.utf8Size)
  termination_by _ rest _ => rest.length
  decreasing_by
    all_goals simp only [List.length_drop, List.length_cons]
    all_goals omega

/-- The byte offsets at which a non-empty name occurs as a whole word in a line. -/
def wholeWordOffsets (name : List Char) (line : List Char) : List Nat :=
  match name with
  | [] => []
  | n :: ns => offsetsFrom n ns none line 0

/-- Whether the name occurs as a whole word in the line. -/
def occursAsWord (name : List Char) (line : List Char) : Bool :=
  !(wholeWordOffsets name line).isEmpty

/-- Every whole-word occurrence of a name in a text, line by line, as places. -/
def occurrences (name : String) (content : String) : List ReferenceSite :=
  ((Text.linesOfChars content.toList).mapIdx fun i line =>
    (wholeWordOffsets name.toList line).map fun o => ReferenceSite.mk (i + 1) (o + 1)).flatten

/-- The uses of a name in a text: its whole-word occurrences but the first. -/
def sites (name : String) (content : String) : List ReferenceSite :=
  (occurrences name content).drop 1

end OrphanedCode.Reference
