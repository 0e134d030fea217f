/-!
Lines and pieces of a text.

A text is cut into lines at line feeds; a line that ends in a carriage return just before its
line feed loses that carriage return, and a line feed at the very end opens no further line. A
lone carriage return, a vertical tab, a form feed and the Unicode line separators do not break a
line.
-/

namespace OrphanedCode.Text

/-- Cuts a character list at every `sep`; there is always one more piece than separators. -/
def splitChars (sep : Char) : List Char → List (List Char)
  | [] => [[]]
  | c :: cs =>
    if c = sep then [] :: splitChars sep cs
    else
      match splitChars sep cs with
      | p :: ps => (c :: p) :: ps
      | [] => [[c]]

/-- A line without the one carriage return that may end it. -/
def dropCarriageReturn (l : List Char) : List Char :=
  if l.getLast? = some '\r' then l.dropLast else l

/-- The lines of a character list. -/
def linesOfChars (cs : List Char) : List (List Char) :=
  match (splitChars '\n' cs).reverse with
  | [] => []
  | last :: rest => rest.reverse.map dropCarriageReturn ++ (if last.isEmpty then [] else [last])

/-- The lines of a text. -/
def lines (s : String) : List String :=
  (linesOfChars s.toList).map String.ofList

/-- The pieces of a text between the occurrences of `sep`. -/
def pieces (s : String) (sep : Char) : List String :=
  (splitChars sep s.toList).map String.ofList

/-- The number of bytes that a character list takes in UTF-8. -/
def byteLength (cs : List Char) : Nat :=
  cs.foldr (fun c n => c.utf8Size + n) 0

end OrphanedCode.Text
