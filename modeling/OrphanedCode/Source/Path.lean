import OrphanedCode.Text.Lines
/-!
File paths as sequences of components.

A path is cut at its slashes; empty pieces and `.` pieces are no components, except that a path
that is `.` or starts with `./` begins with the current directory, and a path that starts with a
slash begins with the root. Paths compare component by component (the root before the current
directory, before the parent, before named components, which compare as text), so `a/z.js` comes
before `a-b.js`.
-/

namespace OrphanedCode.SourcePath

/-- One component of a path. -/
inductive Component where
  | root
  | current
  | parent
  | normal (name : String)
  deriving DecidableEq, Repr

/-- The components of a path. -/
def components (p : String) : List Component :=
  let cs := p.toList
  let lead : List Component :=
    if cs.head? == some '/' then [.root]
    else if cs == ['.'] || cs.take 2 == ['.', '/'] then [.current]
    else []
  lead ++ (Text.splitChars '/' cs).filterMap fun piece =>
    if piece.isEmpty || piece == ['.'] then none
    else if piece == ['.', '.'] then some .parent
    else some (.normal (String.ofList piece))

/-- The rank of a component kind in the order of paths. -/
def Component.rank : Component → Nat
  | .root => 0
  | .current => 1
  | .parent => 2
  | .normal _ => 3

/-- The order of components: by kind, then named components as text. -/
def Component.compare (a b : Component) : Ordering :=
  match a, b with
  | .normal x, .normal y => Ord.compare x y
  | _, _ => Ord.compare a.rank b.rank

/-- The order of component lists: the first difference decides, and a prefix comes first. -/
def compareComponents : List Component → List Component → Ordering
  | [], [] => .eq
  | [], _ :: _ => .lt
  | _ :: _, [] => .gt
  | a :: as, b :: bs =>
    match a.compare b with
    | .eq => compareComponents as bs
    | o => o

/-- The order of paths, component by component. -/
def compare (p q : String) : Ordering :=
  compareComponents (components p) (components q)

/-- The last component of a path, when it is a named one. -/
def fileName? (p : String) : Option String :=
  match (components p).getLast? with
  | some (.normal n) => some n
  | _ => none

/-- The extension of a file name: the text after its last dot, when that dot is not the first
character. -/
def extensionOfName? (name : String) : Option String :=
  let rev := name.toList.reverse
  let after := rev.takeWhile (· != '.')
  if after.length == rev.length then none
  else
    let before := rev.drop (after.length + 1)
    if before.isEmpty then none else some (String.ofList after.reverse)

/-- The extension of a path's file name. -/
def extension? (p : String) : Option String :=
  (fileName? p).bind extensionOfName?

/-- Whether a piece of a path between slashes names no component: it is empty or `.`. -/
def isBlankPiece (piece : List Char) : Bool :=
  piece.isEmpty || piece == ['.']

/-- The pieces that follow the first `k` pieces that name components. -/
def dropNamed : Nat → List (List Char) → List (List Char)
  | 0, pieces => pieces
  | _, [] => []
  | k + 1, piece :: pieces =>
    if isBlankPiece piece then dropNamed (k + 1) pieces else dropNamed k pieces

/-- Pieces without the blank pieces at their end. -/
def trimEnd (pieces : List (List Char)) : List (List Char) :=
  (pieces.reverse.dropWhile isBlankPiece).reverse

/-- A path relative to `base`, when the components of `base` begin those of the path. The result
is the path's own text after those components, less empty and `.` pieces at both ends, so inner
doubled slashes stay. -/
def stripPrefix? (p base : String) : Option String :=
  let pc := components p
  let bc := components base
  if bc.isPrefixOf pc then
    let lead := match pc.head? with
      | some .root => 1
      | some .current => 1
      | _ => 0
    let rest := (Text.splitChars '/' p.toList).drop lead
    let join (ps : List (List Char)) : String := String.ofList ((ps.intersperse ['/']).flatten)
    if bc.isEmpty then
      let body := join (trimEnd rest)
      some (match pc.head? with
        | some .root => "/" ++ body
        | some .current => if body.isEmpty then "." else "./" ++ body
        | _ => body)
    else
      some (join (trimEnd ((dropNamed (bc.length - lead) rest).dropWhile isBlankPiece)))
  else none

end OrphanedCode.SourcePath
