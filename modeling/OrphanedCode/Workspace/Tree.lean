import OrphanedCode.Text.Lines
/-!
Workspaces: the directory tree that a run scans, held as a value.

A tree is a list of entries; an entry is a file with its bytes or a directory with its entries.
The root of a run is a directory, a plain file, or missing. A tree is built from a list of
relative paths, where a path ending in `/` stands for an empty directory and a later file at the
same path replaces an earlier one.
-/

namespace OrphanedCode

/-- An entry of a directory tree. -/
inductive Entry where
  | file (name : String) (bytes : List UInt8)
  | dir (name : String) (entries : List Entry)
  deriving Inhabited

/-- The name of an entry. -/
def Entry.name : Entry → String
  | .file n _ => n
  | .dir n _ => n

/-- What stands at the root of a run. -/
inductive WorkspaceRoot where
  | missing
  | file
  | dir (entries : List Entry)
  deriving Inhabited

namespace Entry

/-- A new entry for the path `names`, with the directories it needs. -/
def fresh (names : List String) (leaf : Option (List UInt8)) : Option Entry :=
  match names with
  | [] => none
  | [n] =>
    match leaf with
    | some bytes => some (.file n bytes)
    | none => some (.dir n [])
  | n :: m :: ms => some (.dir n (fresh (m :: ms) leaf).toList)

/-- Puts a file or an empty directory at the path `names` inside a list of entries. -/
def insertAt (names : List String) (leaf : Option (List UInt8)) : List Entry → List Entry
  | [] => (fresh names leaf).toList
  | e :: es =>
    match names with
    | [] => e :: es
    | n :: ns =>
      if e.name == n then
        match e, ns, leaf with
        | .dir _ children, _ :: _, _ => .dir n (insertAt ns leaf children) :: es
        | .dir _ children, [], none => .dir n children :: es
        | _, [], some bytes => .file n bytes :: es
        | .file _ _, _, _ => (fresh names leaf).toList ++ es
      else e :: insertAt names leaf es

end Entry

/-- The names along a relative path; a trailing `/` marks a directory. -/
def pathNames (path : String) : List String × Bool :=
  let pieces := Text.pieces path '/'
  (pieces.filter (fun p => !p.isEmpty && p != "."), path.endsWith "/")

/-- The tree of a list of relative paths, each with its bytes. -/
def Entry.ofFiles (files : List (String × List UInt8)) : List Entry :=
  files.foldl (fun tree (path, bytes) =>
    let (names, isDir) := pathNames path
    Entry.insertAt names (if isDir then none else some bytes) tree) []

/-- Follows path names from an entry, keeping the directories passed through: `..` goes back to
the directory before, and a name under a plain file or a name that is absent names nothing. -/
def Entry.follow : List String → Entry → List Entry → Option Entry
  | [], here, _ => some here
  | n :: ns, here, up =>
    match here with
    | .file _ _ => none
    | .dir _ children =>
      if n == ".." then
        match up with
        | p :: ps => Entry.follow ns p ps
        | [] => none
      else
        match children.find? (·.name == n) with
        | some e => Entry.follow ns e (here :: up)
        | none => none

/-- What a relative path names inside a root, if anything; a path ending in `/` names only a
directory. -/
def WorkspaceRoot.entryAt? (root : WorkspaceRoot) (path : String) : Option Entry :=
  match root with
  | .dir entries =>
    let (names, isDir) := pathNames path
    match Entry.follow names (.dir "" entries) [] with
    | some (.file n bytes) => if isDir then none else some (.file n bytes)
    | found => found
  | _ => none

/-- The bytes of the plain file that a relative path names, if it names one. -/
def WorkspaceRoot.fileBytes? (root : WorkspaceRoot) (path : String) : Option (List UInt8) :=
  match root.entryAt? path with
  | some (.file _ bytes) => some bytes
  | _ => none

end OrphanedCode
