import OrphanedCode.Workspace.Tree
import OrphanedCode.Workspace.Ignore
import OrphanedCode.Source.Path
import OrphanedCode.Code.Extract
import OrphanedCode.Code.Encode
/-!
Scanning a workspace: which files a run reads, and what they declare.

The walk never enters a directory below the root whose name starts with a dot or is one of the
excluded names. When ignore files are honoured, each directory's `.gitignore` and
`.git/info/exclude` hold rules for the paths below that directory: for an entry, the innermost
`.gitignore` with a matching rule decides, and only when none has one the innermost exclude file
with one. An ignored directory is not entered, so nothing inside it comes back.

Of the files reached, those with a known extension are read, in the order the walk reaches them;
one that is not UTF-8 is counted as skipped. What the files declare is then sorted by file, the
files compared as paths component by component, and by first line; declarations at one file and
line keep the order in which they were read.
-/

namespace OrphanedCode

namespace Workspace

/-- How a walk chooses the directories it enters. -/
structure WalkOptions where
  exclude : List String := []
  respectIgnores : Bool := false

/-- The rules of one directory above the entries being walked, with the path from that directory
down to them (empty or ending in a slash). -/
structure IgnoreLevel where
  ignoreRules : List Ignore.Rule
  excludeRules : List Ignore.Rule
  below : List UInt8

/-- The level one directory further down. -/
def IgnoreLevel.descend (l : IgnoreLevel) (name : String) : IgnoreLevel :=
  { l with below := l.below ++ name.toUTF8.toList ++ [Ignore.slash] }

/-- The bytes of the file at a path of names inside a list of entries. -/
def fileAt? (names : List String) (entries : List Entry) : Option (List UInt8) :=
  match names with
  | [] => none
  | [n] =>
    match entries.find? (·.name == n) with
    | some (.file _ bytes) => some bytes
    | _ => none
  | n :: rest =>
    match entries.find? (·.name == n) with
    | some (.dir _ inner) => fileAt? rest inner
    | _ => none

/-- The level of a directory with the given entries. -/
def IgnoreLevel.ofEntries (entries : List Entry) : IgnoreLevel :=
  { ignoreRules := ((fileAt? [".gitignore"] entries).map Ignore.rulesOfBytes).getD []
    excludeRules := ((fileAt? [".git", "info", "exclude"] entries).map Ignore.rulesOfBytes).getD []
    below := [] }

/-- Whether an entry of the current directory is ignored, the levels given innermost first. -/
def isIgnored (levels : List IgnoreLevel) (name : String) (isDir : Bool) : Bool :=
  let path (l : IgnoreLevel) := l.below ++ name.toUTF8.toList
  match levels.findSome? fun l => Ignore.verdict? l.ignoreRules (path l) isDir with
  | some ignored => ignored
  | none => (levels.findSome? fun l => Ignore.verdict? l.excludeRules (path l) isDir).getD false

/-- Whether the walk passes over a directory of this name. -/
def WalkOptions.skipsDir (opts : WalkOptions) (name : String) : Bool :=
  name.startsWith "." || opts.exclude.contains name

/-- A file that the walk reaches: its names below the root and its bytes. -/
structure Reached where
  names : List String
  bytes : List UInt8

mutual

/-- The files reached in a list of entries at the path `path`. -/
def walkEntries (opts : WalkOptions) (levels : List IgnoreLevel) (path : List String) :
    List Entry → List Reached
  | [] => []
  | e :: es => walkEntry opts levels path e ++ walkEntries opts levels path es

/-- The files reached from one entry at the path `path`. -/
def walkEntry (opts : WalkOptions) (levels : List IgnoreLevel) (path : List String) :
    Entry → List Reached
  | .file n bytes =>
    if opts.respectIgnores && isIgnored levels n false then [] else [⟨path ++ [n], bytes⟩]
  | .dir n entries =>
    if opts.skipsDir n || (opts.respectIgnores && isIgnored levels n true) then []
    else
      let outer := levels.map (·.descend n)
      let levels := if opts.respectIgnores then IgnoreLevel.ofEntries entries :: outer else outer
      walkEntries opts levels (path ++ [n]) entries

end

/-- The files reached from the root; a root that is missing or a plain file gives none. -/
def walk (opts : WalkOptions) : WorkspaceRoot → List Reached
  | .dir entries =>
    let levels := if opts.respectIgnores then [IgnoreLevel.ofEntries entries] else []
    walkEntries opts levels [] entries
  | _ => []

/-- The language of a reached file, by the extension of its name. -/
def Reached.language? (r : Reached) : Option Language :=
  (r.names.getLast?.bind SourcePath.extensionOfName?).bind Language.ofExtension?

/-- The path of a reached file below a root called `rootName`. -/
def Reached.path (r : Reached) (rootName : String) : String :=
  "/".intercalate (rootName :: r.names)

/-- The reached files that are sources, each with its language. -/
def sources (reached : List Reached) : List (Reached × Language) :=
  reached.filterMap fun r => r.language?.map (r, ·)

end Workspace

/-- What a scan of a workspace finds. -/
structure Inventory where
  endpoints : List CodeEndpoint
  functions : List CodeFunction
  filesScanned : Nat
  filesSkipped : Nat

namespace Inventory

/-- The empty inventory. -/
def empty : Inventory := ⟨[], [], 0, 0⟩

/-- Adds one file to an inventory: what it declares, or a skip when it is not UTF-8. -/
def addFile (inv : Inventory) (path : String) (language : Language) (bytes : List UInt8) :
    Inventory :=
  match Text.ofUtf8? bytes with
  | some text =>
    let found := Extract.file path language text
    { inv with endpoints := inv.endpoints ++ found.endpoints,
               functions := inv.functions ++ found.functions,
               filesScanned := inv.filesScanned + 1 }
  | none => { inv with filesSkipped := inv.filesSkipped + 1 }

/-- The order of declarations in an inventory: by file, the files compared as paths, then by
first line. -/
def compareFileLine (a b : String × Nat) : Ordering :=
  (SourcePath.compare a.1 b.1).then (compare a.2 b.2)

/-- Declarations sorted by file and first line; those at one file and line keep their order. -/
def sortByFileLine {β : Type} (key : β → String × Nat) (xs : List β) : List β :=
  xs.mergeSort fun a b => compareFileLine (key a) (key b) != .gt

/-- The inventory of the sources among reached files, read in the order in which they were
reached, with the declarations then sorted by file and line. -/
def ofReached (rootName : String) (reached : List Workspace.Reached) : Inventory :=
  let inv := (Workspace.sources reached).foldl
    (fun inv (r, language) => inv.addFile (r.path rootName) language r.bytes) empty
  { inv with endpoints := sortByFileLine (fun e => (e.file, e.startLine)) inv.endpoints,
             functions := sortByFileLine (fun f => (f.file, f.startLine)) inv.functions }

/-- Scans the workspace whose root is called `rootName`. -/
def scan (opts : Workspace.WalkOptions) (rootName : String) (root : WorkspaceRoot) : Inventory :=
  ofReached rootName (Workspace.walk opts root)

/-- An inventory as a JSON object. -/
def toJson (inv : Inventory) : Json :=
  .obj [("endpoints", .arr (inv.endpoints.map (·.toJson))),
    ("functions", .arr (inv.functions.map (·.toJson))),
    ("files_scanned", .nat inv.filesScanned), ("files_skipped", .nat inv.filesSkipped)]

end Inventory

end OrphanedCode
