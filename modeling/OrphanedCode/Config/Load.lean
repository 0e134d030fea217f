import OrphanedCode.Config.File
import OrphanedCode.Workspace.Tree
import OrphanedCode.Text.Utf8
/-!
Loading settings from a workspace.

A settings file is read as UTF-8 text and decoded in the format its name picks. Without a named
file, the first of `.orphanscan.yml`, `.orphanscan.yaml` and `.orphanscan.toml` that exists in the
workspace's top directory is loaded, whether it is a file or not; when none exists the default
settings hold. A file that is missing, a directory, or not UTF-8 cannot be read, and the message
names the path as it was given.
-/

namespace OrphanedCode

/-- The names a settings file is looked for under, in order. -/
def Config.defaultNames : List String := [".orphanscan.yml", ".orphanscan.yaml", ".orphanscan.toml"]

/-- The settings in the file at `path` inside a workspace shown as `rootName`. -/
def Config.readFile (root : WorkspaceRoot) (rootName path : String) : Except String Config :=
  let shown := rootName ++ "/" ++ path
  match (root.fileBytes? path).bind Text.ofUtf8? with
  | none => .error ("Failed to read config file: " ++ shown)
  | some text => Config.read (ConfigFormat.ofFileName shown) text

/-- The settings of a workspace: from the named file, else from the first default name present,
else the defaults. -/
def Config.load (root : WorkspaceRoot) (rootName : String) : Option String → Except String Config
  | some path => Config.readFile root rootName path
  | none =>
    match Config.defaultNames.find? (fun n => (root.entryAt? n).isSome) with
    | some n => Config.readFile root rootName n
    | none => .ok {}

end OrphanedCode
