import OrphanedCode.Source.Path
import OrphanedCode.Number.Layout
/-!
The pieces of text that every report shares: where a finding is, and how sure it is.

A file is shown relative to the workspace root when the root's components begin the path's, and
as it is otherwise; backslashes are shown as slashes. A table shows only the file's last named
component. A confidence is shown as a whole percentage, a half going to the even neighbour.
-/

namespace OrphanedCode.Report

/-- Text with each character replaced by the text `f` gives for it. -/
def replaceEach (f : Char → String) (s : String) : String :=
  String.join (s.toList.map f)

/-- The path of a file relative to the workspace root, or the path itself outside the root. -/
def relativePath (root path : String) : String :=
  let p := (SourcePath.stripPrefix? path root).getD path
  String.ofList (p.toList.map fun c => if c == '\\' then '/' else c)

/-- The last named component of a path, or the whole path when it ends in none. -/
def fileLabel (path : String) : String :=
  (SourcePath.fileName? path).getD path

/-- A confidence as a whole percentage. -/
def percent (confidence : Float) : String :=
  Binary64.wholeText (confidence * 100.0) ++ "%"

end OrphanedCode.Report
