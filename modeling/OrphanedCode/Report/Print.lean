import OrphanedCode.Report.Markdown
import OrphanedCode.Report.Workflow
import OrphanedCode.Report.Sarif
import OrphanedCode.Report.Terminal
/-!
Printing a report in one of its formats, and saving the result.

A report prints the terminal text, the result as pretty JSON, the markdown, the workflow
annotations or the SARIF log. The workflow format also appends to two step files when they are
named: the step outputs to the first and the markdown to the second. A step file that is missing
is created; one that is a directory cannot be opened, and then nothing more is appended. The
result can also be saved to a file as pretty JSON, replacing what was there.
-/

namespace OrphanedCode

/-- The format a report is printed in. -/
inductive ReportFormat where
  | terminal
  | json
  | markdown
  | github
  | sarif
  deriving DecidableEq, Repr

/-- The format a name stands for; `default` is the terminal. -/
def ReportFormat.ofName? : String → Option ReportFormat
  | "default" => some .terminal
  | "terminal" => some .terminal
  | "json" => some .json
  | "markdown" => some .markdown
  | "github" => some .github
  | "sarif" => some .sarif
  | _ => none

/-- A file that a report writes to, as it stands: missing, a directory, or a file with text. -/
inductive ScratchFile where
  | missing
  | directory
  | file (text : String)
  deriving DecidableEq, Repr

namespace ScratchFile

/-- The file with text added at its end; a missing file is created, a directory refuses. -/
def append (f : ScratchFile) (text : String) : Option ScratchFile :=
  match f with
  | .missing => some (.file text)
  | .file t => some (.file (t ++ text))
  | .directory => none

/-- The file holding only `text`; a directory refuses. -/
def overwrite (f : ScratchFile) (text : String) : Option ScratchFile :=
  match f with
  | .directory => none
  | _ => some (.file text)

/-- The text of a file, if it is one. -/
def contents? : ScratchFile → Option String
  | .file t => some t
  | _ => none

end ScratchFile

/-- A named file that a report may write to: the name its messages show, and the file. -/
structure NamedFile where
  name : String
  file : ScratchFile

/-- What printing a report leaves: the printed text, the error that stopped it, and the step
files afterwards. -/
structure Printout where
  stdout : String
  error : Option String
  stepOutput : Option NamedFile
  stepSummary : Option NamedFile

namespace Report

/-- Appends to a step file, if one is named; the message names the file that cannot be opened. -/
def appendStep (text : String) : Option NamedFile → Except String (Option NamedFile)
  | none => .ok none
  | some nf =>
    match nf.file.append text with
    | some f => .ok (some { nf with file := f })
    | none => .error ("Failed to open " ++ nf.name)

/-- Prints a report. Only the workflow format touches the step files: the step outputs are
appended first, and the markdown only when that succeeded. -/
def print (format : ReportFormat) (root : String) (limits : ReportLimits) (r : AnalysisResult)
    (stepOutput stepSummary : Option NamedFile) : Printout :=
  match format with
  | .terminal => ⟨terminal root r, none, stepOutput, stepSummary⟩
  | .json => ⟨Json.pretty r.toJson ++ "\n", none, stepOutput, stepSummary⟩
  | .markdown => ⟨markdown limits r, none, stepOutput, stepSummary⟩
  | .sarif => ⟨sarifText root r ++ "\n", none, stepOutput, stepSummary⟩
  | .github =>
    let stdout := String.join ((annotations root limits r).map (· ++ "\n"))
    match appendStep (stepOutputs r) stepOutput with
    | .error e => ⟨stdout, some e, stepOutput, stepSummary⟩
    | .ok output =>
      match appendStep (markdown limits r) stepSummary with
      | .error e => ⟨stdout, some e, output, stepSummary⟩
      | .ok summary => ⟨stdout, none, output, summary⟩

/-- Saves the result as pretty JSON with no final line break, replacing the file's text. -/
def saveResult (r : AnalysisResult) (target : NamedFile) : Except String NamedFile :=
  match target.file.overwrite (Json.pretty r.toJson) with
  | some f => .ok { target with file := f }
  | none => .error ("Failed to write results to " ++ target.name)

end Report

end OrphanedCode
