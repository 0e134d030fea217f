import OrphanedCode.Code.Idiom
import OrphanedCode.Code.Reference
/-!
Extraction of declarations from source text.

Each line is trimmed; a blank line declares nothing. A line declares an endpoint when one of the
route idioms (express, then flask, then spring) recognises it, in any language. It declares a
function only in a script language, when the function statement idiom or else the binding idiom
recognises it; the function is exported when the word `export` stands on the line, and its uses
are the whole-word occurrences of its name in the file, the first one aside. Lines are numbered
from 1.
-/

namespace OrphanedCode

/-- What one line declares. -/
structure LineFinding where
  endpoint : Option CodeEndpoint
  function : Option CodeFunction

/-- Whether a line declares nothing. -/
def LineFinding.isEmpty (f : LineFinding) : Bool :=
  f.endpoint.isNone && f.function.isNone

/-- What one file declares, in line order. -/
structure FileFinding where
  endpoints : List CodeEndpoint
  functions : List CodeFunction

namespace Extract

/-- The endpoint a trimmed line declares. -/
def endpoint (trimmed : String) (lineNumber : Nat) (file : String) (language : Language) :
    Option CodeEndpoint :=
  Idiom.endpointIdioms.findSome? fun idiom =>
    match idiom.recognize trimmed with
    | some (.endpoint d) =>
      some { language, file, startLine := lineNumber, endLine := lineNumber, snippet := trimmed,
             method := d.method, route := d.route, handler := d.handler,
             framework := d.framework, confidence := idiom.confidence }
    | _ => none

/-- Whether the word `export` stands on a line. -/
def isExported (trimmed : String) : Bool :=
  Reference.occursAsWord "export".toList trimmed.toList

/-- The function a trimmed line declares, in a script language. -/
def function (trimmed : String) (lineNumber : Nat) (file : String) (language : Language)
    (content : String) : Option CodeFunction :=
  if !language.isScript then none
  else
    Idiom.functionIdioms.findSome? fun idiom =>
      match idiom.recognize trimmed with
      | some (.function name) =>
        some { language, file, startLine := lineNumber, endLine := lineNumber, snippet := trimmed,
               name, isExported := isExported trimmed,
               references := Reference.sites name content, confidence := idiom.confidence }
      | _ => none

/-- What one line of a file declares; `content` is the whole file. -/
def line (text : String) (lineNumber : Nat) (file : String) (language : Language)
    (content : String) : LineFinding :=
  let trimmed := Text.trim text
  if trimmed.isEmpty then ⟨none, none⟩
  else ⟨endpoint trimmed lineNumber file language, function trimmed lineNumber file language content⟩

/-- What a file declares, line by line. -/
def file (path : String) (language : Language) (content : String) : FileFinding :=
  let found := (Text.lines content).mapIdx fun i l => line l (i + 1) path language content
  ⟨found.filterMap (·.endpoint), found.filterMap (·.function)⟩

end Extract

end OrphanedCode
