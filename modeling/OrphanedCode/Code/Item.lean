import OrphanedCode.Http.Method
import OrphanedCode.Source.Language
/-!
What the scanner finds in source files: route declarations (endpoints) and function
declarations, each tied to its file and line, and the places where a function's name is used.
-/

namespace OrphanedCode

/-- The web framework whose idiom declared a route. -/
inductive Framework where
  | express
  | flask
  | spring
  deriving DecidableEq, Repr, Inhabited

/-- The lower-case name of a framework. -/
def Framework.name : Framework → String
  | .express => "express"
  | .flask => "flask"
  | .spring => "spring"

/-- A place in a file: a line (from 1) and a byte column (from 1). -/
structure ReferenceSite where
  line : Nat
  column : Nat
  deriving DecidableEq, Repr

/-- A route declaration found on one line of a file. -/
structure CodeEndpoint where
  language : Language
  file : String
  startLine : Nat
  endLine : Nat
  snippet : String
  method : HttpMethod
  route : String
  handler : Option String
  framework : Framework
  confidence : Float

/-- A function declaration found on one line of a file, with the uses of its name. -/
structure CodeFunction where
  language : Language
  file : String
  startLine : Nat
  endLine : Nat
  snippet : String
  name : String
  isExported : Bool
  references : List ReferenceSite
  confidence : Float

/-- The label of an endpoint: its method and route. -/
def CodeEndpoint.label (e : CodeEndpoint) : String :=
  e.method.name ++ " " ++ e.route

end OrphanedCode
