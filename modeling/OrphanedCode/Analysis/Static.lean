import OrphanedCode.Analysis.Finding
import Std.Data.HashMap.Basic
import Std.Data.HashSet.Basic
/-!
Static evidence: whether a route's handler is a declared function that is used.

An endpoint with a handler is `handler not found` when no function bears that name, and
`handler unreferenced` when every function of that name has no use; an endpoint without a handler
is never reported. A function is reported for `minimal references` when it is not exported, no
endpoint names it as handler, and its name has at most one use.

Functions are looked up through an index by name: each name maps to whether some function of that
name has a use, the flags of same-named functions being joined by `or`. Handlers are looked up in
the set of handler names.
-/

namespace OrphanedCode.StaticEvidence

/-- Enters a function in the index: its name is entered as unused if absent, then marked used when
the function has a use. -/
def noteFunction (index : Std.HashMap String Bool) (f : CodeFunction) : Std.HashMap String Bool :=
  index.alter f.name fun used => some (used.getD false || !f.references.isEmpty)

/-- For each function name, whether some function of that name has a use. -/
def referencedIndex (functions : List CodeFunction) : Std.HashMap String Bool :=
  functions.foldl noteFunction ∅

/-- Whether some function of this name has a use, if any function bears it. -/
def handlerUsed? (functions : List CodeFunction) (h : String) : Option Bool :=
  (referencedIndex functions)[h]?

/-- The endpoints whose handler is missing or unused, in order. -/
def orphanedEndpoints (endpoints : List CodeEndpoint) (functions : List CodeFunction) :
    List OrphanFinding :=
  endpoints.filterMap fun e =>
    match e.handler with
    | none => none
    | some h =>
      match handlerUsed? functions h with
      | none => some (.make (.endpoint e) .handlerNotFound)
      | some false => some (.make (.endpoint e) .handlerUnreferenced)
      | some true => none

/-- The functions that are private, no handler, and barely used, in order. -/
def orphanedFunctions (functions : List CodeFunction) (endpoints : List CodeEndpoint) :
    List OrphanFinding :=
  let handlers : Std.HashSet String := .ofList (endpoints.filterMap (·.handler))
  (functions.filter fun f =>
    !f.isExported && !handlers.contains f.name && f.references.length ≤ 1).map
    fun f => .make (.function f) .minimalReferences

end OrphanedCode.StaticEvidence
