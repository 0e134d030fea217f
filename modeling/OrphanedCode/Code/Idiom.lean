import OrphanedCode.Code.Reader
import OrphanedCode.Text.Lines
import OrphanedCode.Code.Item
/-!
Line idioms: the five shapes of source line that declare a route or a function.

* An express route, `app.get('/path', handler)` or `router.…`: the object, a dot and a verb are
  read without regard to case, then an opening parenthesis, a quoted route, a comma, and the
  arguments up to the first closing parenthesis, which must not be empty.
* A flask route, `@app.route('/path')` with an optional `, methods=['POST']`, read without regard
  to case; without methods the route is for GET.
* A spring mapping, `@GetMapping("/path")` for the verbs get, post, put, delete and patch, read
  without regard to case.
* A function statement, `function name(`, optionally after `export` and `async`.
* A binding of an arrow function or a function expression, `const name = (…) =>`,
  `let name = x =>`, `var name = function (`, optionally after `export`, with `async` allowed
  before the function.

Only the leftmost occurrence of an idiom on a line counts: when its verb names no method, the
line declares nothing, even if a later occurrence would. An express route keeps as handler the
first argument when it is a dotted ASCII identifier.
-/

namespace OrphanedCode

/-- The five line idioms. -/
inductive Idiom where
  | expressRoute
  | flaskRoute
  | springMapping
  | functionStatement
  | anonymousBinding
  deriving DecidableEq, Repr

/-- A route declared by one line. -/
structure RouteDecl where
  method : HttpMethod
  route : String
  handler : Option String
  framework : Framework

/-- What an idiom recognises on a line. -/
inductive Recognized where
  | endpoint (decl : RouteDecl)
  | function (name : String)

namespace Idiom

/-- How sure a finding of the idiom is. -/
def confidence : Idiom → Float
  | .expressRoute => 0.95
  | .flaskRoute => 0.9
  | .springMapping => 0.9
  | .functionStatement => 0.9
  | .anonymousBinding => 0.85

/-- The idioms that declare routes, in the order they are tried. -/
def endpointIdioms : List Idiom := [.expressRoute, .flaskRoute, .springMapping]

/-- The idioms that declare functions, in the order they are tried. -/
def functionIdioms : List Idiom := [.functionStatement, .anonymousBinding]

end Idiom

namespace Reader

/-- The verbs of an express route. -/
def expressVerbs : List String := ["get", "post", "put", "delete", "patch", "options", "head", "all"]

/-- The verbs of a spring mapping. -/
def springVerbs : List String := ["get", "post", "put", "delete", "patch"]

/-- The arguments after the route's comma: blanks, then a non-empty run without closing
parenthesis, then a closing parenthesis. When only blanks stand before the parenthesis, the last of
them is the run. -/
def handlerArguments (cs : List Char) : Option (List Char) :=
  let b := blanks cs
  let args := b.takeWhile (· != ')')
  match b.dropWhile (· != ')') with
  | [] => none
  | _ :: _ =>
    if !args.isEmpty then some args
    else if b.length < cs.length then some [cs[cs.length - b.length - 1]?.getD ' ']
    else none

/-- Reads an express route from the front of a line: the verb as written, the route, and the
arguments. -/
def expressAt (cs : List Char) : Option (List Char × List Char × List Char) := do
  let r ← (caseless "app".toList cs).orElse fun _ => caseless "router".toList cs
  let r ← char '.' r
  let (verb, r) ← caselessChoice expressVerbs r
  let r ← char '(' (blanks r)
  let (route, r) ← quoted (blanks r)
  let r ← char ',' (blanks r)
  let args ← handlerArguments r
  pure (verb, route, args)

/-- Reads the `, methods=['VERB']` part of a flask route, returning the verb and what follows. -/
def flaskMethods (cs : List Char) : Option (List Char × List Char) := do
  let r ← char ',' (blanks cs)
  let r ← caseless "methods".toList (blanks r)
  let r ← char '=' (blanks r)
  let r ← char '[' (blanks r)
  let r ← quote (blanks r)
  let (verb, r) ← run1 Text.isWordChar r
  let r ← quote r
  let r ← char ']' (blanks r)
  pure (verb, r)

/-- Reads a flask route from the front of a line: the route and the verb, if one is given. -/
def flaskAt (cs : List Char) : Option (List Char × Option (List Char)) := do
  let r ← caseless "@app.route".toList cs
  let r ← char '(' (blanks r)
  let (route, r) ← quoted (blanks r)
  let withVerb := (flaskMethods r).bind fun (verb, r') =>
    (char ')' (blanks r')).map fun _ => (route, some verb)
  withVerb.orElse fun _ => (char ')' (blanks r)).map fun _ => (route, none)

/-- Reads a spring mapping from the front of a line: the verb as written and the route. -/
def springAt (cs : List Char) : Option (List Char × List Char) := do
  let r ← char '@' cs
  let (verb, r) ← caselessChoice springVerbs r
  let r ← caseless "mapping".toList r
  let r ← char '(' (blanks r)
  let (route, r) ← quoted (blanks r)
  let _ ← char ')' (blanks r)
  pure (verb, route)

/-- Reads a function statement from its keyword, returning the name. -/
def functionAt (cs : List Char) : Option (List Char) := do
  let r ← word "function".toList cs
  let r ← blanks1 r
  let (name, r) ← run1 Text.isWordChar r
  let _ ← char '(' (blanks r)
  pure name

/-- Reads a parenthesised parameter list. -/
def parameters (cs : List Char) : Option (List Char) := do
  let r ← char '(' cs
  char ')' (r.dropWhile (· != ')'))

/-- Whether an arrow function or a function expression starts here. -/
def functionValue (cs : List Char) : Bool :=
  let arrow :=
    match (parameters cs).orElse fun _ => (run1 Text.isWordChar cs).map Prod.snd with
    | some r => (word "=>".toList (blanks r)).isSome
    | none => false
  let expression :=
    match word "function".toList cs with
    | some r =>
      let r := blanks r
      let r := (char '*' r).getD r
      (char '(' (blanks r)).isSome
    | none => false
  arrow || expression

/-- Whether a function value starts here, possibly after `async` and blanks. -/
def asyncFunctionValue (cs : List Char) : Bool :=
  (match (word "async".toList cs).bind blanks1 with
    | some r => functionValue r
    | none => false) || functionValue cs

/-- Reads a binding of a function from its keyword, returning the name. -/
def bindingAt (cs : List Char) : Option (List Char) := do
  let r ← ((word "const".toList cs).orElse fun _ => word "let".toList cs).orElse fun _ =>
    word "var".toList cs
  let r ← blanks1 r
  let (name, r) ← run1 Text.isWordChar r
  let r ← char '=' (blanks r)
  if asyncFunctionValue (blanks r) then some name else none

/-- Whether a handler text is a dotted identifier: non-empty parts of ASCII letters, digits,
underscores and dollar signs, each starting with a letter, an underscore or a dollar sign. -/
def isHandlerIdentifier (h : List Char) : Bool :=
  !h.isEmpty && (Text.splitChars '.' h).all fun part =>
    match part with
    | c :: rest =>
      (c.isAlpha || c == '_' || c == '$') && rest.all fun d => d.isAlphanum || d == '_' || d == '$'
    | [] => false

/-- The handler of an express route: the first of its trimmed arguments, if it is a dotted
identifier. -/
def handlerName (args : List Char) : Option String :=
  let first := (Text.splitChars ',' (Text.trimChars args)).head?.getD []
  let h := Text.trimChars first
  if isHandlerIdentifier h then some (String.ofList h) else none

end Reader

namespace Idiom

/-- What the idiom recognises on a line, from its leftmost occurrence. -/
def recognize (idiom : Idiom) (line : String) : Option Recognized :=
  let cs := line.toList
  match idiom with
  | .expressRoute => do
    let (verb, route, args) ← Reader.leftmost Reader.expressAt cs
    let method ← HttpMethod.parse? (String.ofList verb)
    pure (.endpoint ⟨method, String.ofList route, Reader.handlerName args, .express⟩)
  | .flaskRoute => do
    let (route, verb) ← Reader.leftmost Reader.flaskAt cs
    let method ← match verb with
      | some v => HttpMethod.parse? (String.ofList v)
      | none => some .get
    pure (.endpoint ⟨method, String.ofList route, none, .flask⟩)
  | .springMapping => do
    let (verb, route) ← Reader.leftmost Reader.springAt cs
    let method ← HttpMethod.parse? (String.ofList verb)
    pure (.endpoint ⟨method, String.ofList route, none, .spring⟩)
  | .functionStatement => do
    let name ← Reader.leftmost Reader.functionAt cs
    pure (.function (String.ofList name))
  | .anonymousBinding => do
    let name ← Reader.leftmost Reader.bindingAt cs
    pure (.function (String.ofList name))

end Idiom

end OrphanedCode
