/-!
HTTP methods as routes declare them.

A verb is read by upper-casing its ASCII letters and looking the result up among the eight names
`GET POST PUT DELETE PATCH OPTIONS HEAD ALL`; any other character stays as it is, so a verb with a
non-ASCII letter is never a method.
-/

namespace OrphanedCode

/-- An HTTP method that a route can be declared for; `all` stands for every method. -/
inductive HttpMethod where
  | get
  | post
  | put
  | delete
  | patch
  | options
  | head
  | all
  deriving DecidableEq, Repr, Inhabited

namespace HttpMethod

/-- The upper-case name of a method. -/
def name : HttpMethod → String
  | .get => "GET"
  | .post => "POST"
  | .put => "PUT"
  | .delete => "DELETE"
  | .patch => "PATCH"
  | .options => "OPTIONS"
  | .head => "HEAD"
  | .all => "ALL"

/-- Every method, in the order of their declaration. -/
def every : List HttpMethod :=
  [.get, .post, .put, .delete, .patch, .options, .head, .all]

/-- Upper-cases the ASCII letters of a text and keeps every other character. -/
def asciiUpper (s : String) : String :=
  String.ofList (s.toList.map Char.toUpper)

/-- The method a verb names, if any. -/
def parse? (verb : String) : Option HttpMethod :=
  every.find? fun m => m.name == asciiUpper verb

end HttpMethod

end OrphanedCode
