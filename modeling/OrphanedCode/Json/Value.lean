/-!
JSON values as the reports write them: objects keep their fields in the order given, numbers are
either natural numbers or binary64 values.
-/

namespace OrphanedCode

/-- A JSON value; an object is a list of fields in writing order. -/
inductive Json where
  | null
  | bool (b : Bool)
  | nat (n : Nat)
  | num (x : Float)
  | str (s : String)
  | arr (items : List Json)
  | obj (fields : List (String × Json))
  deriving Inhabited

namespace Json

/-- A text, or `null` when there is none. -/
def ofOption (s : Option String) : Json :=
  match s with
  | some t => .str t
  | none => .null

/-- A natural number, or `null` when there is none. -/
def ofNatOption (n : Option Nat) : Json :=
  match n with
  | some k => .nat k
  | none => .null

end Json

end OrphanedCode
