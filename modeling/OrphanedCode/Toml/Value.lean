/-!
TOML documents: values, and the tables a document defines as it is read.

A document is a table. While it is read, each table remembers whether it was only created on the
way to another one (`implicit`) and whether dotted keys created it (`dotted`); an array of tables
holds its tables in order. These two marks decide what a document may do:

* a header `[a.b]` walks to `a` creating what is missing, and defines `b`: it may be new, or a
  table that a longer header created on the way, but not a value nor a table defined before;
* a header `[[a.b]]` adds a table to the array of tables `b`, which may be new;
* a key `a.b.c = v` walks from the current table through tables that dotted keys created, and
  defines `c`, which must be new; the table it lands in must have been created by the dotted
  part of the key when there is one, and must not have been when there is none.

Walking through an array of tables enters its last table; walking into a value fails.
-/

namespace OrphanedCode

/-- A TOML value. -/
inductive TomlValue where
  | string (s : String)
  | integer (n : Int)
  | float (x : Float)
  | boolean (b : Bool)
  | datetime (text : String)
  | array (items : List TomlValue)
  | table (entries : List (String × TomlValue))
  deriving Inhabited

namespace Toml

/-- An entry of a table while a document is read. -/
inductive Item where
  | value (v : TomlValue)
  | table (entries : List (String × Item)) (implicit : Bool) (dotted : Bool)
  | tables (items : List (List (String × Item)))
  deriving Inhabited

/-- Sets an entry of a table, in place when the key is there and at the end otherwise. -/
def setEntry (k : String) (i : Item) : List (String × Item) → List (String × Item)
  | [] => [(k, i)]
  | (k', i') :: rest => if k' == k then (k, i) :: rest else (k', i') :: setEntry k i rest

/-- Walks `path` from a table, by the rules of dotted keys or else of headers, creating missing
tables, and rewrites the table reached with `f`. -/
def Item.rewrite (dotted : Bool) (f : Item → Option Item) : List String → Item → Option Item
  | [], it => f it
  | k :: ks, .table es imp dot => do
    let child ←
      match es.lookup k with
      | none => pure (Item.table [] true dotted)
      | some (.value _) => none
      | some (.tables ts) => pure (Item.tables ts)
      | some (.table ces cimp cdot) =>
        if dotted && !cimp then none else pure (Item.table ces cimp cdot)
    let child ←
      match child with
      | .tables ts => do
        let last ← ts.getLast?
        match ← Item.rewrite dotted f ks (.table last false false) with
        | .table es' _ _ => pure (Item.tables (ts.dropLast ++ [es']))
        | _ => none
      | c => Item.rewrite dotted f ks c
    pure (.table (setEntry k child es) imp dot)
  | _ :: _, _ => none

/-- Splits a key path into its last key and the keys before it. -/
def splitLast (path : List String) : Option (List String × String) :=
  path.getLast?.map fun k => (path.dropLast, k)

/-- Defines the table named by a header. -/
def Item.openTable (root : Item) (path : List String) : Option Item := do
  let (parentPath, last) ← splitLast path
  root.rewrite false (fun parent =>
    match parent with
    | .table es imp dot =>
      match es.lookup last with
      | none => some (.table (setEntry last (.table [] false false) es) imp dot)
      | some (.table ces true false) => some (.table (setEntry last (.table ces false false) es) imp dot)
      | _ => none
    | _ => none) parentPath

/-- Adds a table to the array of tables named by a header. -/
def Item.openTableArray (root : Item) (path : List String) : Option Item := do
  let (parentPath, last) ← splitLast path
  root.rewrite false (fun parent =>
    match parent with
    | .table es imp dot =>
      match es.lookup last with
      | none => some (.table (setEntry last (.tables [[]]) es) imp dot)
      | some (.tables ts) => some (.table (setEntry last (.tables (ts ++ [[]])) es) imp dot)
      | _ => none
    | _ => none) parentPath

/-- Defines a key, possibly dotted, in the table at `current`. -/
def Item.addKey (root : Item) (current : List String) (keys : List String) (v : TomlValue) :
    Option Item := do
  let (dottedPart, last) ← splitLast keys
  root.rewrite false (fun cur =>
    cur.rewrite true (fun target =>
      match target with
      | .table es imp dot =>
        if dot == dottedPart.isEmpty || (es.lookup last).isSome then none
        else some (.table (setEntry last (.value v) es) imp dot)
      | _ => none) dottedPart) current

mutual

/-- The value of an item. -/
def Item.toValue : Item → TomlValue
  | .value v => v
  | .table es _ _ => .table (entriesToValue es)
  | .tables ts => .array (tablesToValue ts)

/-- The values of the entries of a table. -/
def entriesToValue : List (String × Item) → List (String × TomlValue)
  | [] => []
  | (k, i) :: rest => (k, i.toValue) :: entriesToValue rest

/-- The tables of an array of tables as values. -/
def tablesToValue : List (List (String × Item)) → List TomlValue
  | [] => []
  | es :: rest => .table (entriesToValue es) :: tablesToValue rest

end

/-- A new, empty document. -/
def Item.empty : Item :=
  .table [] false false

end Toml

end OrphanedCode
