import OrphanedCode.Yaml.Scan
/-!
Building the nodes of a YAML document from its tokens.

A node is an alias, or a scalar or a collection with an optional anchor and tag before it. A
tag's handle is looked up among the document's `%TAG` directives and the two standard handles,
`!` and `!!`. An empty node stands wherever a key, a value or an entry is left out.

An alias stands for the node that its anchor last named, as far as the text has gone: an anchor
is taken when its node starts, so an alias inside the node it names refers to it by number.

A stream holds at most one document here: text that starts a second document is refused. A
stream with no document at all reads as none.
-/

namespace OrphanedCode.Yaml

/-- The tag handles every document knows. -/
def standardHandles : List (String × String) :=
  [("!", "!"), ("!!", "tag:yaml.org,2002:")]

/-- The state of building a document: the tokens left, the anchors taken (newest first) with
their numbers, the anchored nodes already complete, and the tag handles. -/
structure Composer where
  rest : List Token
  anchors : List (String × Nat) := []
  complete : List (Nat × YamlNode) := []
  opened : Nat := 0
  handles : List (String × String) := []

namespace Composer

/-- Takes the anchor and the tag before a node, in either order. -/
def properties (st : Composer) : Option String × Option (String × String) × Composer :=
  match st.rest with
  | .anchor a :: .tag h s :: r => (some a, some (h, s), { st with rest := r })
  | .anchor a :: r => (some a, none, { st with rest := r })
  | .tag h s :: .anchor a :: r => (some a, some (h, s), { st with rest := r })
  | .tag h s :: r => (none, some (h, s), { st with rest := r })
  | _ => (none, none, st)

/-- The full tag for a handle and a suffix; an empty handle leaves the suffix as it is, and an
unknown handle is refused. -/
def resolveTag (st : Composer) : Option (String × String) → Option (Option String)
  | none => some none
  | some (h, s) =>
    if h.isEmpty then some (some s) else (st.handles.lookup h).map fun e => some (e ++ s)

/-- Takes an anchor for a node that starts now, and gives it the next number. -/
def openAnchor (st : Composer) : Option String → Composer × Option Nat
  | none => (st, none)
  | some name => ({ st with anchors := (name, st.opened) :: st.anchors, opened := st.opened + 1 },
      some st.opened)

/-- Records an anchored node as complete. -/
def closeAnchor (st : Composer) (id : Option Nat) (n : YamlNode) : Composer :=
  match id with
  | some i => { st with complete := (i, n) :: st.complete }
  | none => st

/-- The node an alias stands for. -/
def aliasNode (st : Composer) (name : String) : Option YamlNode := do
  let id ← st.anchors.lookup name
  pure ((st.complete.lookup id).getD (.alias id))

/-- Skips the first token. -/
def drop (st : Composer) : Composer :=
  { st with rest := st.rest.drop 1 }

end Composer

mutual

/-- Reads a node. In block context it may be a block collection; where `indentless` holds, a
block sequence may also start without being indented. -/
def readNode : Nat → Bool → Bool → Composer → Option (YamlNode × Composer)
  | 0, _, _, _ => none
  | fuel + 1, block, indentless, st =>
    match st.rest with
    | .alias name :: _ => do
      let n ← st.aliasNode name
      pure (n, st.drop)
    | _ => do
      let (anchor, tag, st) := st.properties
      let tag ← st.resolveTag tag
      let (st, id) := st.openAnchor anchor
      let bare : Option (YamlNode × Composer) :=
        if anchor.isSome || tag.isSome then some (.scalar "" .plain tag, st) else none
      let (n, st) ←
        match st.rest with
        | .blockEntry :: _ => if indentless then readIndentless fuel [] st else bare
        | .scalar text style :: _ => some (.scalar text style tag, st.drop)
        | .flowSequenceStart :: _ => readFlowSeq fuel true [] st.drop
        | .flowMappingStart :: _ => readFlowMap fuel true [] st.drop
        | .blockSequenceStart :: _ => if block then readBlockSeq fuel [] st.drop else bare
        | .blockMappingStart :: _ => if block then readBlockMap fuel [] st.drop else bare
        | _ => bare
      pure (n, st.closeAnchor id n)

/-- Reads the entries of a block sequence up to its end. -/
def readBlockSeq : Nat → List YamlNode → Composer → Option (YamlNode × Composer)
  | 0, _, _ => none
  | fuel + 1, items, st =>
    match st.rest with
    | .blockEntry :: r =>
      match r with
      | .blockEntry :: _ | .blockEnd :: _ => readBlockSeq fuel (items ++ [emptyScalar]) st.drop
      | _ => do
        let (n, st) ← readNode fuel true false st.drop
        readBlockSeq fuel (items ++ [n]) st
    | .blockEnd :: _ => some (.seq items, st.drop)
    | _ => none

/-- Reads the entries of a block sequence that stands unindented as a mapping's value; it ends
at the first token that is no entry. -/
def readIndentless : Nat → List YamlNode → Composer → Option (YamlNode × Composer)
  | 0, _, _ => none
  | fuel + 1, items, st =>
    match st.rest with
    | .blockEntry :: r =>
      match r with
      | .blockEntry :: _ | .key :: _ | .value :: _ | .blockEnd :: _ =>
        readIndentless fuel (items ++ [emptyScalar]) st.drop
      | _ => do
        let (n, st) ← readNode fuel true false st.drop
        readIndentless fuel (items ++ [n]) st
    | _ => some (.seq items, st)

/-- Reads the entries of a block mapping up to its end. -/
def readBlockMap : Nat → List (YamlNode × YamlNode) → Composer → Option (YamlNode × Composer)
  | 0, _, _ => none
  | fuel + 1, entries, st =>
    match st.rest with
    | .key :: r => do
      let (k, st) ←
        match r with
        | .key :: _ | .value :: _ | .blockEnd :: _ => some (emptyScalar, st.drop)
        | _ => readNode fuel true true st.drop
      let (v, st) ←
        match st.rest with
        | .value :: r =>
          match r with
          | .key :: _ | .value :: _ | .blockEnd :: _ => some (emptyScalar, st.drop)
          | _ => readNode fuel true true st.drop
        | _ => some (emptyScalar, st)
      readBlockMap fuel (entries ++ [(k, v)]) st
    | .blockEnd :: _ => some (.map entries, st.drop)
    | _ => none

/-- Reads the entries of a flow sequence up to its closing bracket. An entry with a key is a
mapping of one pair. -/
def readFlowSeq : Nat → Bool → List YamlNode → Composer → Option (YamlNode × Composer)
  | 0, _, _, _ => none
  | fuel + 1, first, items, st =>
    match st.rest with
    | .flowSequenceEnd :: _ => some (.seq items, st.drop)
    | _ => do
      let st ←
        if first then some st
        else match st.rest with
          | .flowEntry :: _ => some st.drop
          | _ => none
      match st.rest with
      | .key :: r => do
        let (k, st) ←
          match r with
          | .value :: _ | .flowEntry :: _ | .flowSequenceEnd :: _ => some (emptyScalar, st.drop)
          | _ => readNode fuel false false st.drop
        let (v, st) ←
          match st.rest with
          | .value :: r =>
            match r with
            | .flowEntry :: _ | .flowSequenceEnd :: _ => some (emptyScalar, st.drop)
            | _ => readNode fuel false false st.drop
          | _ => some (emptyScalar, st)
        readFlowSeq fuel false (items ++ [.map [(k, v)]]) st
      | .flowSequenceEnd :: _ => some (.seq items, st.drop)
      | _ => do
        let (n, st) ← readNode fuel false false st
        readFlowSeq fuel false (items ++ [n]) st

/-- Reads the entries of a flow mapping up to its closing brace. An entry without a key token is
a key with an empty value. -/
def readFlowMap : Nat → Bool → List (YamlNode × YamlNode) → Composer →
    Option (YamlNode × Composer)
  | 0, _, _, _ => none
  | fuel + 1, first, entries, st =>
    match st.rest with
    | .flowMappingEnd :: _ => some (.map entries, st.drop)
    | _ => do
      let st ←
        if first then some st
        else match st.rest with
          | .flowEntry :: _ => some st.drop
          | _ => none
      match st.rest with
      | .key :: r => do
        let (k, st) ←
          match r with
          | .value :: _ | .flowEntry :: _ | .flowMappingEnd :: _ => some (emptyScalar, st.drop)
          | _ => readNode fuel false false st.drop
        let (v, st) ←
          match st.rest with
          | .value :: r =>
            match r with
            | .flowEntry :: _ | .flowMappingEnd :: _ => some (emptyScalar, st.drop)
            | _ => readNode fuel false false st.drop
          | _ => some (emptyScalar, st)
        readFlowMap fuel false (entries ++ [(k, v)]) st
      | .flowMappingEnd :: _ => some (.map entries, st.drop)
      | _ => do
        let (k, st) ← readNode fuel false false st
        readFlowMap fuel false (entries ++ [(k, emptyScalar)]) st

end

/-- Reads the directives before a document: at most one `%YAML` of version 1.1 or 1.2, and
`%TAG` handles given once each; the standard handles are added unless redefined. -/
def readDirectives (st : Composer) : Option Composer :=
  go st.rest false []
where
  /-- One directive at a time. -/
  go : List Token → Bool → List (String × String) → Option Composer
    | .versionDirective major minor :: r, seen, hs =>
      if seen || major != 1 || (minor != 1 && minor != 2) then none else go r true hs
    | .tagDirective h e :: r, seen, hs =>
      if (hs.lookup h).isSome then none else go r seen (hs ++ [(h, e)])
    | r, _, hs =>
      some { st with rest := r,
                     handles := hs ++ standardHandles.filter fun (h, _) => (hs.lookup h).isNone }

/-- Whether a token may not start the content of an explicit document. -/
def endsContent : Token → Bool
  | .versionDirective _ _ | .tagDirective _ _ | .documentStart | .documentEnd | .streamEnd => true
  | _ => false

/-- Reads the first document: explicit when it has directives or starts with `---`, implicit
otherwise. -/
def readFirstDocument (fuel : Nat) (st : Composer) : Option (YamlNode × Composer) :=
  match st.rest with
  | .versionDirective _ _ :: _ | .tagDirective _ _ :: _ | .documentStart :: _ => do
    let st ← readDirectives st
    match st.rest with
    | .documentStart :: r =>
      match r with
      | t :: _ => if endsContent t then some (emptyScalar, st.drop) else readNode fuel true false st.drop
      | [] => none
    | _ => none
  | _ => readNode fuel true false { st with handles := standardHandles }

/-- A YAML document: its root node, and its anchored nodes by number, which an alias inside its
own node refers to. -/
structure Document where
  root : YamlNode
  anchored : List (Nat × YamlNode)

/-- The node an alias inside its own node stands for; other nodes stand for themselves. -/
def Document.resolve (d : Document) : YamlNode → YamlNode
  | .alias id => (d.anchored.lookup id).getD (.alias id)
  | n => n

/-- Reads a YAML text that holds at most one document: none when it is not well formed or holds
more than one, `some none` when it holds no document. -/
def readStream (text : String) : Option (Option Document) := do
  let cs := text.toList
  if !cs.all isAllowedChar then none
  let tokens ← tokenize cs
  match tokens with
  | .streamStart :: .streamEnd :: _ => pure none
  | .streamStart :: r =>
    let (root, st) ← readFirstDocument (2 * tokens.length + 2) { rest := r }
    let after := match st.rest with
      | .documentEnd :: more => more
      | more => more
    match after.dropWhile (fun t => t matches .documentEnd) with
    | .streamEnd :: _ => pure (some ⟨root, st.complete⟩)
    | _ => none
  | _ => none

end OrphanedCode.Yaml
