import OrphanedCode.Text.Blank
import OrphanedCode.Text.Utf8
/-!
Ignore files: the rules of `.gitignore` and of `.git/info/exclude`.

A rule is one line: blank lines and lines starting with `#` are none; trailing blanks are dropped
unless escaped; a leading `!` makes the rule re-include what it matches; a leading `/` anchors it
at the directory of the file; a trailing `/` restricts it to directories. A rule without a slash
matches at any depth, as if it began with `**/`, and a rule ending in `/**` matches only what lies
below. Of the rules of one file that match a path, the last one decides.

Patterns match the path's UTF-8 bytes relative to the directory of the file: `*` is any run of
bytes without a slash, `?` one byte that is no slash, `[…]` a class of bytes (`!` or `^` negates
it, and a negated class also holds the slash), `{a,b}` either of its branches, and a backslash
escapes the next character. A `**` next to slashes spans directories: at the start any number of
leading directories, between slashes any number of inner ones, at the end anything below; a
pattern that is only such a `**` matches everything. Any other `**` is two `*`. A `[` without a
closing `]` stands for itself, and so does every later `[` of the pattern. A pattern with a
reversed range, a dangling backslash, a stray `}` or an unclosed `{` is no rule.
-/

namespace OrphanedCode.Ignore

/-- One element of a glob pattern. -/
inductive GlobToken where
  | literal (c : Char)
  | any
  | zeroOrMore
  | recursivePrefix
  | recursiveSuffix
  | recursiveZeroOrMore
  | charClass (negated : Bool) (ranges : List (Char × Char))
  | alternates (branches : List (List GlobToken))
  deriving Inhabited

/-! ## Reading patterns -/

/-- What reading a class after its opening bracket gives. -/
inductive ClassRead where
  /-- The class and what follows its closing bracket. -/
  | read (token : GlobToken) (rest : List Char)
  /-- No closing bracket follows. -/
  | unclosed
  /-- A range runs backwards. -/
  | reversed

/-- Reads the members of a class: `ranges` so far (last first), whether the next member is the
first, and whether a `-` waits to extend the last range. A `-` first or last stands for itself;
after a range, `-c` extends that range to `c`. -/
def classMembers (negated : Bool) :
    List Char → List (Char × Char) → Bool → Bool → ClassRead
  | [], _, _, _ => .unclosed
  | ']' :: rest, ranges, first, pending =>
    if first then classMembers negated rest ((']', ']') :: ranges) false pending
    else
      let ranges := if pending then ('-', '-') :: ranges else ranges
      .read (.charClass negated ranges.reverse) rest
  | '-' :: rest, ranges, first, pending =>
    if first then classMembers negated rest (('-', '-') :: ranges) false false
    else if pending then
      match ranges with
      | (lo, _) :: more =>
        if '-' < lo then .reversed else classMembers negated rest ((lo, '-') :: more) false false
      | [] => .reversed
    else classMembers negated rest ranges false true
  | c :: rest, ranges, _, pending =>
    if pending then
      match ranges with
      | (lo, _) :: more =>
        if c < lo then .reversed else classMembers negated rest ((lo, c) :: more) false false
      | [] => .reversed
    else classMembers negated rest ((c, c) :: ranges) false false

/-- Reads a class after its opening bracket. -/
def readClass (cs : List Char) : ClassRead :=
  match cs with
  | '!' :: body => classMembers true body [] true false
  | '^' :: body => classMembers true body [] true false
  | body => classMembers false body [] true false

/-- A pattern being read: the open branches, the innermost first, each with its tokens last
first; for each open group, how many branches stood before it; and whether a class was found
unclosed. -/
structure GlobReader where
  branches : List (List GlobToken)
  groups : List Nat
  unclosedClass : Bool

namespace GlobReader

/-- The reader at the start of a pattern. -/
def start : GlobReader := ⟨[[]], [], false⟩

/-- Adds a token to the innermost branch. -/
def push (r : GlobReader) (t : GlobToken) : Option GlobReader :=
  match r.branches with
  | b :: bs => some { r with branches := (t :: b) :: bs }
  | [] => none

/-- Removes the last token of the innermost branch. -/
def pop (r : GlobReader) : Option (GlobToken × GlobReader) :=
  match r.branches with
  | (t :: b) :: bs => some (t, { r with branches := b :: bs })
  | _ => none

/-- Whether the innermost branch has a token. -/
def haveTokens (r : GlobReader) : Bool :=
  match r.branches with
  | (_ :: _) :: _ => true
  | _ => false

/-- Opens a group `{`. -/
def openGroup (r : GlobReader) : GlobReader :=
  { r with branches := [] :: r.branches, groups := r.branches.length :: r.groups }

/-- Starts the next branch of the innermost group at `,`, or reads `,` as itself outside one. -/
def comma (r : GlobReader) : Option GlobReader :=
  if r.groups.isEmpty then r.push (.literal ',')
  else some { r with branches := [] :: r.branches }

/-- Closes the innermost group at `}` into one token of its branches. -/
def closeGroup (r : GlobReader) : Option GlobReader :=
  match r.groups with
  | [] => none
  | before :: groups =>
    let count := r.branches.length - before
    let branches := (r.branches.take count).reverse.map List.reverse
    { r with branches := r.branches.drop count, groups }.push (.alternates branches)

/-- Adds two stars: a `**` that does not span directories. -/
def twoStars (r : GlobReader) : Option GlobReader := do
  (← r.push .zeroOrMore).push .zeroOrMore

/-- Reads what follows a `*`: `prev` is the character before it. Gives the reader, the last
character read and the rest. -/
def star (r : GlobReader) (prev : Option Char) (rest : List Char) :
    Option (GlobReader × Option Char × List Char) :=
  match rest with
  | '*' :: rest =>
    if !r.haveTokens then
      match rest with
      | '/' :: more => do pure (← r.push .recursivePrefix, some '/', more)
      | [] => do pure (← r.push .recursivePrefix, some '*', [])
      | more => do pure (← r.twoStars, some '*', more)
    else if prev != some '/' &&
        (r.branches.length ≤ 1 || (prev != some ',' && prev != some '{')) then do
      pure (← r.twoStars, some '*', rest)
    else
      let ending : Option (Bool × Option Char × List Char) :=
        match rest with
        | [] => some (true, some '*', [])
        | '/' :: more => some (false, some '/', more)
        | c :: _ =>
          if (c == ',' || c == '}') && r.branches.length ≥ 2 then some (true, some '*', rest)
          else none
      match ending with
      | none => do pure (← r.twoStars, some '*', rest)
      | some (suffix, last, rest) => do
        let (t, r) ← r.pop
        let t := match t with
          | .recursivePrefix => .recursivePrefix
          | .recursiveSuffix => .recursiveSuffix
          | _ => if suffix then .recursiveSuffix else .recursiveZeroOrMore
        pure (← r.push t, last, rest)
  | _ => do pure (← r.push .zeroOrMore, some '*', rest)

/-- Reads the rest of a pattern; `prev` is the last character read. -/
def run : Nat → Option Char → List Char → GlobReader → Option GlobReader
  | _, _, [], r => some r
  | 0, _, _ :: _, _ => none
  | fuel + 1, prev, c :: rest, r =>
    match c with
    | '?' => do run fuel (some '?') rest (← r.push .any)
    | '*' => do
      let (r, last, rest) ← r.star prev rest
      run fuel last rest r
    | '[' =>
      if r.unclosedClass then do run fuel (some '[') rest (← r.push (.literal '['))
      else
        match readClass rest with
        | .read t more => do run fuel (some ']') more (← r.push t)
        | .unclosed => do
          let r ← r.push (.literal '[')
          run fuel (some '[') rest { r with unclosedClass := true }
        | .reversed => none
    | '{' => run fuel (some '{') rest r.openGroup
    | '}' => do run fuel (some '}') rest (← r.closeGroup)
    | ',' => do run fuel (some ',') rest (← r.comma)
    | '\\' =>
      match rest with
      | d :: more => do run fuel (some d) more (← r.push (.literal d))
      | [] => none
    | c => do run fuel (some c) rest (← r.push (.literal c))

end GlobReader

/-- Reads a glob pattern into tokens, or `none` when it is no pattern. -/
def readGlob (cs : List Char) : Option (List GlobToken) := do
  let r ← GlobReader.start.run (cs.length + 1) none cs
  match r.branches with
  | [b] => some b.reverse
  | _ => none

/-! ## Matching -/

/-- One step of a pattern over bytes, with no branches left. -/
inductive ByteStep where
  | byte (b : UInt8)
  | notSlash
  | anyRun
  | runNoSlash
  | leadingDirs
  | below
  | innerDirs
  | byteSet (negated : Bool) (ranges : List (Nat × Nat))
  deriving Inhabited

/-- The slash byte. -/
def slash : UInt8 := 47

/-- The UTF-8 bytes of a character. -/
def charBytes (c : Char) : List UInt8 :=
  c.toString.toUTF8.toList

/-- The byte ranges of a range of characters: the bytes of its ends, with the last byte of the
low end running up to the first byte of the high end. -/
def byteRanges (lo hi : Char) : List (Nat × Nat) :=
  let single (b : UInt8) : Nat × Nat := (b.toNat, b.toNat)
  if lo == hi then (charBytes lo).map single
  else
    let l := charBytes lo
    let h := charBytes hi
    l.dropLast.map single ++
      [((l.getLast?.map UInt8.toNat).getD 0, (h.head?.map UInt8.toNat).getD 0)] ++
      (h.drop 1).map single

mutual

/-- Whether a token stands for nothing at all: a group whose branches all do. -/
def GlobToken.isVoid : GlobToken → Bool
  | .alternates bs => branchesVoid bs
  | _ => false

/-- Whether every token of a list stands for nothing. -/
def tokensVoid : List GlobToken → Bool
  | [] => true
  | t :: ts => t.isVoid && tokensVoid ts

/-- Whether every branch stands for nothing. -/
def branchesVoid : List (List GlobToken) → Bool
  | [] => true
  | b :: bs => tokensVoid b && branchesVoid bs

end

/-- Every combination of one choice from the first list with one from the second. -/
def joinChoices (xs ys : List (List ByteStep)) : List (List ByteStep) :=
  xs.flatMap fun x => ys.map (x ++ ·)

mutual

/-- The byte steps a token stands for, one list per choice of its branches. -/
def GlobToken.choices : GlobToken → List (List ByteStep)
  | .literal c => [(charBytes c).map .byte]
  | .any => [[.notSlash]]
  | .zeroOrMore => [[.runNoSlash]]
  | .recursivePrefix => [[.leadingDirs]]
  | .recursiveSuffix => [[.below]]
  | .recursiveZeroOrMore => [[.innerDirs]]
  | .charClass negated ranges =>
    [[.byteSet negated (ranges.flatMap fun (lo, hi) => byteRanges lo hi)]]
  | .alternates bs =>
    let kept := branchesChoices bs
    if kept.isEmpty then [[]] else kept

/-- The byte steps of a list of tokens, one list per choice. -/
def tokensChoices : List GlobToken → List (List ByteStep)
  | [] => [[]]
  | t :: ts => joinChoices t.choices (tokensChoices ts)

/-- The choices of the branches of a group; a branch that stands for nothing is left out. -/
def branchesChoices : List (List GlobToken) → List (List ByteStep)
  | [] => []
  | b :: bs => (if tokensVoid b then [] else tokensChoices b) ++ branchesChoices bs

end

/-- The byte patterns of a glob, one per choice of its branches; a glob that is only a leading
`**` matches everything. -/
def globChoices (tokens : List GlobToken) : List (List ByteStep) :=
  match tokens with
  | [.recursivePrefix] => [[.anyRun]]
  | _ => tokensChoices tokens

/-- The suffixes of a byte list after a run of bytes that satisfy `p`, shortest run first. -/
def suffixesWhile (p : UInt8 → Bool) : List UInt8 → List (List UInt8)
  | [] => [[]]
  | b :: bs => (b :: bs) :: (if p b then suffixesWhile p bs else [])

/-- Every suffix of a byte list, the list itself first. -/
def allSuffixes : List UInt8 → List (List UInt8)
  | [] => [[]]
  | b :: bs => (b :: bs) :: allSuffixes bs

/-- The suffixes that follow a slash of the list. -/
def afterSlashes : List UInt8 → List (List UInt8)
  | [] => []
  | b :: bs => (if b == slash then [bs] else []) ++ afterSlashes bs

/-- Whether a set of byte ranges holds a byte, or for a negated set, lacks it. -/
def setHolds (negated : Bool) (ranges : List (Nat × Nat)) (b : UInt8) : Bool :=
  let inRanges := ranges.any fun (lo, hi) => lo ≤ b.toNat && b.toNat ≤ hi
  if negated then !inRanges else inRanges

/-- Whether the steps match the whole byte list. -/
def matchSteps : List ByteStep → List UInt8 → Bool
  | [], t => t.isEmpty
  | .byte c :: ps, t =>
    match t with
    | b :: bs => b == c && matchSteps ps bs
    | [] => false
  | .notSlash :: ps, t =>
    match t with
    | b :: bs => b != slash && matchSteps ps bs
    | [] => false
  | .byteSet negated ranges :: ps, t =>
    match t with
    | b :: bs => setHolds negated ranges b && matchSteps ps bs
    | [] => false
  | .runNoSlash :: ps, t => (suffixesWhile (· != slash) t).any (matchSteps ps)
  | .anyRun :: ps, t => (allSuffixes t).any (matchSteps ps)
  | .leadingDirs :: ps, t =>
    (t :: (match t with
      | b :: bs => if b == slash then [bs] else []
      | [] => []) ++ afterSlashes t).any (matchSteps ps)
  | .innerDirs :: ps, t =>
    match t with
    | b :: bs => b == slash && (bs :: afterSlashes bs).any (matchSteps ps)
    | [] => false
  | .below :: ps, t =>
    match t with
    | b :: bs => b == slash && (allSuffixes bs).any (matchSteps ps)
    | [] => false

/-- Whether a glob matches the whole byte list. -/
def matchGlob (tokens : List GlobToken) (path : List UInt8) : Bool :=
  (globChoices tokens).any fun steps => matchSteps steps path

/-- One rule of an ignore file. -/
structure Rule where
  tokens : List GlobToken
  reinclude : Bool
  dirOnly : Bool

/-- Whether a character list ends with the given one. -/
def endsWithChars (cs suffix : List Char) : Bool :=
  suffix.reverse.isPrefixOf cs.reverse

/-- Whether a character list starts with the given one. -/
def startsWithChars (cs lead : List Char) : Bool :=
  lead.isPrefixOf cs

/-- The rule of one line, if the line holds one. -/
def Rule.ofLine? (line : List Char) : Option Rule :=
  if line.head? == some '#' then none
  else
    let line := if endsWithChars line ['\\', ' '] then line else Text.dropBlankEnd line
    if line.isEmpty then none
    else
      let (reinclude, anchored, body) :=
        if startsWithChars line ['\\', '!'] || startsWithChars line ['\\', '#'] then
          let rest := line.drop 1
          (false, rest.head? == some '/', rest)
        else
          let (reinclude, rest) :=
            match line with
            | '!' :: rest => (true, rest)
            | rest => (false, rest)
          match rest with
          | '/' :: rest => (reinclude, true, rest)
          | rest => (reinclude, false, rest)
      let (dirOnly, body) :=
        if body.getLast? == some '/' then
          let b := body.dropLast
          (true, if b.getLast? == some '\\' then b.dropLast else b)
        else (false, body)
      let actual :=
        if !anchored && !body.contains '/' &&
            !(startsWithChars body ['*', '*', '/'] || body == ['*', '*']) then
          ['*', '*', '/'] ++ body
        else body
      let actual := if endsWithChars actual ['/', '*', '*'] then actual ++ ['/', '*'] else actual
      (readGlob actual).map fun tokens => ⟨tokens, reinclude, dirOnly⟩

/-- The lines of a file's bytes: cut at line feeds, a carriage return before one dropped. -/
def byteLines (bytes : List UInt8) : List (List UInt8) :=
  (bytes.splitOn 10).map fun l => if l.getLast? == some 13 then l.dropLast else l

/-- The rules of an ignore file. Reading stops at the first line that is not UTF-8, and a byte
order mark at the start of the first line is skipped. -/
def rulesOfBytes (bytes : List UInt8) : List Rule :=
  let lines := ((byteLines bytes).map Text.decodeUtf8).takeWhile Option.isSome
  let lines := lines.filterMap id
  let lines := match lines with
    | first :: rest => first.dropWhile (· == '\uFEFF') :: rest
    | [] => []
  lines.filterMap Rule.ofLine?

/-- What the rules of one file say about a path: `some true` to ignore it, `some false` to keep
it, `none` when no rule matches. The last matching rule decides. -/
def verdict? (rules : List Rule) (path : List UInt8) (isDir : Bool) : Option Bool :=
  (rules.reverse.find? fun r => (!r.dirOnly || isDir) && matchGlob r.tokens path).map
    fun r => !r.reinclude

end OrphanedCode.Ignore
