import OrphanedCode.Number.Shortest
/-!
Written forms of binary64 values.

* In JSON documents: the shortest digits, positional while the decimal exponent `kk` (the value is
  `0.d₁d₂… · 10^kk`) satisfies `-5 < kk ≤ 16`, where a whole number keeps a `.0`, and otherwise one
  digit before the point with an exponent `e` that carries a sign only when negative (`1e21`,
  `1.5e-7`). Not-a-number and the infinities are written `null`.
* In messages: the shortest digits, always positional, a whole number without `.0`, `NaN`, `inf`
  and `-inf`.
* As a whole number: the value rounded half to even, `NaN`, `inf` and `-inf`.

The minus sign is written for every negative value, negative zero included.
-/

namespace OrphanedCode.Binary64

/-- The digits of a natural number in base ten. -/
def digitText (n : Nat) : String :=
  String.ofList (Nat.toDigits 10 n)

/-- A run of zeros. -/
def zeros (n : Nat) : String :=
  String.ofList (List.replicate n '0')

/-- The exponent of a JSON number: a minus sign for negative exponents, no sign otherwise. -/
def exponentText (k : Int) : String :=
  if k < 0 then "-" ++ digitText k.natAbs else digitText k.natAbs

/-- The JSON text of a nonzero magnitude given by its shortest digits and their exponent. -/
def jsonDigits (d : Nat) (p : Int) : String :=
  let ds := Nat.toDigits 10 d
  let n := ds.length
  let kk : Int := n + p
  if 0 ≤ p ∧ kk ≤ 16 then
    String.ofList ds ++ zeros p.toNat ++ ".0"
  else if 0 < kk ∧ kk ≤ 16 then
    String.ofList (ds.take kk.toNat) ++ "." ++ String.ofList (ds.drop kk.toNat)
  else if -5 < kk ∧ kk ≤ 0 then
    "0." ++ zeros (-kk).toNat ++ String.ofList ds
  else if n = 1 then
    String.ofList ds ++ "e" ++ exponentText (kk - 1)
  else
    String.ofList (ds.take 1) ++ "." ++ String.ofList (ds.drop 1) ++ "e" ++ exponentText (kk - 1)

/-- The text of a value inside a JSON document. -/
def jsonText (x : Float) : String :=
  match shape x with
  | .nan => "null"
  | .infinite _ => "null"
  | .finite negative m e =>
    let sign := if negative then "-" else ""
    if m = 0 then sign ++ "0.0"
    else
      let (d, p) := shortest m e
      sign ++ jsonDigits d p

/-- The positional text of a nonzero magnitude given by its shortest digits and their exponent. -/
def plainDigits (d : Nat) (p : Int) : String :=
  let ds := Nat.toDigits 10 d
  let kk : Int := ds.length + p
  if 0 ≤ p then String.ofList ds ++ zeros p.toNat
  else if 0 < kk then
    String.ofList (ds.take kk.toNat) ++ "." ++ String.ofList (ds.drop kk.toNat)
  else "0." ++ zeros (-kk).toNat ++ String.ofList ds

/-- The text of a value inside a message. -/
def plainText (x : Float) : String :=
  match shape x with
  | .nan => "NaN"
  | .infinite negative => if negative then "-inf" else "inf"
  | .finite negative m e =>
    let sign := if negative then "-" else ""
    if m = 0 then sign ++ "0"
    else
      let (d, p) := shortest m e
      sign ++ plainDigits d p

/-- The text of a value inside a message about an unexpected value: the positional text, with
".0" added to a finite value that has no decimal point, so that it reads as a fraction. -/
def pointedText (x : Float) : String :=
  let t := plainText x
  match shape x with
  | .finite _ _ _ => if t.contains '.' then t else t ++ ".0"
  | _ => t

/-- The text of a value rounded to a whole number, a half going to the even neighbour. -/
def wholeText (x : Float) : String :=
  match shape x with
  | .nan => "NaN"
  | .infinite negative => if negative then "-inf" else "inf"
  | .finite negative m e => (if negative then "-" else "") ++ digitText (wholeHalfEven m e)

end OrphanedCode.Binary64
