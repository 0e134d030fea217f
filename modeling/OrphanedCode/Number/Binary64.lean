/-!
Binary64 values read from their bits.

A value is not a number, an infinity, or `±mantissa · 2^exponent` with a mantissa below `2^53`
(below `2^52` for the subnormal values, whose exponent is `-1074`). Rounding to a whole number is
exact on that form: half away from zero, or half to the even neighbour, and the saturating cast to
a 64-bit signed integer sends not-a-number to zero and clamps everything else.
-/

namespace OrphanedCode.Binary64

/-- What the bits of a binary64 value stand for. -/
inductive Shape where
  | nan
  | infinite (negative : Bool)
  /-- The value `(-1)^negative · mantissa · 2^exponent`; a zero has mantissa zero. -/
  | finite (negative : Bool) (mantissa : Nat) (exponent : Int)
  deriving Repr, DecidableEq

/-- The shape of a bit pattern: a sign bit, eleven exponent bits, fifty-two fraction bits. -/
def shapeOfBits (b : Nat) : Shape :=
  let negative := decide (b / Nat.pow 2 63 % 2 = 1)
  let biased : Nat := b / Nat.pow 2 52 % Nat.pow 2 11
  let fraction : Nat := b % Nat.pow 2 52
  if biased = Nat.pow 2 11 - 1 then
    if fraction = 0 then .infinite negative else .nan
  else if biased = 0 then .finite negative fraction (-1074)
  else .finite negative (fraction + Nat.pow 2 52) ((biased : Int) - 1075)

/-- The shape of a value. -/
def shape (x : Float) : Shape :=
  shapeOfBits x.toBits.toNat

/-- The nearest whole number to `mantissa · 2^exponent`, a half going away from zero. -/
def wholeHalfAway (mantissa : Nat) (exponent : Int) : Nat :=
  if 0 ≤ exponent then mantissa * Nat.pow 2 exponent.toNat
  else
    let d := Nat.pow 2 (-exponent).toNat
    (2 * mantissa + d) / (2 * d)

/-- The nearest whole number to `mantissa · 2^exponent`, a half going to the even neighbour. -/
def wholeHalfEven (mantissa : Nat) (exponent : Int) : Nat :=
  if 0 ≤ exponent then mantissa * Nat.pow 2 exponent.toNat
  else
    let d := Nat.pow 2 (-exponent).toNat
    let q := mantissa / d
    let r := mantissa % d
    if 2 * r > d then q + 1
    else if 2 * r = d then q + q % 2
    else q

/-- The least 64-bit signed integer. -/
def int64Min : Int := -(Int.pow 2 63)

/-- The greatest 64-bit signed integer. -/
def int64Max : Int := Int.pow 2 63 - 1

/-- Clamps a whole number into the 64-bit signed range. -/
def clampInt64 (n : Int) : Int :=
  if n < int64Min then int64Min else if int64Max < n then int64Max else n

/-- The value rounded half away from zero and cast to a 64-bit signed integer: not-a-number
gives zero, and values out of range give the nearest bound. -/
def roundToInt64 (x : Float) : Int :=
  match shape x with
  | .nan => 0
  | .infinite negative => if negative then int64Min else int64Max
  | .finite negative m e =>
    let n : Int := wholeHalfAway m e
    clampInt64 (if negative then -n else n)

end OrphanedCode.Binary64
