/-!
Reading decimal numerals as binary64 values, rounded to nearest with ties to even.

A numeral is an optional sign, then `inf`, `infinity` or `nan` in any case, or digits with an
optional fraction (`1`, `1.5`, `.5`, `5.`) and an optional exponent (`e7`, `E-7`, `e+7`). A value
too large for the format is infinite; one too small is zero.
-/

namespace OrphanedCode.Binary64

/-- The value `digits · 10^exponent`, rounded to nearest; exponents far beyond the range of the
format go straight to infinity or zero. -/
def ofDecimal (digits : Nat) (exponent : Int) : Float :=
  if digits = 0 then 0.0
  else if exponent > 400 then 1.0 / 0.0
  else if exponent + (Nat.toDigits 10 digits).length < -400 then 0.0
  else if exponent < 0 then Float.ofScientific digits true exponent.natAbs
  else Float.ofScientific digits false exponent.toNat

/-- A value with the given sign. -/
def withSign (negative : Bool) (x : Float) : Float :=
  if negative then -x else x

/-- Splits a run of ASCII digits off the front of a character list. -/
def spanDigits (cs : List Char) : List Char × List Char :=
  (cs.takeWhile Char.isDigit, cs.dropWhile Char.isDigit)

/-- The value of a list of decimal digits. -/
def digitValue (ds : List Char) : Nat :=
  ds.foldl (fun acc d => acc * 10 + (d.toNat - '0'.toNat)) 0

/-- Reads the exponent part after `e` or `E`: an optional sign and at least one digit. -/
def readExponent? (cs : List Char) : Option Int :=
  let (negative, rest) :=
    match cs with
    | '+' :: r => (false, r)
    | '-' :: r => (true, r)
    | r => (false, r)
  let (ds, tail) := spanDigits rest
  if ds.isEmpty || !tail.isEmpty then none
  else if negative then some (-(digitValue ds : Int)) else some (digitValue ds)

/-- Reads an unsigned finite numeral. -/
def readUnsigned? (cs : List Char) : Option Float :=
  let (whole, rest) := spanDigits cs
  let (fraction, rest) :=
    match rest with
    | '.' :: r => spanDigits r
    | r => ([], r)
  if whole.isEmpty && fraction.isEmpty then none
  else
    let shift : Option Int :=
      match rest with
      | [] => some 0
      | e :: r => if e == 'e' || e == 'E' then readExponent? r else none
    shift.map fun k => ofDecimal (digitValue (whole ++ fraction)) (k - fraction.length)

/-- Reads a numeral, with its sign and the special words. -/
def readDecimal? (s : String) : Option Float :=
  let (negative, rest) :=
    match s.toList with
    | '+' :: r => (false, r)
    | '-' :: r => (true, r)
    | r => (false, r)
  let word := String.ofList (rest.map Char.toLower)
  if word == "inf" || word == "infinity" then some (withSign negative (1.0 / 0.0))
  else if word == "nan" then some (0.0 / 0.0)
  else (readUnsigned? rest).map (withSign negative)

end OrphanedCode.Binary64
