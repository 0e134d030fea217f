import OrphanedCode.Text.Quoted
import OrphanedCode.Number.Layout
import OrphanedCode.Number.Word
/-!
Time ranges such as `7d`: a count of hours (`h`), days (`d`), weeks (`w`) or thirty-day months
(`M`).

A text is a time range when it is one or more ASCII digits whose value fits in 64 bits, followed
by exactly one unit letter. Its length in seconds is the product of the count and the unit's
seconds in unsigned 64-bit words, saturating at `2^64 - 1`. It is written back as the count without leading zeros and the unit
letter.
-/

namespace OrphanedCode

/-- The unit of a time range. -/
inductive TimeUnit where
  | hours
  | days
  | weeks
  | months
  deriving DecidableEq, Repr

namespace TimeUnit

/-- The seconds of one unit. -/
def seconds : TimeUnit → UInt64
  | .hours => 3600
  | .days => 86400
  | .weeks => 604800
  | .months => 2592000

/-- The letter that writes a unit. -/
def letter : TimeUnit → Char
  | .hours => 'h'
  | .days => 'd'
  | .weeks => 'w'
  | .months => 'M'

/-- The unit a letter writes. -/
def ofLetter? : Char → Option TimeUnit
  | 'h' => some .hours
  | 'd' => some .days
  | 'w' => some .weeks
  | 'M' => some .months
  | _ => none

end TimeUnit

/-- A number of units of time; the count fits in 64 bits. -/
structure TimeRange where
  amount : Nat
  unit : TimeUnit
  amount_lt : amount < Nat.pow 2 64
  deriving DecidableEq

/-- The value of a list of decimal digits. -/
def digitsValue (ds : List Char) : Nat :=
  ds.foldl (fun acc d => acc * 10 + (d.toNat - '0'.toNat)) 0

namespace TimeRange

/-- The length of a range in seconds: the count times the unit's seconds, saturating. -/
def seconds (r : TimeRange) : UInt64 :=
  Word.mulSat (UInt64.ofNat r.amount) r.unit.seconds

/-- Reads a time range: digits that fit in 64 bits, then one unit letter. -/
def parse? (s : String) : Option TimeRange :=
  match s.toList.reverse with
  | [] => none
  | u :: revDigits =>
    match TimeUnit.ofLetter? u with
    | none => none
    | some unit =>
      let ds := revDigits.reverse
      if ds.isEmpty || !ds.all Char.isDigit then none
      else
        let n := digitsValue ds
        if h : n < Nat.pow 2 64 then some ⟨n, unit, h⟩ else none

/-- The text of a range: the count without leading zeros and the unit letter. -/
def text (r : TimeRange) : String :=
  Binary64.digitText r.amount ++ r.unit.letter.toString

end TimeRange

/-- The message for a text that is no time range. -/
def invalidTimeRangeMessage (s : String) : String :=
  "Invalid time range format: " ++ Text.quote s ++ " (expected <number><h|d|w|M>, e.g. 7d)"

end OrphanedCode
