import OrphanedCode.Number.Layout
/-!
Timestamps: a number of seconds since 1970-01-01 written as an RFC 3339 time in UTC with
milliseconds, such as `2023-11-14T22:13:20.000Z`.

The seconds are first turned into whole milliseconds (times 1000, rounded half away from zero,
cast to a 64-bit signed integer). Calendar dates run from the year -262143 to the year 262142; a
time outside that range is written as the epoch. A year outside 0000–9999 carries a sign and at
least four digits.
-/

namespace OrphanedCode.Timestamp

/-- The year, month and day of a day counted from 1970-01-01 (proleptic Gregorian calendar). -/
def civilOfDays (z : Int) : Int × Nat × Nat :=
  let z := z + 719468
  let era := z / 146097
  let doe := z - era * 146097
  let yoe := (doe - doe / 1460 + doe / 36524 - doe / 146096) / 365
  let y := yoe + era * 400
  let doy := doe - (365 * yoe + yoe / 4 - yoe / 100)
  let mp := (5 * doy + 2) / 153
  let d := doy - (153 * mp + 2) / 5 + 1
  let m := if mp < 10 then mp + 3 else mp - 9
  ((if m ≤ 2 then y + 1 else y), m.toNat, d.toNat)

/-- The least year of the calendar. -/
def minYear : Int := -262143

/-- The greatest year of the calendar. -/
def maxYear : Int := 262142

/-- A number written with at least `width` digits. -/
def padded (width : Nat) (n : Nat) : String :=
  let ds := Binary64.digitText n
  Binary64.zeros (width - ds.length) ++ ds

/-- The text of a year: four digits from 0 to 9999, otherwise a sign and at least four digits. -/
def yearText (y : Int) : String :=
  if 0 ≤ y ∧ y ≤ 9999 then padded 4 y.toNat
  else (if y < 0 then "-" else "+") ++ padded 4 y.natAbs

/-- The RFC 3339 text of a number of milliseconds since the epoch, when the calendar holds it. -/
def ofMillis? (ms : Int) : Option String :=
  let secs := ms / 1000
  let milli := (ms % 1000).toNat
  let days := secs / 86400
  let daySecs := (secs % 86400).toNat
  let (y, m, d) := civilOfDays days
  if y < minYear ∨ maxYear < y then none
  else
    some (yearText y ++ "-" ++ padded 2 m ++ "-" ++ padded 2 d ++ "T" ++ padded 2 (daySecs / 3600) ++
      ":" ++ padded 2 (daySecs / 60 % 60) ++ ":" ++ padded 2 (daySecs % 60) ++ "." ++
      padded 3 milli ++ "Z")

/-- The epoch itself. -/
def epochText : String := "1970-01-01T00:00:00.000Z"

/-- The text of a time given in seconds since the epoch. -/
def format (seconds : Float) : String :=
  (ofMillis? (Binary64.roundToInt64 (seconds * 1000.0))).getD epochText

end OrphanedCode.Timestamp
