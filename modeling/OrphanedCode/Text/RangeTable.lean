/-!
Character classes as sorted tables of inclusive code-point ranges.

A table lists its ranges as pairs of bounds in increasing order, and membership is decided by
bisection over the ranges.
-/

namespace OrphanedCode.Text

/-- A character class given by sorted, disjoint, inclusive ranges of code points. -/
structure RangeTable where
  ranges : Array (Nat × Nat)

namespace RangeTable

/-- The value of one hexadecimal digit, either case. -/
def hexValue? (c : Char) : Option Nat :=
  if '0' ≤ c ∧ c ≤ '9' then some (c.toNat - '0'.toNat)
  else if 'a' ≤ c ∧ c ≤ 'f' then some (c.toNat - 'a'.toNat + 10)
  else if 'A' ≤ c ∧ c ≤ 'F' then some (c.toNat - 'A'.toNat + 10)
  else none

/-- Reads a hexadecimal numeral; a character that is no digit counts as zero. -/
def readHex (s : String) : Nat :=
  s.toList.foldl (fun acc c => acc * 16 + (hexValue? c).getD 0) 0

/-- Whether the code point `n` lies in one of the ranges, by bisection. -/
def containsNat (t : RangeTable) (n : Nat) : Bool :=
  go 0 t.ranges.size
where
  go (lo hi : Nat) : Bool :=
    if lo < hi then
      let mid := (lo + hi) / 2
      match t.ranges[mid]? with
      | some (a, b) =>
        if n < a then go lo mid
        else if b < n then go (mid + 1) hi
        else true
      | none => false
    else false
  termination_by hi - lo
  decreasing_by all_goals omega

/-- Whether the character lies in the class. -/
def contains (t : RangeTable) (c : Char) : Bool :=
  t.containsNat c.toNat

end RangeTable

end OrphanedCode.Text
