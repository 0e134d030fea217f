import OrphanedCode.Telemetry.Client
import Mathlib.Tactic.Ring
/-!
The window of a usage query, computed in 64-bit words.

Each saturating operation on words equals its exact result clamped to the word's range: the
unsigned product to `2^64 - 1`, the signed difference to `[-2^63, 2^63 - 1]`, an unsigned word read
as a signed one to `2^63 - 1`. So the seconds of a range are the exact product capped at
`2^64 - 1`, and the first second of a window is the end less those seconds capped at `2^63 - 1`,
floored at `-2^63`: nothing wraps, and a window never starts after its end nor spans more than its
range.
-/

namespace OrphanedCode

namespace Word

theorem toNat_unsignedMax : unsignedMax.toNat = 2 ^ 64 - 1 := rfl

/-- The saturating product is the exact product, capped at the largest word. -/
theorem toNat_mulSat (a b : UInt64) :
    (mulSat a b).toNat = min (a.toNat * b.toNat) (2 ^ 64 - 1) := by
  unfold mulSat
  by_cases h : a.toNat * b.toNat < 2 ^ 64
  · have hflag : BitVec.umulOverflow a.toBitVec b.toBitVec = false := by
      simp [BitVec.umulOverflow]; omega
    rw [hflag, if_neg Bool.false_ne_true, UInt64.toNat_mul, Nat.mod_eq_of_lt h]
    omega
  · have hflag : BitVec.umulOverflow a.toBitVec b.toBitVec = true := by
      simp [BitVec.umulOverflow]; omega
    rw [hflag, if_pos rfl, toNat_unsignedMax]
    omega

/-- An unsigned word read as a signed one keeps its value up to the largest signed word. -/
theorem toInt_toSignedOrMax (a : UInt64) :
    (toSignedOrMax a).toInt = min (a.toNat : Int) (2 ^ 63 - 1) := by
  unfold toSignedOrMax
  split
  · rename_i h
    have hfit : a.toNat ≤ 2 ^ 63 - 1 := by simpa [UInt64.le_iff_toNat_le] using h
    -- the sign bit is clear, so the bits read the same signed and unsigned
    rw [← Int64.toInt_toBitVec, UInt64.toBitVec_toInt64,
      BitVec.toInt_eq_toNat_of_lt (by simp; omega)]
    simp
    omega
  · rename_i h
    have hbig : 2 ^ 63 - 1 < a.toNat := by simpa [UInt64.le_iff_toNat_le] using h
    rw [Int64.toInt_maxValue]
    omega

/-- The saturating difference is the exact difference, clamped to the signed range. -/
theorem toInt_subSat (a b : Int64) :
    (subSat a b).toInt = max (min (a.toInt - b.toInt) (2 ^ 63 - 1)) (-2 ^ 63) := by
  have ha := Int64.le_toInt a
  have ha' := Int64.toInt_lt a
  have hb := Int64.le_toInt b
  have hb' := Int64.toInt_lt b
  unfold subSat
  by_cases hflag : BitVec.ssubOverflow a.toBitVec b.toBitVec = true
  · -- the difference leaves the range on the side that the sign of `b` decides
    have hout : 2 ^ 63 ≤ a.toInt - b.toInt ∨ a.toInt - b.toInt < -2 ^ 63 := by
      simpa [BitVec.ssubOverflow] using hflag
    rw [if_pos hflag]
    split <;> rename_i hb0 <;> rw [Int64.le_iff_toInt_le, Int64.toInt_zero] at hb0
    · rw [Int64.toInt_minValue]
      omega
    · rw [Int64.toInt_maxValue]
      omega
  · have hin : a.toInt - b.toInt < 2 ^ 63 ∧ -2 ^ 63 ≤ a.toInt - b.toInt := by
      simpa [BitVec.ssubOverflow] using hflag
    rw [if_neg hflag, ← Int64.toInt_toBitVec, Int64.toBitVec_sub,
      BitVec.toInt_sub_of_not_ssubOverflow hflag]
    simp
    omega

end Word

/-- The seconds of a range are the count times the unit's seconds, capped at `2^64 - 1`. -/
theorem TimeRange.toNat_seconds (w : TimeRange) :
    w.seconds.toNat = min (w.amount * w.unit.seconds.toNat) (2 ^ 64 - 1) := by
  have hfit : w.amount < UInt64.size := by simpa [Nat.pow_eq] using w.amount_lt
  rw [TimeRange.seconds, Word.toNat_mulSat, UInt64.toNat_ofNat_of_lt' hfit]

/-- A window starts its seconds, capped at `2^63 - 1`, before its end, and never before `-2^63`. -/
theorem TelemetryClient.toInt_windowStart (e : Int64) (w : TimeRange) :
    (windowStart e w).toInt = max (e.toInt - min (w.seconds.toNat : Int) (2 ^ 63 - 1)) (-2 ^ 63) := by
  have he := Int64.toInt_lt e
  rw [windowStart, Word.toInt_subSat, Word.toInt_toSignedOrMax]
  omega

/-- The window of a query over a range that ends at `e`: the range's seconds are the exact product
of its count and its unit's seconds capped at `2^64 - 1`, and the window starts those seconds,
capped at `2^63 - 1`, before `e`, floored at `-2^63`. No step wraps, and the window spans between
none and the range's seconds. -/
theorem window_saturates_within_range (w : TimeRange) (e : Int64) :
    w.seconds.toNat = min (w.amount * w.unit.seconds.toNat) (2 ^ 64 - 1) ∧
      (TelemetryClient.windowStart e w).toInt =
        max (e.toInt - min (w.seconds.toNat : Int) (2 ^ 63 - 1)) (-2 ^ 63) ∧
      0 ≤ e.toInt - (TelemetryClient.windowStart e w).toInt ∧
      e.toInt - (TelemetryClient.windowStart e w).toInt ≤ w.seconds.toNat := by
  have hstart := TelemetryClient.toInt_windowStart e w
  have he := Int64.le_toInt e
  refine ⟨w.toNat_seconds, hstart, ?_, ?_⟩ <;> omega

/-- The largest count of months saturates, and a window ending two seconds after the least
second starts at the least second. -/
example : (⟨Nat.pow 2 64 - 1, .months, by decide⟩ : TimeRange).seconds = Word.unsignedMax ∧
    TelemetryClient.windowStart (-9223372036854775806) ⟨Nat.pow 2 64 - 1, .months, by decide⟩ =
      Int64.minValue := by
  decide

end OrphanedCode
