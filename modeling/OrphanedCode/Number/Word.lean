/-!
Arithmetic on 64-bit words that saturates: where the exact result leaves the range of the word,
the bound on that side is taken instead of the wrapped value.

Each operation tests for overflow as the processor's flag does and keeps the wrapped result when
there is none. Unsigned multiplication saturates at `2^64 - 1`; signed subtraction at `-2^63` below
and `2^63 - 1` above; an unsigned word too large for a signed one becomes `2^63 - 1`.
-/

namespace OrphanedCode.Word

/-- The largest unsigned word, `2^64 - 1`. -/
def unsignedMax : UInt64 := 0xFFFFFFFFFFFFFFFF

/-- The product of two unsigned words, or the largest word when it overflows. -/
def mulSat (a b : UInt64) : UInt64 :=
  if BitVec.umulOverflow a.toBitVec b.toBitVec then unsignedMax else a * b

/-- The difference of two signed words, or the bound it overflows: below when a nonnegative word
is subtracted, above otherwise. -/
def subSat (a b : Int64) : Int64 :=
  if BitVec.ssubOverflow a.toBitVec b.toBitVec then
    if 0 ≤ b then Int64.minValue else Int64.maxValue
  else a - b

/-- An unsigned word as a signed one when it fits, else the largest signed word. -/
def toSignedOrMax (a : UInt64) : Int64 :=
  if a ≤ 0x7FFFFFFFFFFFFFFF then a.toInt64 else Int64.maxValue

end OrphanedCode.Word
