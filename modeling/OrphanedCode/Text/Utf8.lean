/-!
Reading UTF-8 bytes as text.

A byte sequence is UTF-8 text when it splits into encodings of code points: one byte below
`0x80`, or a lead byte followed by one to three continuation bytes (`0x80`–`0xBF`) in the shortest
form, for a code point that is no surrogate and does not exceed `0x10FFFF`.
-/

namespace OrphanedCode.Text

/-- Whether a byte continues a multi-byte encoding. -/
def isContinuation (b : UInt8) : Bool :=
  0x80 ≤ b.toNat && b.toNat ≤ 0xBF

/-- The six payload bits of a continuation byte. -/
def payload (b : UInt8) : Nat :=
  b.toNat % 64

/-- The characters that UTF-8 bytes encode, if they are valid UTF-8. -/
def decodeUtf8 : List UInt8 → Option (List Char)
  | [] => some []
  | b0 :: rest =>
    let n0 := b0.toNat
    if n0 < 0x80 then (decodeUtf8 rest).map (Char.ofNat n0 :: ·)
    else if 0xC2 ≤ n0 ∧ n0 ≤ 0xDF then
      match rest with
      | b1 :: r =>
        if isContinuation b1 then (decodeUtf8 r).map (Char.ofNat ((n0 % 32) * 64 + payload b1) :: ·)
        else none
      | [] => none
    else if 0xE0 ≤ n0 ∧ n0 ≤ 0xEF then
      match rest with
      | b1 :: b2 :: r =>
        let c := (n0 % 16) * 4096 + payload b1 * 64 + payload b2
        if isContinuation b1 && isContinuation b2 && 0x800 ≤ c && !(0xD800 ≤ c && c ≤ 0xDFFF) then
          (decodeUtf8 r).map (Char.ofNat c :: ·)
        else none
      | _ => none
    else if 0xF0 ≤ n0 ∧ n0 ≤ 0xF4 then
      match rest with
      | b1 :: b2 :: b3 :: r =>
        let c := (n0 % 8) * 262144 + payload b1 * 4096 + payload b2 * 64 + payload b3
        if isContinuation b1 && isContinuation b2 && isContinuation b3 && 0x10000 ≤ c &&
            c ≤ 0x10FFFF then
          (decodeUtf8 r).map (Char.ofNat c :: ·)
        else none
      | _ => none
    else none

/-- The text that UTF-8 bytes encode, if they are valid UTF-8. -/
def ofUtf8? (bytes : List UInt8) : Option String :=
  (decodeUtf8 bytes).map String.ofList

end OrphanedCode.Text
