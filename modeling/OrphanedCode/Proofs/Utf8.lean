import OrphanedCode.Text.Utf8
import OrphanedCode.Proofs.Text
/-!
UTF-8 decoding undoes encoding.

A character is encoded as one byte below `0x80`, or as a lead byte that gives the length and the
high bits followed by continuation bytes of six bits each. Decoding reads the lead byte's range,
checks the continuations and the range of the code point, and gives the character back; so the
bytes of any text decode to that text.
-/

namespace OrphanedCode.Text

/-! ## Decoding one character -/

theorem decodeUtf8_one {b : UInt8} (h : b.toNat < 0x80) (rest : List UInt8) :
    decodeUtf8 (b :: rest) = (decodeUtf8 rest).map (Char.ofNat b.toNat :: ·) := by
  cases rest <;> simp [decodeUtf8, h]

theorem decodeUtf8_two {b0 b1 : UInt8} (h0 : 0xC2 ≤ b0.toNat ∧ b0.toNat ≤ 0xDF)
    (h1 : isContinuation b1 = true) (rest : List UInt8) :
    decodeUtf8 (b0 :: b1 :: rest) =
      (decodeUtf8 rest).map (Char.ofNat (b0.toNat % 32 * 64 + payload b1) :: ·) := by
  have hlt : ¬ b0.toNat < 0x80 := by omega
  simp [decodeUtf8, hlt, h0, h1]

theorem decodeUtf8_three {b0 b1 b2 : UInt8} (h0 : 0xE0 ≤ b0.toNat ∧ b0.toNat ≤ 0xEF)
    (h1 : isContinuation b1 = true) (h2 : isContinuation b2 = true)
    (hc : 0x800 ≤ b0.toNat % 16 * 4096 + payload b1 * 64 + payload b2)
    (hs : ¬ (0xD800 ≤ b0.toNat % 16 * 4096 + payload b1 * 64 + payload b2 ∧
      b0.toNat % 16 * 4096 + payload b1 * 64 + payload b2 ≤ 0xDFFF)) (rest : List UInt8) :
    decodeUtf8 (b0 :: b1 :: b2 :: rest) =
      (decodeUtf8 rest).map (Char.ofNat (b0.toNat % 16 * 4096 + payload b1 * 64 + payload b2) :: ·) := by
  have hlt : ¬ b0.toNat < 0x80 := by omega
  have htwo : ¬ (0xC2 ≤ b0.toNat ∧ b0.toNat ≤ 0xDF) := by omega
  simp [decodeUtf8, hlt, htwo, h0, h1, h2, hc]
  omega

theorem decodeUtf8_four {b0 b1 b2 b3 : UInt8} (h0 : 0xF0 ≤ b0.toNat ∧ b0.toNat ≤ 0xF4)
    (h1 : isContinuation b1 = true) (h2 : isContinuation b2 = true)
    (h3 : isContinuation b3 = true)
    (hc : 0x10000 ≤ b0.toNat % 8 * 262144 + payload b1 * 4096 + payload b2 * 64 + payload b3 ∧
      b0.toNat % 8 * 262144 + payload b1 * 4096 + payload b2 * 64 + payload b3 ≤ 0x10FFFF)
    (rest : List UInt8) :
    decodeUtf8 (b0 :: b1 :: b2 :: b3 :: rest) =
      (decodeUtf8 rest).map (Char.ofNat
        (b0.toNat % 8 * 262144 + payload b1 * 4096 + payload b2 * 64 + payload b3) :: ·) := by
  have hlt : ¬ b0.toNat < 0x80 := by omega
  have htwo : ¬ (0xC2 ≤ b0.toNat ∧ b0.toNat ≤ 0xDF) := by omega
  have hthree : ¬ (0xE0 ≤ b0.toNat ∧ b0.toNat ≤ 0xEF) := by omega
  simp [decodeUtf8, hlt, htwo, hthree, h0, h1, h2, h3, hc]


/-! ## Encoding, then decoding -/

theorem decodeUtf8_utf8EncodeChar_append (c : Char) (rest : List UInt8) :
    decodeUtf8 (String.utf8EncodeChar c ++ rest) = (decodeUtf8 rest).map (c :: ·) := by
  have hvalid := c.valid
  simp only [UInt32.isValidChar, Nat.isValidChar, Char.toNat_val] at hvalid
  -- each byte is a sum below 256, so `UInt8.ofNat` keeps it
  have hbyte : ∀ n, n < 256 → (UInt8.ofNat n).toNat = n := fun n hn => by
    rw [UInt8.toNat_ofNat', Nat.mod_eq_of_lt hn]
  have hcont : ∀ n, n < 64 → isContinuation (UInt8.ofNat (n + 0x80)) = true := fun n hn => by
    simp only [isContinuation, hbyte _ (by omega : n + 0x80 < 256)]
    simp only [Bool.and_eq_true, decide_eq_true_eq]
    omega
  have hpay : ∀ n, n < 64 → payload (UInt8.ofNat (n + 0x80)) = n := fun n hn => by
    simp only [payload, hbyte _ (by omega : n + 0x80 < 256)]
    omega
  simp only [String.utf8EncodeChar, Char.toNat_val]
  split_ifs with h1 h2 h3
  · rw [List.cons_append, List.nil_append, decodeUtf8_one (by rw [hbyte _ (by omega)]; omega),
      hbyte _ (by omega), Char.ofNat_toNat]
  · rw [List.cons_append, List.cons_append, List.nil_append,
      decodeUtf8_two (by rw [hbyte _ (by omega)]; omega) (hcont _ (by omega)),
      hbyte _ (by omega), hpay _ (by omega)]
    have hv : (c.toNat / 64 % 32 + 0xC0) % 32 * 64 + c.toNat % 64 = c.toNat := by omega
    rw [hv, Char.ofNat_toNat]
  · rw [List.cons_append, List.cons_append, List.cons_append, List.nil_append,
      decodeUtf8_three (by rw [hbyte _ (by omega)]; omega) (hcont _ (by omega)) (hcont _ (by omega))
        (by rw [hbyte _ (by omega), hpay _ (by omega), hpay _ (by omega)]; omega)
        (by rw [hbyte _ (by omega), hpay _ (by omega), hpay _ (by omega)]; omega),
      hbyte _ (by omega), hpay _ (by omega), hpay _ (by omega)]
    have hv : (c.toNat / 4096 % 16 + 0xE0) % 16 * 4096 + c.toNat / 64 % 64 * 64 + c.toNat % 64 =
        c.toNat := by omega
    rw [hv, Char.ofNat_toNat]
  · rw [List.cons_append, List.cons_append, List.cons_append, List.cons_append, List.nil_append,
      decodeUtf8_four (by rw [hbyte _ (by omega)]; omega) (hcont _ (by omega)) (hcont _ (by omega))
        (hcont _ (by omega))
        (by rw [hbyte _ (by omega), hpay _ (by omega), hpay _ (by omega), hpay _ (by omega)]; omega),
      hbyte _ (by omega), hpay _ (by omega), hpay _ (by omega), hpay _ (by omega)]
    have hv : (c.toNat / 262144 % 8 + 0xF0) % 8 * 262144 + c.toNat / 4096 % 64 * 4096 +
        c.toNat / 64 % 64 * 64 + c.toNat % 64 = c.toNat := by omega
    rw [hv, Char.ofNat_toNat]

theorem decodeUtf8_flatMap_utf8EncodeChar (cs : List Char) :
    decodeUtf8 (cs.flatMap String.utf8EncodeChar) = some cs := by
  induction cs with
  | nil => rfl
  | cons c cs ih => rw [List.flatMap_cons, decodeUtf8_utf8EncodeChar_append, ih, Option.map_some]

/-- The UTF-8 bytes of a text read back as the text. -/
theorem ofUtf8?_toUTF8 (s : String) : ofUtf8? s.toUTF8.data.toList = some s := by
  rw [ofUtf8?, toUTF8_data_toList, decodeUtf8_flatMap_utf8EncodeChar, Option.map_some,
    String.ofList_toList]

end OrphanedCode.Text
