import OrphanedCode.Json.Reader
import OrphanedCode.Json.Write
import OrphanedCode.Proofs.Utf8
/-!
The bytes of JSON text as the reader scans them.

The reader's cursor stands at an index into the bytes of a text, and what lies ahead of it is a
list. Each scan of the reader (blanks, digits, the body of a string, an escape) is stated here on
that list: what the scan gives and where it stops. The escapes the writer uses read back as the
bytes of their characters, so the body of a string the writer quotes reads back as the string.
-/

namespace OrphanedCode.Json

/-! ## The bytes ahead of the cursor -/

/-- The bytes from the cursor on. -/
def Cursor.rest (s : Cursor) : List UInt8 :=
  s.bytes.toList.drop s.index

/-- The cursor moved `n` bytes on. -/
def Cursor.advance (s : Cursor) (n : Nat) : Cursor :=
  { s with index := s.index + n }

@[simp] theorem Cursor.advance_bytes (s : Cursor) (n : Nat) : (s.advance n).bytes = s.bytes := rfl
@[simp] theorem Cursor.advance_index (s : Cursor) (n : Nat) : (s.advance n).index = s.index + n := rfl
@[simp] theorem Cursor.advance_depth (s : Cursor) (n : Nat) : (s.advance n).depth = s.depth := rfl

theorem Cursor.advance_advance (s : Cursor) (m n : Nat) : (s.advance m).advance n = s.advance (m + n) := by
  simp only [Cursor.advance, Nat.add_assoc]

theorem Cursor.rest_advance {s : Cursor} {l : List UInt8} (h : s.rest = l) (n : Nat) :
    (s.advance n).rest = l.drop n := by
  rw [← h, Cursor.rest, Cursor.rest, Cursor.advance_index, Cursor.advance_bytes, List.drop_drop,
    Nat.add_comm]

theorem Cursor.rest_advance_append {s : Cursor} {B X : List UInt8} (h : s.rest = B ++ X) (n : Nat) :
    (s.advance (B.length + n)).rest = X.drop n := by
  rw [Cursor.rest_advance h, ← List.drop_drop, List.drop_left]

theorem Cursor.eq_advance {t s : Cursor} {n : Nat} (hb : t.bytes = s.bytes) (hi : t.index = s.index + n)
    (hd : t.depth = s.depth) : t = s.advance n := by
  cases t
  cases s
  simp_all [Cursor.advance]

theorem Cursor.rest_of_index {t s : Cursor} {L : List UInt8} {n : Nat} (h : s.rest = L)
    (hb : t.bytes = s.bytes) (hi : t.index = s.index + n) : t.rest = L.drop n := by
  rw [← h, Cursor.rest, Cursor.rest, hb, hi, List.drop_drop, Nat.add_comm]

theorem Cursor.rest_of_prefix {t s : Cursor} {P X : List UInt8} (h : s.rest = P ++ X)
    (hb : t.bytes = s.bytes) (hi : t.index = s.index + P.length) : t.rest = X := by
  rw [Cursor.rest_of_index h hb hi, List.drop_left]

variable {bytes : Array UInt8} {i : Nat}

theorem getElem?_of_drop {l : List UInt8} (h : bytes.toList.drop i = l) (k : Nat) :
    bytes[i + k]? = l[k]? := by
  rw [← h, List.getElem?_drop, Array.getElem?_toList]

theorem drop_add_of_drop {l : List UInt8} (h : bytes.toList.drop i = l) (k : Nat) :
    bytes.toList.drop (i + k) = l.drop k := by
  rw [← h, List.drop_drop, Nat.add_comm]

theorem lt_size_of_drop {b : UInt8} {l : List UInt8} (h : bytes.toList.drop i = b :: l) :
    i < bytes.size := by
  have := getElem?_of_drop h 0
  rw [Nat.add_zero] at this
  exact (Array.getElem?_eq_some_iff.1 this).1

theorem getElem_of_drop {b : UInt8} {l : List UInt8} (h : bytes.toList.drop i = b :: l)
    (hi : i < bytes.size) : bytes[i] = b := by
  have := getElem?_of_drop h 0
  rw [Nat.add_zero, List.getElem?_cons_zero, Array.getElem?_eq_getElem hi] at this
  exact Option.some.inj this

theorem size_le_of_drop (h : bytes.toList.drop i = []) : ¬ i < bytes.size := by
  have := getElem?_of_drop h 0
  rw [Nat.add_zero, List.getElem?_nil] at this
  exact fun hi => by rw [Array.getElem?_eq_getElem hi] at this; cases this

/-! ## Scans -/

theorem blankEnd_of_drop {B S : List UInt8} (hB : ∀ b ∈ B, isBlankByte b = true)
    (hS : ∀ b ∈ S.head?, isBlankByte b = false) :
    ∀ {i}, bytes.toList.drop i = B ++ S → blankEnd bytes i = i + B.length := by
  induction B with
  | nil =>
    intro i h
    rw [blankEnd]
    cases S with
    | nil => rw [dif_neg (size_le_of_drop h)]; rfl
    | cons b S =>
      rw [dif_pos (lt_size_of_drop h), getElem_of_drop h, hS b rfl]
      rfl
  | cons b B ih =>
    intro i h
    rw [blankEnd, dif_pos (lt_size_of_drop h), getElem_of_drop h,
      hB b List.mem_cons_self, if_pos rfl, ih (fun b hb => hB b (List.mem_cons_of_mem _ hb))
        (drop_add_of_drop h 1)]
    simp
    omega

/-- A byte that ends a run of plain string bytes: the quote, the backslash or a control byte. -/
theorem stopIndex_of_drop_stop {b : UInt8} {l : List UInt8} (h : bytes.toList.drop i = b :: l)
    (hb : (b == 34 || b == 92 || b < 32) = true) : stopIndex bytes i = i := by
  rw [stopIndex, dif_pos (lt_size_of_drop h)]
  simp only [getElem_of_drop h, hb, if_true]

theorem stopIndex_of_drop_plain {p S : List UInt8} (hp : ∀ b ∈ p, (b == 34 || b == 92 || b < 32) = false) :
    ∀ {i}, bytes.toList.drop i = p ++ S → stopIndex bytes i = stopIndex bytes (i + p.length) := by
  induction p with
  | nil => intro i _; rfl
  | cons b p ih =>
    intro i h
    rw [stopIndex, dif_pos (lt_size_of_drop h)]
    simp only [getElem_of_drop h, hp b List.mem_cons_self, Bool.false_eq_true, if_false]
    rw [ih (fun b hb => hp b (List.mem_cons_of_mem _ hb)) (drop_add_of_drop h 1)]
    simp only [List.length_cons]
    congr 1
    omega

theorem le_stopIndex (bytes : Array UInt8) (i : Nat) : i ≤ stopIndex bytes i := by
  induction i using stopIndex.induct bytes with
  | case1 i hi _ hstop => rw [stopIndex, dif_pos hi, if_pos hstop]
  | case2 i hi _ hstop ih => rw [stopIndex, dif_pos hi, if_neg hstop]; exact Nat.le_of_succ_le ih
  | case3 i hi => rw [stopIndex, dif_neg hi]

/-- The value of digits read after a significand. -/
theorem accumulate_of_drop {ds S : List UInt8} (hds : ∀ b ∈ ds, isDigitByte b = true)
    (hS : ∀ b ∈ S.head?, isDigitByte b = false) {limit : Nat} :
    ∀ {i sig}, bytes.toList.drop i = ds ++ S →
      ds.foldl (fun acc b => acc * 10 + digitOf b) sig ≤ limit →
      accumulate bytes i sig limit = (ds.foldl (fun acc b => acc * 10 + digitOf b) sig, i + ds.length) := by
  induction ds with
  | nil =>
    intro i sig h _
    rw [accumulate]
    cases S with
    | nil => rw [dif_neg (size_le_of_drop h)]; rfl
    | cons b S =>
      rw [dif_pos (lt_size_of_drop h)]
      simp only [getElem_of_drop h, hS b rfl, Bool.false_and, Bool.false_eq_true, if_false]
      rfl
  | cons d ds ih =>
    intro i sig h hle
    -- the significand only grows, so every step stays within the limit
    have hgrow : ∀ (l : List UInt8) (a : Nat), a ≤ l.foldl (fun acc b => acc * 10 + digitOf b) a := by
      intro l
      induction l with
      | nil => intro a; exact Nat.le_refl a
      | cons x l ihl =>
        intro a
        have := ihl (a * 10 + digitOf x)
        simp only [List.foldl_cons]
        omega
    have hstep : sig * 10 + digitOf d ≤ limit := Nat.le_trans (hgrow ds _) hle
    rw [accumulate, dif_pos (lt_size_of_drop h)]
    simp only [getElem_of_drop h, hds d List.mem_cons_self, hstep, decide_true, Bool.and_self,
      if_true]
    rw [ih (fun b hb => hds b (List.mem_cons_of_mem _ hb)) (drop_add_of_drop h 1) hle]
    simp only [List.foldl_cons, List.length_cons, Prod.mk.injEq, true_and]
    omega

theorem digitAt_of_drop {l : List UInt8} (h : bytes.toList.drop i = l) :
    digitAt bytes i = (l.head?.map isDigitByte).getD false := by
  have := getElem?_of_drop h 0
  rw [Nat.add_zero] at this
  rw [digitAt, this]
  cases l <;> rfl

/-! ## Texts as bytes -/

/-- The UTF-8 bytes of a text. -/
def utf8 (s : String) : List UInt8 :=
  s.toUTF8.data.toList

theorem utf8_eq_flatMap (s : String) : utf8 s = s.toList.flatMap String.utf8EncodeChar :=
  Text.toUTF8_data_toList s

@[simp] theorem utf8_append (a b : String) : utf8 (a ++ b) = utf8 a ++ utf8 b := by
  simp only [utf8_eq_flatMap, String.toList_append, List.flatMap_append]

theorem utf8_toString (c : Char) : utf8 c.toString = String.utf8EncodeChar c := by
  simp [utf8_eq_flatMap]

theorem utf8_join (l : List String) : utf8 (String.join l) = l.flatMap utf8 := by
  induction l with
  | nil => rfl
  | cons a l ih => rw [String.join_cons, utf8_append, ih, List.flatMap_cons]

/-! ## Escapes -/

theorem getElem?_zero_of_drop {b : UInt8} {l : List UInt8} (h : bytes.toList.drop i = b :: l) :
    bytes[i]? = some b := by
  simpa using getElem?_of_drop h 0

theorem hexQuadAt_of_drop {q rest : List UInt8} (h : bytes.toList.drop i = q ++ rest)
    (hq : q.length = 4) {n : Nat}
    (hval : (q.mapM hexOf?).map (·.foldl (fun acc d => acc * 16 + d) 0) = some n) :
    hexQuadAt bytes i = .ok (n, i + 4) := by
  obtain ⟨a, b, c, d, rfl⟩ : ∃ a b c d, q = [a, b, c, d] := by
    match q, hq with
    | [a, b, c, d], _ => exact ⟨a, b, c, d, rfl⟩
  have hsize : i + 4 ≤ bytes.size := by
    have := congrArg List.length h
    simp only [List.length_drop, Array.length_toList, List.length_append, List.length_cons] at this
    omega
  have h0 := getElem?_of_drop h 0
  have h1 := getElem?_of_drop h 1
  have h2 := getElem?_of_drop h 2
  have h3 := getElem?_of_drop h 3
  simp only [List.cons_append, List.getElem?_cons_zero, List.getElem?_cons_succ] at h0 h1 h2 h3
  cases hm : [a, b, c, d].mapM hexOf? with
  | none => rw [hm] at hval; cases hval
  | some ds =>
    rw [hm, Option.map_some, Option.some_inj] at hval
    have hrange : (List.range 4).mapM (fun k => bytes[i + k]?.bind hexOf?) = some ds := by
      simp only [show List.range 4 = [0, 1, 2, 3] from rfl, List.mapM_cons, List.mapM_nil, h0, h1,
        h2, h3, Option.bind_some]
      simpa only [List.mapM_cons, List.mapM_nil] using hm
    simp only [hexQuadAt, if_pos hsize, hrange, hval]
    rfl

/-- A `\\u` escape of a code point below the surrogates reads as that code point's bytes. -/
theorem escapeAt_unicode {q rest : List UInt8} {k : Nat} (h : bytes.toList.drop k = 117 :: q ++ rest)
    (hq : q.length = 4) {n : Nat}
    (hval : (q.mapM hexOf?).map (·.foldl (fun acc d => acc * 16 + d) 0) = some n)
    (hn : n < 0xD800) :
    escapeAt bytes k = .ok (utf8Of n, k + 1 + 4) := by
  have hquad := hexQuadAt_of_drop (drop_add_of_drop h 1) hq hval
  have hlow : ¬ (0xDC00 ≤ n ∧ n ≤ 0xDFFF) := by omega
  simp only [escapeAt, getElem?_zero_of_drop h, unicodeAt, hquad]
  simp [bind, Except.bind, hlow, hn]
  rfl

theorem byteArray_toList_loop (bs : ByteArray) (i : Nat) (r : List UInt8) :
    ByteArray.toList.loop bs i r = r.reverse ++ bs.data.toList.drop i := by
  fun_induction ByteArray.toList.loop bs i r with
  | case1 i r hi ih =>
    have hi' : i < bs.data.toList.length := by simpa using hi
    have hd : bs.data.toList.drop i = bs.data.toList[i] :: bs.data.toList.drop (i + 1) :=
      List.drop_eq_getElem_cons _
    rw [ih, List.reverse_cons, List.append_assoc, List.singleton_append, hd]
    simp [ByteArray.get!, hi]
  | case2 i r hi =>
    rw [List.drop_of_length_le (by simpa using hi), List.append_nil]

/-- The bytes a `\\u` escape stands for are the UTF-8 encoding of its code point. -/
theorem utf8Of_eq (n : Nat) : utf8Of n = String.utf8EncodeChar (Char.ofNat n) := by
  rw [utf8Of, ByteArray.toList, byteArray_toList_loop, List.reverse_nil, List.nil_append,
    List.drop_zero, ← utf8, utf8_toString]

/-- The bytes of a character that is written as it is hold no quote, backslash or control byte. -/
theorem utf8EncodeChar_plain {c : Char} (h32 : 0x20 ≤ c.toNat) (hq : c ≠ '"') (hb : c ≠ '\\') :
    ∀ b ∈ String.utf8EncodeChar c, (b == 34 || b == 92 || b < 32) = false := by
  have h34 : c.toNat ≠ 34 := fun h => hq (Char.toNat_inj.1 h)
  have h92 : c.toNat ≠ 92 := fun h => hb (Char.toNat_inj.1 h)
  have hstop : ∀ n, n < 256 → 32 ≤ n → n ≠ 34 → n ≠ 92 →
      (UInt8.ofNat n == 34 || UInt8.ofNat n == 92 || UInt8.ofNat n < 32) = false := by
    intro n hn h32 h34 h92
    simp only [Bool.or_eq_false_iff, beq_eq_false_iff_ne, ne_eq, decide_eq_false_iff_not,
      UInt8.lt_iff_toNat_lt, ← UInt8.toNat_inj, UInt8.toNat_ofNat', Nat.mod_eq_of_lt hn]
    simp only [UInt8.reduceToNat]
    omega
  intro b hmem
  simp only [String.utf8EncodeChar, Char.toNat_val] at hmem
  split_ifs at hmem <;> simp only [List.mem_cons, List.not_mem_nil, or_false] at hmem <;>
    rcases hmem with rfl | rfl | rfl | rfl <;> exact hstop _ (by omega) (by omega) (by omega) (by omega)

/-- A character at or above U+0020 other than the quote and the backslash is written as it is. -/
theorem escapeChar_plain {c : Char} (h32 : 0x20 ≤ c.toNat) (hq : c ≠ '"') (hb : c ≠ '\\') :
    escapeChar prettyStyle c = c.toString := by
  unfold escapeChar
  split
  case h_8 => simp [prettyStyle, Nat.not_lt.2 h32]
  -- the named escapes: the quote, the backslash and five characters below U+0020
  all_goals contradiction

/-- A character the writer escapes is written as a backslash and bytes that `escapeAt` reads back
as the character. -/
theorem escapeChar_escaped {c : Char} (h : c.toNat < 0x20 ∨ c = '"' ∨ c = '\\') :
    ∃ t, utf8 (escapeChar prettyStyle c) = 92 :: t ∧
      ∀ {bytes : Array UInt8} {k : Nat} {rest : List UInt8}, bytes.toList.drop k = t ++ rest →
        escapeAt bytes k = .ok (String.utf8EncodeChar c, k + t.length) := by
  rcases h with hc | rfl | rfl
  · obtain ⟨n, hn, rfl⟩ : ∃ n, n < 32 ∧ c = Char.ofNat n :=
      ⟨c.toNat, hc, (Char.ofNat_toNat c).symm⟩
    -- five characters below U+0020 have names; the others are written as `\\u00XX`
    have hnamed : ∀ n < 32, n ∈ [8, 9, 10, 12, 13] ∨
        utf8 (escapeChar prettyStyle (Char.ofNat n)) = 92 :: 117 :: utf8 (hex4 n) := by decide
    have hlen : ∀ n < 32, (utf8 (hex4 n)).length = 4 := by decide
    have hval : ∀ n < 32,
        ((utf8 (hex4 n)).mapM hexOf?).map (·.foldl (fun acc d => acc * 16 + d) 0) = some n := by
      decide
    rcases hnamed n hn with hmem | hu
    · simp only [List.mem_cons, List.not_mem_nil, or_false] at hmem
      rcases hmem with rfl | rfl | rfl | rfl | rfl
      · exact ⟨[98], by decide, fun h => by simp [escapeAt, getElem?_zero_of_drop h]; rfl⟩
      · exact ⟨[116], by decide, fun h => by simp [escapeAt, getElem?_zero_of_drop h]; rfl⟩
      · exact ⟨[110], by decide, fun h => by simp [escapeAt, getElem?_zero_of_drop h]; rfl⟩
      · exact ⟨[102], by decide, fun h => by simp [escapeAt, getElem?_zero_of_drop h]; rfl⟩
      · exact ⟨[114], by decide, fun h => by simp [escapeAt, getElem?_zero_of_drop h]; rfl⟩
    · refine ⟨117 :: utf8 (hex4 n), hu, fun h => ?_⟩
      rw [escapeAt_unicode h (hlen n hn) (hval n hn) (by omega), utf8Of_eq, List.length_cons,
        hlen n hn]
  · exact ⟨[34], by decide, fun h => by simp [escapeAt, getElem?_zero_of_drop h]; rfl⟩
  · exact ⟨[92], by decide, fun h => by simp [escapeAt, getElem?_zero_of_drop h]; rfl⟩

/-! ## Strings -/

theorem extract_of_drop {p rest : List UInt8} (h : bytes.toList.drop i = p ++ rest) :
    bytes.extract i (i + p.length) = p.toArray := by
  apply Array.toList_inj.1
  rw [Array.toList_extract, List.extract_eq_take_drop, h, Nat.add_sub_cancel_left,
    List.take_left', List.toList_toArray]
  rfl

/-- Plain bytes are collected as they stand, the loop going on after them. -/
theorem stringLoop_plain {p rest : List UInt8} (hp : ∀ b ∈ p, (b == 34 || b == 92 || b < 32) = false)
    (h : bytes.toList.drop i = p ++ rest) (fuel : Nat) (acc : Array UInt8) :
    stringLoop fuel bytes i acc = stringLoop fuel bytes (i + p.length) (acc ++ p.toArray) := by
  cases fuel with
  | zero => rfl
  | succ fuel =>
    have hj := stopIndex_of_drop_plain hp h
    have hle := le_stopIndex bytes (i + p.length)
    have hext : bytes.extract i (stopIndex bytes i) =
        p.toArray ++ bytes.extract (i + p.length) (stopIndex bytes (i + p.length)) := by
      rw [hj, ← extract_of_drop h, Array.extract_append_extract, Nat.min_eq_left (by omega),
        Nat.max_eq_right hle]
    simp only [stringLoop]
    rw [hext, hj]
    simp only [Array.append_assoc]

/-- An escape adds the bytes it stands for and costs one step of fuel. -/
theorem stringLoop_escape {t rest out : List UInt8} (h : bytes.toList.drop i = 92 :: (t ++ rest))
    (hesc : escapeAt bytes (i + 1) = .ok (out, i + 1 + t.length)) (fuel : Nat) (acc : Array UInt8) :
    stringLoop (fuel + 1) bytes i acc = stringLoop fuel bytes (i + 1 + t.length) (acc ++ out.toArray) := by
  have hj : stopIndex bytes i = i := stopIndex_of_drop_stop h rfl
  simp only [stringLoop, hj, Array.extract_empty_of_stop_le_start (Nat.le_refl i), Array.append_empty,
    getElem?_zero_of_drop h, hesc]
  rfl

/-- The closing quote ends the loop just after it. -/
theorem stringLoop_quote {rest : List UInt8} (h : bytes.toList.drop i = 34 :: rest) (fuel : Nat)
    (acc : Array UInt8) :
    stringLoop (fuel + 1) bytes i acc = .ok (acc, i + 1) := by
  have hj : stopIndex bytes i = i := stopIndex_of_drop_stop h rfl
  simp only [stringLoop, hj, Array.extract_empty_of_stop_le_start (Nat.le_refl i), Array.append_empty,
    getElem?_zero_of_drop h]
  rfl

/-- One written character is read back as its bytes, an escape costing one step of fuel. -/
theorem stringLoop_char (c : Char) {rest : List UInt8}
    (h : bytes.toList.drop i = utf8 (escapeChar prettyStyle c) ++ rest) (fuel : Nat) (acc : Array UInt8) :
    ∃ fuel', fuel + 1 - (utf8 (escapeChar prettyStyle c)).length ≤ fuel' ∧
      stringLoop (fuel + 1) bytes i acc =
        stringLoop fuel' bytes (i + (utf8 (escapeChar prettyStyle c)).length)
          (acc ++ (String.utf8EncodeChar c).toArray) := by
  by_cases hesc : c.toNat < 0x20 ∨ c = '"' ∨ c = '\\'
  · obtain ⟨t, ht, hread⟩ := escapeChar_escaped hesc
    rw [ht, List.cons_append] at h
    refine ⟨fuel, by simp [ht], ?_⟩
    rw [stringLoop_escape h (hread (drop_add_of_drop h 1)), ht, List.length_cons, Nat.add_comm t.length 1,
      Nat.add_assoc]
  · simp only [not_or, Nat.not_lt] at hesc
    obtain ⟨h32, hq, hb⟩ := hesc
    rw [escapeChar_plain h32 hq hb, utf8_toString] at h ⊢
    exact ⟨fuel + 1, by omega, stringLoop_plain (utf8EncodeChar_plain h32 hq hb) h _ _⟩

/-- The escaped characters of a text, then the closing quote, are read back as the text's bytes,
given fuel beyond the escaped length. -/
theorem stringLoop_text {rest : List UInt8} (cs : List Char) :
    ∀ {fuel i acc}, bytes.toList.drop i = cs.flatMap (fun c => utf8 (escapeChar prettyStyle c)) ++ 34 :: rest →
      (cs.flatMap fun c => utf8 (escapeChar prettyStyle c)).length < fuel →
      stringLoop fuel bytes i acc =
        .ok (acc ++ (cs.flatMap String.utf8EncodeChar).toArray,
          i + (cs.flatMap fun c => utf8 (escapeChar prettyStyle c)).length + 1) := by
  induction cs with
  | nil =>
    intro fuel i acc h hfuel
    obtain ⟨fuel, rfl⟩ : ∃ f, fuel = f + 1 := ⟨fuel - 1, by simp at hfuel; omega⟩
    rw [stringLoop_quote h]
    simp
  | cons c cs ih =>
    intro fuel i acc h hfuel
    obtain ⟨fuel, rfl⟩ : ∃ f, fuel = f + 1 := ⟨fuel - 1, by simp at hfuel; omega⟩
    rw [List.flatMap_cons, List.append_assoc] at h
    obtain ⟨fuel', hle, hstep⟩ := stringLoop_char c h fuel acc
    rw [List.flatMap_cons, List.length_append] at hfuel
    have hnext : bytes.toList.drop (i + (utf8 (escapeChar prettyStyle c)).length) =
        cs.flatMap (fun c => utf8 (escapeChar prettyStyle c)) ++ 34 :: rest := by
      rw [drop_add_of_drop h, List.drop_left]
    rw [hstep, ih hnext (by omega)]
    simp only [List.flatMap_cons, List.length_append, Array.append_assoc, List.append_toArray]
    congr 2
    omega

/-- The escaped characters of a text between quotes. -/
theorem utf8_quoteString (str : String) :
    utf8 (quoteString prettyStyle str) =
      34 :: (str.toList.flatMap fun c => utf8 (escapeChar prettyStyle c)) ++ [34] := by
  rw [quoteString, utf8_append, utf8_append, utf8_join, List.flatMap_map]
  rfl

/-- The body of a written string, after its opening quote, reads back as the string. -/
theorem stringAt_of_drop {str : String} {rest : List UInt8}
    (h : bytes.toList.drop i = (str.toList.flatMap fun c => utf8 (escapeChar prettyStyle c)) ++ 34 :: rest) :
    stringAt bytes i =
      .ok (str, i + (str.toList.flatMap fun c => utf8 (escapeChar prettyStyle c)).length + 1) := by
  have hfuel : (str.toList.flatMap fun c => utf8 (escapeChar prettyStyle c)).length < bytes.size + 1 := by
    have := congrArg List.length h
    simp only [List.length_drop, Array.length_toList, List.length_append, List.length_cons] at this
    omega
  have hbytes : (#[] ++ (str.toList.flatMap String.utf8EncodeChar).toArray).toList =
      str.toUTF8.data.toList := by
    rw [Array.empty_append, List.toList_toArray, Text.toUTF8_data_toList]
  simp only [stringAt, stringLoop_text _ h hfuel, bind, Except.bind, pure, Except.pure, hbytes,
    Text.ofUtf8?_toUTF8, Option.getD_some]

end OrphanedCode.Json
