import OrphanedCode.Proofs.JsonText
import OrphanedCode.Proofs.TimeRange
/-!
The reader's steps on the text the writer gives.

Each step of reading a value is stated for the bytes ahead of the cursor: what it returns and how
far it moves. The steps are looking past blanks, a keyword, a number, a string, a key and its
colon, a comma or a closing bracket, and one turn of the loops over elements and members. A whole
number that fits 64 bits reads back from its digits, and a fraction written `0.` and digits reads
back as the digits' value scaled down by their count.
-/

namespace OrphanedCode.Json

variable {α : Type}

/-! ## Reading steps -/

theorem placed_of_ok {r : Reader α} {s s' : Cursor} {a : α} (h : r s = .ok a s') :
    placed r s = .ok a s' := by
  simp only [placed, h]

theorem eat_apply (s : Cursor) : eat s = .ok () (s.advance 1) := rfl

theorem scanWith_of_ok {f : Array UInt8 → Nat → Except ReadError (α × Nat)} {s : Cursor} {a : α}
    {n : Nat} (h : f s.bytes s.index = .ok (a, s.index + n)) : scanWith f s = .ok a (s.advance n) := by
  simp only [scanWith, h]
  rfl

theorem peekCharAfterBlanks_of_rest {s : Cursor} {B S : List UInt8} (h : s.rest = B ++ S)
    (hB : ∀ b ∈ B, isBlankByte b = true) (hS : ∀ b ∈ S.head?, isBlankByte b = false) :
    peekCharAfterBlanks s =
      .ok (S.head?.map fun b => Char.ofNat b.toNat) (s.advance B.length) := by
  have hget := getElem?_of_drop h B.length
  rw [List.getElem?_append_right (Nat.le_refl _), Nat.sub_self] at hget
  simp only [peekCharAfterBlanks, blankEnd_of_drop hB hS h, hget, List.head?_eq_getElem?]
  rfl

theorem readStringBody_of_rest {s : Cursor} {str : String} {S : List UInt8}
    (h : s.rest = (str.toList.flatMap fun c => utf8 (escapeChar prettyStyle c)) ++ 34 :: S) :
    readStringBody s =
      .ok str (s.advance ((str.toList.flatMap fun c => utf8 (escapeChar prettyStyle c)).length + 1)) :=
  scanWith_of_ok (by rw [stringAt_of_drop h, Nat.add_assoc])

variable {bytes : Array UInt8} {i : Nat}

/-! ## Whole numbers -/

/-- A positive number's decimal text does not start with zero. -/
theorem head_toDigits_ne_zero {n : Nat} (hn : 0 < n) : (Nat.toDigits 10 n).head? ≠ some '0' := by
  induction n using Nat.strong_induction_on with
  | _ n ih =>
    rw [Nat.toDigits_eq_if (by decide)]
    split
    · rename_i hlt
      intro h
      simp only [List.head?_cons, Option.some_inj] at h
      have := congrArg Char.toNat h
      rw [Nat.toNat_digitChar_of_lt_ten hlt] at this
      exact absurd this (by simp; omega)
    · rename_i hge
      obtain ⟨x, xs, hx⟩ := List.exists_cons_of_ne_nil (Nat.toDigits_ne_nil (n := n / 10) (b := 10))
      have hhead := ih (n / 10) (by omega) (by omega)
      rw [hx, List.head?_cons] at hhead
      rw [hx, List.cons_append, List.head?_cons]
      exact hhead

theorem utf8_digitText (n : Nat) :
    utf8 (Binary64.digitText n) = (Nat.toDigits 10 n).map fun c => UInt8.ofNat c.toNat := by
  rw [utf8_eq_flatMap, Binary64.digitText, String.toList_ofList]
  have hdigits : ∀ c ∈ Nat.toDigits 10 n, c.isDigit = true :=
    fun c hc => Nat.isDigit_of_mem_toDigits (by decide) (by decide) hc
  generalize Nat.toDigits 10 n = ds at hdigits ⊢
  induction ds with
  | nil => rfl
  | cons c ds ih =>
    have hdig := Char.isDigit_iff_toNat.1 (hdigits c List.mem_cons_self)
    simp only [List.flatMap_cons, List.map_cons]
    rw [ih (fun d hd => hdigits d (List.mem_cons_of_mem _ hd))]
    simp only [String.utf8EncodeChar, Char.toNat_val]
    rw [if_pos (by simp at hdig; omega)]
    rfl

theorem foldl_digitOf (cs : List Char) (hcs : ∀ c ∈ cs, c.isDigit = true) (acc : Nat) :
    (cs.map fun c => UInt8.ofNat c.toNat).foldl (fun acc b => acc * 10 + digitOf b) acc =
      cs.foldl (fun acc d => acc * 10 + (d.toNat - '0'.toNat)) acc := by
  induction cs generalizing acc with
  | nil => rfl
  | cons c cs ih =>
    have hc := Char.isDigit_iff_toNat.1 (hcs c List.mem_cons_self)
    simp only [List.map_cons, List.foldl_cons]
    rw [ih (fun d hd => hcs d (List.mem_cons_of_mem _ hd))]
    congr 2
    have h0 : '0'.toNat = 48 := rfl
    simp at hc
    rw [digitOf, UInt8.toNat_ofNat', Nat.mod_eq_of_lt (by omega), h0]

theorem isBlankByte_ofNat_digit {c : Char} (h : c.isDigit = true) :
    isBlankByte (UInt8.ofNat c.toNat) = false := by
  have hc := Char.isDigit_iff_toNat.1 h
  simp at hc
  simp only [isBlankByte, Bool.or_eq_false_iff, beq_eq_false_iff_ne, ne_eq, ← UInt8.toNat_inj,
    UInt8.toNat_ofNat', Nat.mod_eq_of_lt (by omega : c.toNat < 256), UInt8.reduceToNat]
  omega

theorem isDigitByte_ofNat {c : Char} (h : c.isDigit = true) : isDigitByte (UInt8.ofNat c.toNat) = true := by
  have hc := Char.isDigit_iff_toNat.1 h
  simp at hc
  simp only [isDigitByte, Bool.and_eq_true, decide_eq_true_eq, UInt8.le_iff_toNat_le,
    UInt8.toNat_ofNat', Nat.mod_eq_of_lt (by omega : c.toNat < 256)]
  simp only [UInt8.reduceToNat]
  omega

/-- What may follow a number: no digit, decimal point or exponent mark. -/
def EndsNumber (S : List UInt8) : Prop :=
  ∀ b ∈ S.head?, isDigitByte b = false ∧ b ≠ 46 ∧ b ≠ 101 ∧ b ≠ 69

theorem EndsNumber.nil : EndsNumber [] := fun _ hb => by cases hb

theorem EndsNumber.cons {b : UInt8} (hb : isDigitByte b = false ∧ b ≠ 46 ∧ b ≠ 101 ∧ b ≠ 69)
    (S : List UInt8) : EndsNumber (b :: S) := fun _ h => by cases h; exact hb

/-- Blanks, commas and closing brackets end a number. -/
theorem EndsNumber.of_blank {b : UInt8} (hb : isBlankByte b = true) (S : List UInt8) :
    EndsNumber (b :: S) := by
  refine EndsNumber.cons ?_ S
  simp only [isBlankByte, Bool.or_eq_true, beq_iff_eq] at hb
  rcases hb with ((rfl | rfl) | rfl) | rfl <;> decide

theorem EndsNumber.not_digit {S : List UInt8} (h : EndsNumber S) :
    ∀ b ∈ S.head?, isDigitByte b = false :=
  fun b hb => (h b hb).1

theorem EndsNumber.digitAt {S : List UInt8} (h : EndsNumber S) (hdrop : bytes.toList.drop i = S) :
    digitAt bytes i = false := by
  rw [digitAt_of_drop hdrop]
  cases S with
  | nil => rfl
  | cons b S => simp [(h b rfl).1]

/-- Blanks before what ends a number end it too. -/
theorem EndsNumber.blanks_append {B S : List UInt8} (hB : ∀ b ∈ B, isBlankByte b = true)
    (hS : EndsNumber S) : EndsNumber (B ++ S) := by
  cases B with
  | nil => exact hS
  | cons b B => exact EndsNumber.of_blank (hB b List.mem_cons_self) _

theorem numberTail_of_end {sig j : Nat} {S : List UInt8} (h : bytes.toList.drop j = S)
    (hS : EndsNumber S) : numberTail bytes true sig j = .ok (.unsigned sig, j) := by
  have hget := getElem?_of_drop h 0
  rw [Nat.add_zero] at hget
  rw [numberTail, hget]
  cases S with
  | nil => rfl
  | cons b S =>
    obtain ⟨-, h46, h101, h69⟩ := hS b rfl
    simp only [List.getElem?_cons_zero]
    split
    · rename_i heq; cases heq; exact absurd rfl h46
    · rename_i heq; cases heq; exact absurd rfl h101
    · rename_i heq; cases heq; exact absurd rfl h69
    · rfl

/-- A whole number that fits 64 bits is read back from its digits. -/
theorem numberAt_digitText {n : Nat} (hn : n < Nat.pow 2 64) {S : List UInt8}
    (h : bytes.toList.drop i = utf8 (Binary64.digitText n) ++ S) (hS : EndsNumber S) :
    numberAt bytes true i = .ok (.unsigned n, i + (utf8 (Binary64.digitText n)).length) := by
  rw [utf8_digitText] at h ⊢
  have hdigits : ∀ c ∈ Nat.toDigits 10 n, c.isDigit = true :=
    fun c hc => Nat.isDigit_of_mem_toDigits (by decide) (by decide) hc
  obtain ⟨d, ds, hdd⟩ := List.exists_cons_of_ne_nil (Nat.toDigits_ne_nil (n := n) (b := 10))
  rw [hdd] at h hdigits ⊢
  have hb := getElem?_zero_of_drop h
  have hnext := drop_add_of_drop h 1
  simp only [List.map_cons, List.cons_append, List.drop_succ_cons, List.drop_zero] at hnext
  have hval : digitsValue (d :: ds) = n := by rw [← hdd]; exact digitsValue_toDigits n
  by_cases hzero : n = 0
  · -- zero is the digit `0` alone
    subst hzero
    obtain ⟨rfl, rfl⟩ : d = '0' ∧ ds = [] := by
      simpa using hdd.symm
    simp only [List.map_nil, List.nil_append] at hnext
    simp only [numberAt, hb]
    rw [if_pos (by decide), hS.digitAt hnext, if_neg (by decide), numberTail_of_end hnext hS]
    rfl
  · -- a leading digit other than zero, then digits that all fit the significand
    have hd : d ≠ '0' := by
      have := head_toDigits_ne_zero (Nat.pos_of_ne_zero hzero)
      rw [hdd, List.head?_cons] at this
      exact fun h => this (by rw [h])
    have hdig := Char.isDigit_iff_toNat.1 (hdigits d List.mem_cons_self)
    simp at hdig
    have hd48 : d.toNat ≠ 48 := fun h => hd (Char.toNat_inj.1 h)
    have hbyte : (UInt8.ofNat d.toNat).toNat = d.toNat := by
      rw [UInt8.toNat_ofNat', Nat.mod_eq_of_lt (by omega)]
    have hne48 : (UInt8.ofNat d.toNat == 48) = false := by
      simp only [beq_eq_false_iff_ne, ne_eq, ← UInt8.toNat_inj, hbyte, UInt8.reduceToNat]
      exact hd48
    have hacc : accumulate bytes (i + 1) (digitOf (UInt8.ofNat d.toNat)) (Nat.pow 2 64 - 1) =
        (n, i + 1 + ds.length) := by
      have hfold : (ds.map fun c => UInt8.ofNat c.toNat).foldl (fun acc b => acc * 10 + digitOf b)
          (digitOf (UInt8.ofNat d.toNat)) = n := by
        rw [foldl_digitOf ds (fun c hc => hdigits c (List.mem_cons_of_mem _ hc)), ← hval, digitsValue,
          List.foldl_cons, digitOf, hbyte, Nat.zero_mul, Nat.zero_add]
        rfl
      rw [accumulate_of_drop (fun b hb => ?_) hS.not_digit hnext (by rw [hfold]; omega), hfold,
        List.length_map]
      obtain ⟨c, hc, rfl⟩ := List.mem_map.1 hb
      exact isDigitByte_ofNat (hdigits c (List.mem_cons_of_mem _ hc))
    have hend : bytes.toList.drop (i + 1 + ds.length) = S := by
      rw [drop_add_of_drop hnext, ← List.length_map (fun c => UInt8.ofNat c.toNat), List.drop_left]
    simp only [numberAt, hb, hne48, isDigitByte_ofNat (hdigits d List.mem_cons_self), hacc,
      hS.digitAt hend, numberTail_of_end hend hS]
    simp only [Bool.false_eq_true, if_false, if_true, List.map_cons, List.length_cons,
      List.length_map]
    congr 2
    omega

/-! ## Fractions -/

theorem fromParts_of_neg {sig offset : Nat} {exp : Int} (hexp : exp < 0) :
    fromParts true sig exp offset = .ok (scaleDown sig.toUInt64.toFloat exp.natAbs) := by
  simp only [fromParts, bind, Except.bind, pure, Except.pure, if_neg (Int.not_le.2 hexp), if_true]

theorem exponentOrEnd_of_end {sig p : Nat} {exp : Int} {S : List UInt8} (h : bytes.toList.drop p = S)
    (hS : EndsNumber S) (hexp : exp < 0) :
    exponentOrEnd bytes true sig exp p = .ok (.float (scaleDown sig.toUInt64.toFloat exp.natAbs), p) := by
  have hget := getElem?_of_drop h 0
  rw [Nat.add_zero] at hget
  rw [exponentOrEnd, hget]
  cases S with
  | nil => simp only [List.getElem?_nil, fromParts_of_neg hexp]; rfl
  | cons b S =>
    obtain ⟨-, -, h101, h69⟩ := hS b rfl
    simp only [List.getElem?_cons_zero]
    split
    · rename_i heq; cases heq; exact absurd rfl h101
    · rename_i heq; cases heq; exact absurd rfl h69
    · simp only [fromParts_of_neg hexp]; rfl

/-- The text `0.` and digits is read as the digits' value scaled down by their count. -/
theorem numberAt_fraction {ds S : List UInt8} (hds : ∀ b ∈ ds, isDigitByte b = true) (hne : ds ≠ [])
    (hsig : ds.foldl (fun acc b => acc * 10 + digitOf b) 0 ≤ Nat.pow 2 64 - 1) (hS : EndsNumber S)
    (h : bytes.toList.drop i = 48 :: 46 :: (ds ++ S)) :
    numberAt bytes true i = .ok (.float (scaleDown
      (ds.foldl (fun acc b => acc * 10 + digitOf b) 0).toUInt64.toFloat ds.length), i + (ds.length + 2)) := by
  have h1 : bytes.toList.drop (i + 1) = 46 :: (ds ++ S) := by simpa using drop_add_of_drop h 1
  have h2 : bytes.toList.drop (i + 1 + 1) = ds ++ S := by simpa using drop_add_of_drop h1 1
  have hend : bytes.toList.drop (i + 1 + 1 + ds.length) = S := by
    rw [drop_add_of_drop h2, List.drop_left]
  have hlen : 0 < ds.length := List.length_pos_iff.2 hne
  have hacc := accumulate_of_drop hds hS.not_digit h2 hsig
  -- past the point: the digits, then no digit, no exponent mark
  have hexp : (0 : Int) - ((i + 1 + 1 + ds.length - (i + 1 + 1) : Nat) : Int) < 0 := by omega
  have hfrac : fractionAt bytes true 0 0 (i + 1) = .ok (.float (scaleDown
      (ds.foldl (fun acc b => acc * 10 + digitOf b) 0).toUInt64.toFloat ds.length), i + 1 + 1 + ds.length) := by
    simp only [fractionAt, hacc, hS.digitAt hend, Bool.false_eq_true, if_false,
      beq_iff_eq, show i + 1 + 1 + ds.length ≠ i + 1 + 1 by omega, exponentOrEnd_of_end hend hS hexp]
    congr 4
    simp
  have htail : numberTail bytes true 0 (i + 1) = fractionAt bytes true 0 0 (i + 1) := by
    rw [numberTail, getElem?_zero_of_drop h1]
    rfl
  simp only [numberAt, getElem?_zero_of_drop h, beq_self_eq_true, if_true, digitAt_of_drop h1,
    List.head?_cons, Option.map_some, Option.getD_some, show isDigitByte 46 = false from rfl,
    Bool.false_eq_true, if_false, htail, hfrac]
  congr 2
  omega

/-! ## Keywords, brackets and separators -/

theorem toNat_byteChar (b : UInt8) : (Char.ofNat b.toNat).toNat = b.toNat := by
  have hb := b.toNat_lt
  have hv : b.toNat.isValidChar := by simp [Nat.isValidChar]; omega
  rw [Char.ofNat, dif_pos hv]
  rfl

theorem byteChar_ne {b : UInt8} {c : Char} (h : b.toNat ≠ c.toNat) : Char.ofNat b.toNat ≠ c :=
  fun e => h (by rw [← e, toNat_byteChar])

theorem readIdent_of_rest : ∀ (cs : List Char) {s : Cursor} {S : List UInt8},
    (cs.all fun c => c.toNat < 128) = true → s.rest = (cs.map fun c => UInt8.ofNat c.toNat) ++ S →
      readIdent cs s = .ok () (s.advance cs.length)
  | [], s, S, _, _ => rfl
  | c :: cs, s, S, hcs, h => by
    rw [List.all_cons, Bool.and_eq_true, decide_eq_true_eq] at hcs
    have hc := hcs.1
    have hget : s.bytes[s.index]? = some (UInt8.ofNat c.toNat) := getElem?_zero_of_drop h
    have hchar : Char.ofNat (UInt8.ofNat c.toNat).toNat = c := by
      rw [UInt8.toNat_ofNat', Nat.mod_eq_of_lt (by omega), Char.ofNat_toNat]
    have hrest := Cursor.rest_advance h 1
    simp only [List.map_cons, List.cons_append, List.drop_succ_cons, List.drop_zero] at hrest
    have ih := readIdent_of_rest cs hcs.2 hrest
    simp only [readIdent, bind, EStateM.bind, peekChar, hget, Option.map_some, hchar, eat, beq_self_eq_true,
      if_true]
    rw [show ({ s with index := s.index + 1 } : Cursor) = s.advance 1 from rfl, ih,
      Cursor.advance_advance, Nat.add_comm, List.length_cons]

theorem enter_of_depth {s : Cursor} (hd : 1 < s.depth) :
    enter s = .ok () { s.advance 1 with depth := s.depth - 1 } := by
  simp only [enter, if_neg (Nat.not_le.2 hd)]
  rfl

/-- Reading the inside and the end of a bracket, with one level of nesting spent on the inside. -/
theorem nested_of_ok {inside : Reader α} {close : Reader Unit} {s s1 s2 : Cursor} {a : α}
    (hd : 1 < s.depth) (hin : inside { s.advance 1 with depth := s.depth - 1 } = .ok a s1)
    (hclose : close { s1 with depth := s1.depth + 1 } = .ok () s2) :
    nested inside close s = .ok a s2 := by
  simp only [nested, bind, EStateM.bind, enter_of_depth hd, attempt, hin, leave, hclose]
  rfl

theorem hasNextElement_close {s : Cursor} {B S : List UInt8} (first : Bool)
    (h : s.rest = B ++ 93 :: S) (hB : ∀ b ∈ B, isBlankByte b = true) :
    hasNextElement first s = .ok false (s.advance B.length) := by
  simp only [hasNextElement, bind, EStateM.bind,
    peekCharAfterBlanks_of_rest h hB (fun b hb => by cases hb; rfl)]
  rfl

theorem hasNextElement_first {s : Cursor} {B S : List UInt8} {b : UInt8} (h : s.rest = B ++ b :: S)
    (hB : ∀ b ∈ B, isBlankByte b = true) (hb : isBlankByte b = false) (hb93 : b.toNat ≠ 93) :
    hasNextElement true s = .ok true (s.advance B.length) := by
  have hne : Char.ofNat b.toNat ≠ ']' := byteChar_ne hb93
  simp only [hasNextElement, bind, EStateM.bind,
    peekCharAfterBlanks_of_rest h hB (fun b' hb' => by cases hb'; exact hb), List.head?_cons,
    Option.map_some, if_true]
  rfl

theorem hasNextElement_comma {s : Cursor} {B S : List UInt8} {b : UInt8}
    (h : s.rest = 44 :: (B ++ b :: S)) (hB : ∀ b ∈ B, isBlankByte b = true)
    (hb : isBlankByte b = false) (hb93 : b.toNat ≠ 93) :
    hasNextElement false s = .ok true (s.advance (1 + B.length)) := by
  have hne : Char.ofNat b.toNat ≠ ']' := byteChar_ne hb93
  have hafter := Cursor.rest_advance h 1
  simp only [List.drop_succ_cons, List.drop_zero] at hafter
  simp only [hasNextElement, bind, EStateM.bind,
    peekCharAfterBlanks_of_rest (B := []) (by simpa using h) (by simp) (fun b hb => by cases hb; rfl),
    List.head?_cons, Option.map_some, List.length_nil, Bool.false_eq_true, if_false]
  have hcomma : (',' : Char) ≠ ']' := by decide
  simp only [show Char.ofNat (44 : UInt8).toNat = ',' from rfl, beq_self_eq_true, if_true]
  simp only [EStateM.bind, eat_apply, Cursor.advance_advance, Nat.zero_add,
    peekCharAfterBlanks_of_rest hafter hB (fun b' hb' => by cases hb'; exact hb), List.head?_cons,
    Option.map_some]
  rfl

theorem hasNextKey_close {s : Cursor} {B S : List UInt8} (first : Bool)
    (h : s.rest = B ++ 125 :: S) (hB : ∀ b ∈ B, isBlankByte b = true) :
    hasNextKey first s = .ok false (s.advance B.length) := by
  simp only [hasNextKey, bind, EStateM.bind,
    peekCharAfterBlanks_of_rest h hB (fun b hb => by cases hb; rfl)]
  rfl

theorem hasNextKey_first {s : Cursor} {B S : List UInt8} (h : s.rest = B ++ 34 :: S)
    (hB : ∀ b ∈ B, isBlankByte b = true) :
    hasNextKey true s = .ok true (s.advance B.length) := by
  have hquote : ('"' : Char) ≠ '}' := by decide
  simp only [hasNextKey, bind, EStateM.bind,
    peekCharAfterBlanks_of_rest h hB (fun b hb => by cases hb; rfl), List.head?_cons,
    Option.map_some, show Char.ofNat (34 : UInt8).toNat = '"' from rfl, if_true, beq_self_eq_true]
  rfl

theorem hasNextKey_comma {s : Cursor} {B S : List UInt8} (h : s.rest = 44 :: (B ++ 34 :: S))
    (hB : ∀ b ∈ B, isBlankByte b = true) :
    hasNextKey false s = .ok true (s.advance (1 + B.length)) := by
  have hafter := Cursor.rest_advance h 1
  simp only [List.drop_succ_cons, List.drop_zero] at hafter
  have hcomma : (',' : Char) ≠ '}' := by decide
  simp only [hasNextKey, bind, EStateM.bind,
    peekCharAfterBlanks_of_rest (B := []) (by simpa using h) (by simp) (fun b hb => by cases hb; rfl),
    List.head?_cons, Option.map_some, List.length_nil, Bool.false_eq_true, if_false,
    show Char.ofNat (44 : UInt8).toNat = ',' from rfl, beq_self_eq_true, if_true]
  simp only [eat_apply, Cursor.advance_advance, Nat.zero_add,
    peekCharAfterBlanks_of_rest hafter hB (fun b hb => by cases hb; rfl), List.head?_cons,
    Option.map_some, show Char.ofNat (34 : UInt8).toNat = '"' from rfl]
  rfl

theorem readKey_of_rest {s : Cursor} {key : String} {S : List UInt8}
    (h : s.rest = utf8 (quoteString prettyStyle key) ++ S) :
    readKey s = .ok key (s.advance (utf8 (quoteString prettyStyle key)).length) := by
  rw [utf8_quoteString] at h ⊢
  have hafter := Cursor.rest_advance h 1
  simp only [List.cons_append, List.drop_succ_cons, List.drop_zero, List.append_assoc] at hafter
  simp only [readKey, bind, EStateM.bind, eat_apply, readStringBody_of_rest hafter,
    Cursor.advance_advance]
  simp only [List.length_cons, List.length_append, List.length_nil]
  congr 2
  omega

theorem objectColon_of_rest {s : Cursor} {B S : List UInt8} (h : s.rest = B ++ 58 :: S)
    (hB : ∀ b ∈ B, isBlankByte b = true) :
    objectColon s = .ok () (s.advance (B.length + 1)) := by
  simp only [objectColon, bind, EStateM.bind,
    peekCharAfterBlanks_of_rest h hB (fun b hb => by cases hb; rfl), List.head?_cons,
    Option.map_some, show Char.ofNat (58 : UInt8).toNat = ':' from rfl]
  rfl

theorem endSeq_of_rest {s : Cursor} {B S : List UInt8} (h : s.rest = B ++ 93 :: S)
    (hB : ∀ b ∈ B, isBlankByte b = true) :
    endSeq s = .ok () (s.advance (B.length + 1)) := by
  simp only [endSeq, bind, EStateM.bind,
    peekCharAfterBlanks_of_rest h hB (fun b hb => by cases hb; rfl), List.head?_cons,
    Option.map_some, show Char.ofNat (93 : UInt8).toNat = ']' from rfl]
  rfl

theorem endMap_of_rest {s : Cursor} {B S : List UInt8} (h : s.rest = B ++ 125 :: S)
    (hB : ∀ b ∈ B, isBlankByte b = true) :
    endMap s = .ok () (s.advance (B.length + 1)) := by
  simp only [endMap, bind, EStateM.bind,
    peekCharAfterBlanks_of_rest h hB (fun b hb => by cases hb; rfl), List.head?_cons,
    Option.map_some, show Char.ofNat (125 : UInt8).toNat = '}' from rfl]
  rfl

theorem endOfText_of_rest {s : Cursor} {B : List UInt8} (h : s.rest = B)
    (hB : ∀ b ∈ B, isBlankByte b = true) :
    endOfText s = .ok () (s.advance B.length) := by
  simp only [endOfText, bind, EStateM.bind,
    peekCharAfterBlanks_of_rest (S := []) (by simpa using h) hB (fun b hb => by cases hb),
    List.head?_nil, Option.map_none]
  rfl

/-! ## The layout of indented text -/

theorem utf8_lineBreak (d : Nat) : utf8 (lineBreak prettyStyle d) = 10 :: List.replicate (2 * d) 32 := by
  have hspaces : ∀ n, (List.replicate n ' ').flatMap String.utf8EncodeChar = List.replicate n 32 := by
    intro n
    induction n with
    | zero => rfl
    | succ n ih => rw [List.replicate_succ, List.flatMap_cons, ih]; rfl
  simp only [lineBreak, prettyStyle, if_true]
  rw [utf8_append, utf8_eq_flatMap, utf8_eq_flatMap]
  simp only [String.toList_ofList, hspaces]
  rfl

theorem blank_lineBreak (d : Nat) : ∀ b ∈ utf8 (lineBreak prettyStyle d), isBlankByte b = true := by
  rw [utf8_lineBreak]
  intro b hb
  rcases List.mem_cons.1 hb with rfl | hb
  · rfl
  · rw [List.eq_of_mem_replicate hb]
    rfl

/-! ## The loops over elements and members -/

theorem readAnyItems_more {fuel : Nat} {first : Bool} {acc : List Json} {s s1 s2 : Cursor} {v : Json}
    (hnext : hasNextElement first s = .ok true s1) (hv : readAny fuel s1 = .ok v s2) :
    readAnyItems (fuel + 1) first acc s = readAnyItems fuel false (v :: acc) s2 := by
  simp only [readAnyItems, bind, EStateM.bind, hnext, if_true, hv]

theorem readAnyItems_done {fuel : Nat} {first : Bool} {acc : List Json} {s s1 : Cursor}
    (hnext : hasNextElement first s = .ok false s1) :
    readAnyItems (fuel + 1) first acc s = .ok (.arr acc.reverse) s1 := by
  simp only [readAnyItems, bind, EStateM.bind, hnext, Bool.false_eq_true, if_false]
  rfl

theorem readAnyFields_more {fuel : Nat} {first : Bool} {acc : List (String × Json)}
    {s s1 s2 s3 s4 : Cursor} {k : String} {v : Json}
    (hnext : hasNextKey first s = .ok true s1) (hk : readKey s1 = .ok k s2)
    (hc : objectColon s2 = .ok () s3) (hv : readAny fuel s3 = .ok v s4) :
    readAnyFields (fuel + 1) first acc s = readAnyFields fuel false (setField k v acc) s4 := by
  simp only [readAnyFields, bind, EStateM.bind, hnext, if_true, hk, hc, hv]

theorem readAnyFields_done {fuel : Nat} {first : Bool} {acc : List (String × Json)} {s s1 : Cursor}
    (hnext : hasNextKey first s = .ok false s1) :
    readAnyFields (fuel + 1) first acc s = .ok (.obj acc) s1 := by
  simp only [readAnyFields, bind, EStateM.bind, hnext, Bool.false_eq_true, if_false]
  rfl

/-- A key not yet set is added after the others. -/
theorem setField_of_not_mem {k : String} {v : Json} :
    ∀ {acc : List (String × Json)}, k ∉ acc.map Prod.fst → setField k v acc = acc ++ [(k, v)]
  | [], _ => rfl
  | (k', v') :: rest, h => by
    have hne : k' ≠ k := fun e => h (by simp [e])
    have hrest : k ∉ rest.map Prod.fst := fun hm => h (List.mem_cons_of_mem _ hm)
    simp only [setField, beq_iff_eq, hne, if_false, setField_of_not_mem hrest, List.cons_append]

/-! ## Reading one value -/

theorem readAny_bracket {fuel : Nat} {s s1 s2 : Cursor} {B S : List UInt8} {v : Json}
    (h : s.rest = B ++ 91 :: S) (hB : ∀ b ∈ B, isBlankByte b = true) (hd : 1 < s.depth)
    (hin : readAnyItems fuel true [] { s.advance (B.length + 1) with depth := s.depth - 1 } = .ok v s1)
    (hclose : endSeq { s1 with depth := s1.depth + 1 } = .ok () s2) :
    readAny (fuel + 1) s = .ok v s2 := by
  have hd' : 1 < (s.advance B.length).depth := hd
  have hnest := nested_of_ok hd' (by rw [Cursor.advance_advance]; exact hin) hclose
  simp only [readAny, bind]
  apply placed_of_ok
  simp only [EStateM.bind, peekCharAfterBlanks_of_rest h hB (fun b hb => by cases hb; rfl),
    List.head?_cons, Option.map_some, show Char.ofNat (91 : UInt8).toNat = '[' from rfl]
  exact hnest

theorem readAny_brace {fuel : Nat} {s s1 s2 : Cursor} {B S : List UInt8} {v : Json}
    (h : s.rest = B ++ 123 :: S) (hB : ∀ b ∈ B, isBlankByte b = true) (hd : 1 < s.depth)
    (hin : readAnyFields fuel true [] { s.advance (B.length + 1) with depth := s.depth - 1 } = .ok v s1)
    (hclose : endMap { s1 with depth := s1.depth + 1 } = .ok () s2) :
    readAny (fuel + 1) s = .ok v s2 := by
  have hd' : 1 < (s.advance B.length).depth := hd
  have hnest := nested_of_ok hd' (by rw [Cursor.advance_advance]; exact hin) hclose
  simp only [readAny, bind]
  apply placed_of_ok
  simp only [EStateM.bind, peekCharAfterBlanks_of_rest h hB (fun b hb => by cases hb; rfl),
    List.head?_cons, Option.map_some, show Char.ofNat (123 : UInt8).toNat = '\x7b' from rfl]
  exact hnest

theorem readAny_null {fuel : Nat} {s : Cursor} {B S : List UInt8}
    (h : s.rest = B ++ utf8 "null" ++ S) (hB : ∀ b ∈ B, isBlankByte b = true) :
    readAny (fuel + 1) s = .ok .null (s.advance (B ++ utf8 "null").length) := by
  rw [List.length_append]
  have hbytes : utf8 "null" = [110, 117, 108, 108] := rfl
  rw [hbytes] at h ⊢
  have hword : (s.advance (B.length + 1)).rest = (['u', 'l', 'l'].map fun c => UInt8.ofNat c.toNat) ++ S := by
    rw [Cursor.rest_advance_append (h.trans (List.append_assoc _ _ _)) 1]
    rfl
  simp only [readAny, bind]
  apply placed_of_ok
  simp only [EStateM.bind, peekCharAfterBlanks_of_rest (S := 110 :: 117 :: 108 :: 108 :: S)
      (by simpa using h) hB (fun b hb => by cases hb; rfl),
    List.head?_cons, Option.map_some, show Char.ofNat (110 : UInt8).toNat = 'n' from rfl, eat_apply,
    Cursor.advance_advance, readIdent_of_rest ['u', 'l', 'l'] rfl hword]
  rfl

theorem readAny_bool {fuel : Nat} {s : Cursor} {B S : List UInt8} (b : Bool)
    (h : s.rest = B ++ utf8 (if b then "true" else "false") ++ S) (hB : ∀ b ∈ B, isBlankByte b = true) :
    readAny (fuel + 1) s = .ok (.bool b) (s.advance (B ++ utf8 (if b then "true" else "false")).length) := by
  rw [List.length_append]
  cases b with
  | true =>
    have hbytes : utf8 (if true = true then "true" else "false") = [116, 114, 117, 101] := rfl
    rw [hbytes] at h ⊢
    have hword : (s.advance (B.length + 1)).rest = (['r', 'u', 'e'].map fun c => UInt8.ofNat c.toNat) ++ S := by
      rw [Cursor.rest_advance_append (h.trans (List.append_assoc _ _ _)) 1]
      rfl
    have ht : ('t' : Char) ≠ 'n' := by decide
    simp only [readAny, bind]
    apply placed_of_ok
    simp only [EStateM.bind, peekCharAfterBlanks_of_rest (S := 116 :: 114 :: 117 :: 101 :: S)
        (by simpa using h) hB (fun b hb => by cases hb; rfl),
      List.head?_cons, Option.map_some, show Char.ofNat (116 : UInt8).toNat = 't' from rfl, eat_apply,
      Cursor.advance_advance, readIdent_of_rest ['r', 'u', 'e'] rfl hword]
    rfl
  | false =>
    have hbytes : utf8 (if false = true then "true" else "false") = [102, 97, 108, 115, 101] := rfl
    rw [hbytes] at h ⊢
    have hword : (s.advance (B.length + 1)).rest =
        (['a', 'l', 's', 'e'].map fun c => UInt8.ofNat c.toNat) ++ S := by
      rw [Cursor.rest_advance_append (h.trans (List.append_assoc _ _ _)) 1]
      rfl
    have hn : ('f' : Char) ≠ 'n' := by decide
    have ht : ('f' : Char) ≠ 't' := by decide
    simp only [readAny, bind]
    apply placed_of_ok
    simp only [EStateM.bind, peekCharAfterBlanks_of_rest (S := 102 :: 97 :: 108 :: 115 :: 101 :: S)
        (by simpa using h) hB (fun b hb => by cases hb; rfl),
      List.head?_cons, Option.map_some, show Char.ofNat (102 : UInt8).toNat = 'f' from rfl, eat_apply,
      Cursor.advance_advance, readIdent_of_rest ['a', 'l', 's', 'e'] rfl hword]
    rfl

theorem readAny_str {fuel : Nat} {s : Cursor} {B S : List UInt8} (str : String)
    (h : s.rest = B ++ utf8 (quoteString prettyStyle str) ++ S) (hB : ∀ b ∈ B, isBlankByte b = true) :
    readAny (fuel + 1) s =
      .ok (.str str) (s.advance (B ++ utf8 (quoteString prettyStyle str)).length) := by
  rw [List.length_append]
  rw [utf8_quoteString] at h ⊢
  have hbody : (s.advance (B.length + 1)).rest =
      (str.toList.flatMap fun c => utf8 (escapeChar prettyStyle c)) ++ 34 :: S := by
    rw [Cursor.rest_advance_append (h.trans (List.append_assoc _ _ _)) 1]
    simp
  have hn : ('"' : Char) ≠ 'n' := by decide
  have ht : ('"' : Char) ≠ 't' := by decide
  have hf : ('"' : Char) ≠ 'f' := by decide
  have hm : ('"' : Char) ≠ '-' := by decide
  simp only [readAny, bind]
  apply placed_of_ok
  simp only [EStateM.bind, peekCharAfterBlanks_of_rest (h.trans (List.append_assoc _ _ _)) hB
      (fun b hb => by cases hb; rfl),
    List.cons_append, List.head?_cons, Option.map_some, show Char.ofNat (34 : UInt8).toNat = '"' from rfl,
    eat_apply, Cursor.advance_advance, readStringBody_of_rest hbody]
  simp only [List.length_cons, List.length_append, List.length_nil]
  generalize (str.toList.flatMap fun c => utf8 (escapeChar prettyStyle c)).length = L
  rw [show B.length + 1 + (L + 1) = B.length + (L + (0 + 1) + 1) by omega]
  rfl

/-- Text that begins with a digit is read by the number scanner. -/
theorem readAny_of_digit {fuel : Nat} {s : Cursor} {B T S : List UInt8} {b : UInt8} {num : Number}
    (h : s.rest = B ++ b :: T ++ S) (hB : ∀ b ∈ B, isBlankByte b = true)
    (hb : (Char.ofNat b.toNat).isDigit = true)
    (hnum : numberAt s.bytes true (s.index + B.length) =
      .ok (num, s.index + B.length + (b :: T).length)) :
    readAny (fuel + 1) s = .ok num.toJson (s.advance (B ++ b :: T).length) := by
  have hdig := Char.isDigit_iff_toNat.1 hb
  rw [toNat_byteChar] at hdig
  simp at hdig
  have hblank : isBlankByte b = false := by
    simp only [isBlankByte, Bool.or_eq_false_iff, beq_eq_false_iff_ne, ne_eq, ← UInt8.toNat_inj,
      UInt8.reduceToNat]
    omega
  -- the other first characters a value can have are not digits
  have hne : ∀ c ∈ ['n', 't', 'f', '-', '"', '[', '\x7b'], Char.ofNat b.toNat ≠ c := by
    intro c hc he
    rw [he] at hb
    simp only [List.mem_cons, List.not_mem_nil, or_false] at hc
    rcases hc with rfl | rfl | rfl | rfl | rfl | rfl | rfl <;> simp at hb
  have hn := hne 'n' (by simp)
  have ht := hne 't' (by simp)
  have hf := hne 'f' (by simp)
  have hm := hne '-' (by simp)
  have hq := hne '"' (by simp)
  have hl := hne '[' (by simp)
  have hr := hne '\x7b' (by simp)
  have hread : readNumber true (s.advance B.length) =
      .ok num ((s.advance B.length).advance (b :: T).length) :=
    scanWith_of_ok hnum
  rw [List.length_append]
  simp only [readAny, bind]
  apply placed_of_ok
  simp only [EStateM.bind, peekCharAfterBlanks_of_rest (S := b :: T ++ S)
      (h.trans (List.append_assoc _ _ _)) hB (fun b' hb' => by cases hb'; exact hblank),
    List.cons_append, List.head?_cons, Option.map_some, hb, if_true, hread, Cursor.advance_advance]
  rfl

theorem readAny_nat {fuel : Nat} {s : Cursor} {B S : List UInt8} {n : Nat} (hn : n < Nat.pow 2 64)
    (h : s.rest = B ++ utf8 (Binary64.digitText n) ++ S) (hB : ∀ b ∈ B, isBlankByte b = true)
    (hS : EndsNumber S) :
    readAny (fuel + 1) s = .ok (.nat n) (s.advance (B ++ utf8 (Binary64.digitText n)).length) := by
  obtain ⟨d, ds, hdd⟩ := List.exists_cons_of_ne_nil (Nat.toDigits_ne_nil (n := n) (b := 10))
  have hmem : d ∈ Nat.toDigits 10 n := by rw [hdd]; exact List.mem_cons_self
  have hd : d.isDigit = true := Nat.isDigit_of_mem_toDigits (by decide) (by decide) hmem
  have hdig := Char.isDigit_iff_toNat.1 hd
  simp at hdig
  have hchar : Char.ofNat (UInt8.ofNat d.toNat).toNat = d := by
    rw [UInt8.toNat_ofNat', Nat.mod_eq_of_lt (by omega), Char.ofNat_toNat]
  have hhead : utf8 (Binary64.digitText n) = UInt8.ofNat d.toNat :: ds.map fun c => UInt8.ofNat c.toNat := by
    rw [utf8_digitText, hdd]
    rfl
  have hnum := numberAt_digitText hn
    (Cursor.rest_of_prefix (t := s.advance B.length) (h.trans (List.append_assoc _ _ _)) rfl rfl) hS
  rw [hhead] at h hnum ⊢
  exact readAny_of_digit h hB (by rw [hchar]; exact hd) hnum

end OrphanedCode.Json
