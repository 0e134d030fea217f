import OrphanedCode.Proofs.JsonSteps
/-!
Indented JSON text reads back as the value it was written from.

A value is readable when its whole numbers fit 64 bits, the reader takes the text of each of its
fractions for the fraction, and no object repeats a key. The indented text of a readable value
reads back as the value, after any blanks and before anything that ends a number, given the fuel
and the nesting budget it needs (`readAny_write`). Its fuel is at most its length in bytes, so a
whole document reads back whenever its arrays and objects nest fewer than 128 deep
(`readDocument_pretty`).
-/

namespace OrphanedCode.Json

/-! ## How written values begin -/

/-- The decimal text of a magnitude begins with a digit. -/
theorem jsonDigits_head (d : Nat) (p : Int) :
    ∃ c, (Binary64.jsonDigits d p).toList.head? = some c ∧ c.isDigit = true := by
  obtain ⟨e, es, hds⟩ := List.exists_cons_of_ne_nil (Nat.toDigits_ne_nil (n := d) (b := 10))
  have hmem : e ∈ Nat.toDigits 10 d := by rw [hds]; exact List.mem_cons_self
  have he : e.isDigit = true := Nat.isDigit_of_mem_toDigits (by decide) (by decide) hmem
  unfold Binary64.jsonDigits
  dsimp only
  rw [hds]
  split_ifs with h1 h2 h3 h4
  · exact ⟨e, by simp [String.toList_append], he⟩
  · have hpos : ¬ ((es.length : Int) + 1 + p ≤ 0) := by simp at h2; omega
    exact ⟨e, by simp [String.toList_append, List.head?_take, hpos], he⟩
  · exact ⟨'0', by simp [String.toList_append], rfl⟩
  · exact ⟨e, by simp [String.toList_append], he⟩
  · exact ⟨e, by simp [String.toList_append], he⟩

/-- A written number begins with the `n` of `null`, a minus sign or a digit. -/
theorem jsonText_head (x : Float) :
    ∃ c, (Binary64.jsonText x).toList.head? = some c ∧ (c = 'n' ∨ c = '-' ∨ c.isDigit = true) := by
  unfold Binary64.jsonText
  split
  · exact ⟨'n', rfl, .inl rfl⟩
  · exact ⟨'n', rfl, .inl rfl⟩
  · rename_i negative m e _
    obtain ⟨c, hc, hdig⟩ := jsonDigits_head (Binary64.shortest m e).1 (Binary64.shortest m e).2
    cases negative <;> by_cases hm : m = 0 <;> simp only [hm, if_true, if_false, Bool.false_eq_true]
    · exact ⟨'0', rfl, .inr (.inr rfl)⟩
    · exact ⟨c, by simpa [String.toList_append] using hc, .inr (.inr hdig)⟩
    · exact ⟨'-', rfl, .inr (.inl rfl)⟩
    · exact ⟨'-', by simp [String.toList_append], .inr (.inl rfl)⟩

theorem head_utf8 {str : String} {c : Char} (h : str.toList.head? = some c) (hc : c.toNat < 128) :
    (utf8 str).head? = some (UInt8.ofNat c.toNat) := by
  obtain ⟨rest, hrest⟩ : ∃ rest, str.toList = c :: rest := by
    cases hl : str.toList with
    | nil => rw [hl] at h; cases h
    | cons d rest => rw [hl, List.head?_cons, Option.some_inj] at h; exact ⟨rest, by rw [h]⟩
  rw [utf8_eq_flatMap, hrest, List.flatMap_cons]
  simp only [String.utf8EncodeChar, Char.toNat_val, if_pos (by omega : c.toNat ≤ 127)]
  rfl

/-! ## Values the indented text reads back as -/

mutual
/-- The fuel reading a value takes: a step for the value, one per element or member, and one for
its closing bracket. -/
def readFuel : Json → Nat
  | .arr vs => readFuelItems vs + 2
  | .obj fs => readFuelFields fs + 2
  | _ => 1

/-- The fuel reading elements takes. -/
def readFuelItems : List Json → Nat
  | [] => 0
  | v :: vs => readFuel v + readFuelItems vs + 1

/-- The fuel reading members takes. -/
def readFuelFields : List (String × Json) → Nat
  | [] => 0
  | (_, v) :: fs => readFuel v + readFuelFields fs + 1
end

mutual
/-- How deep arrays and objects nest in a value. -/
def nesting : Json → Nat
  | .arr vs => nestingItems vs + 1
  | .obj fs => nestingFields fs + 1
  | _ => 0

/-- How deep arrays and objects nest in elements. -/
def nestingItems : List Json → Nat
  | [] => 0
  | v :: vs => max (nesting v) (nestingItems vs)

/-- How deep arrays and objects nest in members. -/
def nestingFields : List (String × Json) → Nat
  | [] => 0
  | (_, v) :: fs => max (nesting v) (nestingFields fs)
end

theorem nestingItems_le {vs : List Json} {m : Nat} (h : ∀ v ∈ vs, nesting v ≤ m) :
    nestingItems vs ≤ m := by
  induction vs with
  | nil => exact Nat.zero_le m
  | cons v vs ih =>
    rw [nestingItems]
    exact Nat.max_le.2 ⟨h v List.mem_cons_self, ih fun u hu => h u (List.mem_cons_of_mem _ hu)⟩

/-- The reader takes the written text of `x` for `x`, after any blanks and before anything that
ends a number. -/
def NumberReadsBack (x : Float) : Prop :=
  ∀ (fuel : Nat) (s : Cursor) (B S : List UInt8), (∀ b ∈ B, isBlankByte b = true) → EndsNumber S →
    s.rest = B ++ utf8 (Binary64.jsonText x) ++ S →
    readAny (fuel + 1) s = .ok (.num x) (s.advance (B ++ utf8 (Binary64.jsonText x)).length)

/-- A fraction written `0.` and digits reads back when it is the digits' value scaled down by
their count. -/
theorem numberReadsBack_of_fraction {x : Float} (ds : List UInt8) (hds : ∀ b ∈ ds, isDigitByte b = true)
    (hne : ds ≠ []) (hsig : ds.foldl (fun acc b => acc * 10 + digitOf b) 0 ≤ Nat.pow 2 64 - 1)
    (htext : utf8 (Binary64.jsonText x) = 48 :: 46 :: ds)
    (hx : scaleDown (ds.foldl (fun acc b => acc * 10 + digitOf b) 0).toUInt64.toFloat ds.length = x) :
    NumberReadsBack x := by
  intro fuel s B S hB hS h
  rw [htext] at h ⊢
  have hrest := Cursor.rest_of_prefix (t := s.advance B.length) (h.trans (List.append_assoc _ _ _)) rfl rfl
  have hnum := numberAt_fraction hds hne hsig hS (hrest.trans (by simp))
  rw [← hx]
  exact readAny_of_digit h hB rfl hnum

/-- The values whose written text reads back as themselves: whole numbers fit 64 bits, the reader
takes the text of each fraction for the fraction, and no object repeats a key. -/
inductive Readable : Json → Prop
  | null : Readable .null
  | bool (b : Bool) : Readable (.bool b)
  | nat {n : Nat} : n < Nat.pow 2 64 → Readable (.nat n)
  | num {x : Float} : NumberReadsBack x → Readable (.num x)
  | str (s : String) : Readable (.str s)
  | arr {vs : List Json} : (∀ v ∈ vs, Readable v) → Readable (.arr vs)
  | obj {fs : List (String × Json)} : (fs.map Prod.fst).Nodup → (∀ f ∈ fs, Readable f.2) →
      Readable (.obj fs)

@[simp] theorem readable_arr_iff {vs : List Json} : Readable (.arr vs) ↔ ∀ v ∈ vs, Readable v :=
  ⟨fun h => by cases h with | arr h => exact h, Readable.arr⟩

@[simp] theorem readable_obj_iff {fs : List (String × Json)} :
    Readable (.obj fs) ↔ (fs.map Prod.fst).Nodup ∧ ∀ f ∈ fs, Readable f.2 :=
  ⟨fun h => by cases h with | obj hk hf => exact ⟨hk, hf⟩, fun h => Readable.obj h.1 h.2⟩

@[simp] theorem readable_nat_iff {n : Nat} : Readable (.nat n) ↔ n < Nat.pow 2 64 :=
  ⟨fun h => by cases h with | nat h => exact h, Readable.nat⟩

@[simp] theorem readable_num_iff {x : Float} : Readable (.num x) ↔ NumberReadsBack x :=
  ⟨fun h => by cases h with | num h => exact h, Readable.num⟩

@[simp] theorem readable_str (t : String) : Readable (.str t) := Readable.str t

/-- Written text begins with a byte that is no blank and no closing bracket. -/
theorem write_head (k : Nat) (v : Json) :
    ∃ b, (utf8 (write prettyStyle k v)).head? = some b ∧ isBlankByte b = false ∧ b.toNat ≠ 93 := by
  cases v with
  | null => exact ⟨110, rfl, rfl, by decide⟩
  | bool b => cases b <;> exact ⟨_, rfl, rfl, by decide⟩
  | nat n =>
    obtain ⟨d, ds, hdd⟩ := List.exists_cons_of_ne_nil (Nat.toDigits_ne_nil (n := n) (b := 10))
    have hmem : d ∈ Nat.toDigits 10 n := by rw [hdd]; exact List.mem_cons_self
    have hdig := Nat.isDigit_of_mem_toDigits (by decide) (by decide) hmem
    have hc := Char.isDigit_iff_toNat.1 hdig
    simp at hc
    refine ⟨UInt8.ofNat d.toNat, ?_, isBlankByte_ofNat_digit hdig, ?_⟩
    · rw [write, utf8_digitText, hdd]
      rfl
    · rw [UInt8.toNat_ofNat', Nat.mod_eq_of_lt (by omega)]
      omega
  | num x =>
    obtain ⟨c, hc, hform⟩ := jsonText_head x
    -- `n`, `-` or a digit: an ASCII character that is no blank and no closing bracket
    have hlt : c.toNat < 128 ∧ c.toNat ≠ 93 := by
      rcases hform with rfl | rfl | hdig
      · decide
      · decide
      · have := Char.isDigit_iff_toNat.1 hdig; simp at this; omega
    have hbyte : (UInt8.ofNat c.toNat).toNat = c.toNat := by
      rw [UInt8.toNat_ofNat', Nat.mod_eq_of_lt (by omega)]
    refine ⟨UInt8.ofNat c.toNat, head_utf8 hc hlt.1, ?_, by omega⟩
    rcases hform with rfl | rfl | hdig
    · rfl
    · rfl
    · exact isBlankByte_ofNat_digit hdig
  | str s => exact ⟨34, by rw [write, utf8_quoteString]; rfl, rfl, by decide⟩
  | arr vs =>
    refine ⟨91, ?_, rfl, by decide⟩
    cases vs with
    | nil => rfl
    | cons v vs => simp only [write, utf8_append, List.append_assoc]; rfl
  | obj fs =>
    refine ⟨123, ?_, rfl, by decide⟩
    cases fs with
    | nil => rfl
    | cons f fs => simp only [write, utf8_append, List.append_assoc]; rfl

/-! ## Brackets around what is inside -/

/-- An array is its inside, read one level deeper, and its closing bracket. -/
theorem readAny_of_items {fuel : Nat} {s : Cursor} {B S I : List UInt8} {v : Json}
    (h : s.rest = B ++ 91 :: (I ++ 93 :: S)) (hB : ∀ b ∈ B, isBlankByte b = true) (hd : 1 < s.depth)
    (hin : readAnyItems fuel true [] { s.advance (B.length + 1) with depth := s.depth - 1 } =
      .ok v (({ s.advance (B.length + 1) with depth := s.depth - 1 } : Cursor).advance I.length)) :
    readAny (fuel + 1) s = .ok v (s.advance (B.length + (I.length + 2))) := by
  -- the closing bracket stands right after the inside
  have hend := Cursor.rest_of_prefix (P := B ++ 91 :: I) (X := [] ++ 93 :: S)
    (t := { (({ s.advance (B.length + 1) with depth := s.depth - 1 } : Cursor).advance I.length) with
      depth := s.depth - 1 + 1 }) (h.trans (by simp)) rfl
    (by simp only [Cursor.advance_index, List.length_append, List.length_cons]; omega)
  rw [readAny_bracket h hB hd hin (endSeq_of_rest hend (fun b hb => by cases hb))]
  congr 1
  exact Cursor.eq_advance rfl (by simp only [Cursor.advance_index, List.length_nil]; omega)
    (by simp only [Cursor.advance_depth]; omega)

/-- An object is its inside, read one level deeper, and its closing brace. -/
theorem readAny_of_fields {fuel : Nat} {s : Cursor} {B S I : List UInt8} {v : Json}
    (h : s.rest = B ++ 123 :: (I ++ 125 :: S)) (hB : ∀ b ∈ B, isBlankByte b = true) (hd : 1 < s.depth)
    (hin : readAnyFields fuel true [] { s.advance (B.length + 1) with depth := s.depth - 1 } =
      .ok v (({ s.advance (B.length + 1) with depth := s.depth - 1 } : Cursor).advance I.length)) :
    readAny (fuel + 1) s = .ok v (s.advance (B.length + (I.length + 2))) := by
  -- the closing bracket stands right after the inside
  have hend := Cursor.rest_of_prefix (P := B ++ 123 :: I) (X := [] ++ 125 :: S)
    (t := { (({ s.advance (B.length + 1) with depth := s.depth - 1 } : Cursor).advance I.length) with
      depth := s.depth - 1 + 1 }) (h.trans (by simp)) rfl
    (by simp only [Cursor.advance_index, List.length_append, List.length_cons]; omega)
  rw [readAny_brace h hB hd hin (endMap_of_rest hend (fun b hb => by cases hb))]
  congr 1
  exact Cursor.eq_advance rfl (by simp only [Cursor.advance_index, List.length_nil]; omega)
    (by simp only [Cursor.advance_depth]; omega)

/-! ## The written text of arrays and objects -/

theorem utf8_write_arr_nil (k : Nat) : utf8 (write prettyStyle k (.arr [])) = [91, 93] := rfl

theorem utf8_write_obj_nil (k : Nat) : utf8 (write prettyStyle k (.obj [])) = [123, 125] := rfl

theorem utf8_writeItems_nil (k : Nat) : utf8 (writeItems prettyStyle k []) = [] := rfl

theorem utf8_writeFields_nil (k : Nat) : utf8 (writeFields prettyStyle k []) = [] := rfl

theorem utf8_write_arr_cons (k : Nat) (v : Json) (vs : List Json) :
    utf8 (write prettyStyle k (.arr (v :: vs))) =
      91 :: (utf8 (lineBreak prettyStyle (k + 1)) ++ utf8 (write prettyStyle (k + 1) v) ++
        (utf8 (writeItems prettyStyle (k + 1) vs) ++ utf8 (lineBreak prettyStyle k)) ++ [93]) := by
  simp only [write, utf8_append, List.append_assoc]
  rfl

theorem utf8_write_obj_cons (k : Nat) (key : String) (v : Json) (fs : List (String × Json)) :
    utf8 (write prettyStyle k (.obj ((key, v) :: fs))) =
      123 :: (utf8 (lineBreak prettyStyle (k + 1)) ++ utf8 (quoteString prettyStyle key) ++
        58 :: ([32] ++ utf8 (write prettyStyle (k + 1) v) ++
          (utf8 (writeFields prettyStyle (k + 1) fs) ++ utf8 (lineBreak prettyStyle k))) ++ [125]) := by
  simp only [write, utf8_append, List.append_assoc, List.cons_append, List.nil_append]
  rfl

theorem utf8_writeItems_cons (k : Nat) (v : Json) (vs : List Json) :
    utf8 (writeItems prettyStyle k (v :: vs)) =
      44 :: (utf8 (lineBreak prettyStyle k) ++ utf8 (write prettyStyle k v) ++
        utf8 (writeItems prettyStyle k vs)) := by
  simp only [writeItems, utf8_append, List.append_assoc]
  rfl

theorem utf8_writeFields_cons (k : Nat) (key : String) (v : Json) (fs : List (String × Json)) :
    utf8 (writeFields prettyStyle k ((key, v) :: fs)) =
      44 :: (utf8 (lineBreak prettyStyle k) ++ utf8 (quoteString prettyStyle key) ++
        58 :: ([32] ++ utf8 (write prettyStyle k v) ++ utf8 (writeFields prettyStyle k fs))) := by
  simp only [writeFields, utf8_append, List.append_assoc, List.cons_append, List.nil_append]
  rfl

/-- What follows an element: more elements or the closing line, and the bracket. -/
theorem endsNumber_writeItems (k : Nat) (vs : List Json) {B : List UInt8}
    (hB : ∀ b ∈ B, isBlankByte b = true) (c : UInt8) (S : List UInt8)
    (hc : isDigitByte c = false ∧ c ≠ 46 ∧ c ≠ 101 ∧ c ≠ 69) :
    EndsNumber (utf8 (writeItems prettyStyle k vs) ++ B ++ c :: S) := by
  cases vs with
  | nil =>
    rw [utf8_writeItems_nil, List.nil_append]
    exact EndsNumber.blanks_append hB (EndsNumber.cons hc S)
  | cons v vs =>
    rw [utf8_writeItems_cons]
    exact EndsNumber.cons (by decide) _

/-- What follows a member: more members or the closing line, and the brace. -/
theorem endsNumber_writeFields (k : Nat) (fs : List (String × Json)) {B : List UInt8}
    (hB : ∀ b ∈ B, isBlankByte b = true) (c : UInt8) (S : List UInt8)
    (hc : isDigitByte c = false ∧ c ≠ 46 ∧ c ≠ 101 ∧ c ≠ 69) :
    EndsNumber (utf8 (writeFields prettyStyle k fs) ++ B ++ c :: S) := by
  cases fs with
  | nil =>
    rw [utf8_writeFields_nil, List.nil_append]
    exact EndsNumber.blanks_append hB (EndsNumber.cons hc S)
  | cons f fs =>
    obtain ⟨key, v⟩ := f
    rw [utf8_writeFields_cons]
    exact EndsNumber.cons (by decide) _

/-! ## Arrays and objects from their parts -/

/-- A member: its key, the colon and the value. -/
theorem readAnyFields_member {fuel : Nat} {first : Bool} {acc : List (String × Json)}
    {s s1 s2 : Cursor} {key : String} {v : Json} {X : List UInt8}
    (hnext : hasNextKey first s = .ok true s1)
    (h : s1.rest = utf8 (quoteString prettyStyle key) ++ 58 :: X)
    (hv : readAny fuel (s1.advance ((utf8 (quoteString prettyStyle key)).length + 1)) = .ok v s2) :
    readAnyFields (fuel + 1) first acc s = readAnyFields fuel false (setField key v acc) s2 := by
  have hcolon : objectColon (s1.advance (utf8 (quoteString prettyStyle key)).length) =
      .ok () (s1.advance ((utf8 (quoteString prettyStyle key)).length + 1)) := by
    rw [objectColon_of_rest (B := [])
      (Cursor.rest_of_prefix (t := s1.advance (utf8 (quoteString prettyStyle key)).length) h rfl rfl)
      (by simp), Cursor.advance_advance]
    rfl
  exact readAnyFields_more hnext (readKey_of_rest h) hcolon hv

/-- An empty array. -/
theorem readAny_of_no_items {fuel : Nat} {s : Cursor} {B S : List UInt8}
    (h : s.rest = B ++ [91, 93] ++ S) (hB : ∀ b ∈ B, isBlankByte b = true) (hd : 1 < s.depth) :
    readAny (fuel + 2) s = .ok (.arr []) (s.advance (B ++ [91, 93]).length) := by
  have ht := Cursor.rest_of_prefix (P := B ++ [91]) (X := [] ++ 93 :: S)
    (t := { s.advance (B.length + 1) with depth := s.depth - 1 }) (h.trans (by simp)) rfl (by simp)
  refine (readAny_of_items (I := []) (S := S) (h.trans (by simp)) hB hd
    (readAnyItems_done (hasNextElement_close true ht (by simp)))).trans ?_
  simp

/-- An empty object. -/
theorem readAny_of_no_fields {fuel : Nat} {s : Cursor} {B S : List UInt8}
    (h : s.rest = B ++ [123, 125] ++ S) (hB : ∀ b ∈ B, isBlankByte b = true) (hd : 1 < s.depth) :
    readAny (fuel + 2) s = .ok (.obj []) (s.advance (B ++ [123, 125]).length) := by
  have ht := Cursor.rest_of_prefix (P := B ++ [123]) (X := [] ++ 125 :: S)
    (t := { s.advance (B.length + 1) with depth := s.depth - 1 }) (h.trans (by simp)) rfl (by simp)
  refine (readAny_of_fields (I := []) (S := S) (h.trans (by simp)) hB hd
    (readAnyFields_done (hasNextKey_close true ht (by simp)))).trans ?_
  simp

/-- An array with a first element: the bracket, blanks, the first element, then the others and the
closing line up to the bracket, all read one level deeper. -/
theorem readAny_of_first_item {fuel : Nat} {s : Cursor} {B L W R S : List UInt8} {v : Json}
    {vs : List Json} (h : s.rest = B ++ 91 :: (L ++ W ++ R ++ [93]) ++ S)
    (hB : ∀ b ∈ B, isBlankByte b = true) (hL : ∀ b ∈ L, isBlankByte b = true) (hd : 1 < s.depth)
    (hW : ∃ b, W.head? = some b ∧ isBlankByte b = false ∧ b.toNat ≠ 93)
    (hv : ∀ t : Cursor, t.rest = W ++ (R ++ 93 :: S) → t.depth = s.depth - 1 →
      readAny fuel t = .ok v (t.advance W.length))
    (hrest : ∀ t : Cursor, t.rest = R ++ 93 :: S → t.depth = s.depth - 1 →
      readAnyItems fuel false [v] t = .ok (.arr (v :: vs)) (t.advance R.length)) :
    readAny (fuel + 2) s =
      .ok (.arr (v :: vs)) (s.advance (B ++ 91 :: (L ++ W ++ R ++ [93])).length) := by
  obtain ⟨b, hb, hbb, hb93⟩ := hW
  obtain ⟨W', rfl⟩ := List.head?_eq_some_iff.1 hb
  -- the inside of the bracket, one level deeper
  set t : Cursor := { s.advance (B.length + 1) with depth := s.depth - 1 }
  have ht : t.rest = L ++ b :: (W' ++ (R ++ 93 :: S)) :=
    Cursor.rest_of_prefix (P := B ++ [91]) (h.trans (by simp)) rfl (by simp [t])
  have h1 := Cursor.rest_of_prefix (P := L) (X := b :: W' ++ (R ++ 93 :: S)) (t := t.advance L.length)
    (ht.trans (by simp)) rfl rfl
  have h2 := Cursor.rest_of_prefix (P := b :: W') (X := R ++ 93 :: S)
    (t := (t.advance L.length).advance (b :: W').length) h1 rfl rfl
  refine (readAny_of_items (I := L ++ b :: W' ++ R) (S := S) (v := .arr (v :: vs)) (h.trans (by simp)) hB hd
    ?_).trans ?_
  · rw [readAnyItems_more (hasNextElement_first ht hL hbb hb93) (hv _ h1 rfl), hrest _ h2 rfl,
      Cursor.advance_advance, Cursor.advance_advance]
    simp only [List.length_append, List.length_cons]
    congr 2
    omega
  · congr 2
    simp only [List.length_append, List.length_cons, List.length_nil]

/-- An object with a first member: the brace, blanks, the first member, then the others and the
closing line up to the brace, all read one level deeper. -/
theorem readAny_of_first_field {fuel : Nat} {s : Cursor} {B L W R S : List UInt8} {key : String}
    {v : Json} {fs : List (String × Json)}
    (h : s.rest = B ++ 123 :: (L ++ utf8 (quoteString prettyStyle key) ++ 58 :: ([32] ++ W ++ R) ++ [125]) ++ S)
    (hB : ∀ b ∈ B, isBlankByte b = true) (hL : ∀ b ∈ L, isBlankByte b = true) (hd : 1 < s.depth)
    (hv : ∀ t : Cursor, t.rest = [32] ++ W ++ (R ++ 125 :: S) → t.depth = s.depth - 1 →
      readAny fuel t = .ok v (t.advance ([32] ++ W).length))
    (hrest : ∀ t : Cursor, t.rest = R ++ 125 :: S → t.depth = s.depth - 1 →
      readAnyFields fuel false [(key, v)] t = .ok (.obj ((key, v) :: fs)) (t.advance R.length)) :
    readAny (fuel + 2) s = .ok (.obj ((key, v) :: fs)) (s.advance
      (B ++ 123 :: (L ++ utf8 (quoteString prettyStyle key) ++ 58 :: ([32] ++ W ++ R) ++ [125])).length) := by
  obtain ⟨Q, hQ⟩ : ∃ Q, utf8 (quoteString prettyStyle key) = 34 :: Q := ⟨_, utf8_quoteString key⟩
  -- the inside of the brace, one level deeper, and the key's text
  set t : Cursor := { s.advance (B.length + 1) with depth := s.depth - 1 }
  set K := utf8 (quoteString prettyStyle key)
  have ht : t.rest = L ++ K ++ 58 :: ([32] ++ W ++ (R ++ 125 :: S)) :=
    Cursor.rest_of_prefix (P := B ++ [123]) (h.trans (by simp)) rfl (by simp [t])
  have h1 := Cursor.rest_of_prefix (P := L) (X := K ++ 58 :: ([32] ++ W ++ (R ++ 125 :: S)))
    (t := t.advance L.length) (ht.trans (by simp)) rfl rfl
  have h2 := Cursor.rest_of_prefix (P := K ++ [58]) (X := [32] ++ W ++ (R ++ 125 :: S))
    (t := (t.advance L.length).advance (K.length + 1)) (h1.trans (by simp)) rfl (by simp)
  have h3 := Cursor.rest_of_prefix (P := [32] ++ W) (X := R ++ 125 :: S)
    (t := ((t.advance L.length).advance (K.length + 1)).advance ([32] ++ W).length) h2 rfl rfl
  have hnext := hasNextKey_first (B := L) (S := Q ++ 58 :: ([32] ++ W ++ (R ++ 125 :: S)))
    (ht.trans (by simp [hQ])) hL
  refine (readAny_of_fields (I := L ++ K ++ 58 :: ([32] ++ W ++ R)) (S := S) (v := .obj ((key, v) :: fs))
    (h.trans (by simp)) hB hd ?_).trans ?_
  · refine (((readAnyFields_member hnext h1 (hv _ h2 rfl) :
      readAnyFields (fuel + 1) true [] _ = _)).trans (hrest _ h3 rfl)).trans ?_
    simp only [K, Cursor.advance_advance, List.length_append, List.length_cons, List.length_nil]
    congr 2
    omega
  · congr 2
    simp only [List.length_append, List.length_cons, List.length_nil]

/-- An element after a comma: the comma, blanks, the element, then what follows it. -/
theorem readAnyItems_of_next {fuel : Nat} {acc : List Json} {s : Cursor} {L W R B S : List UInt8}
    {v r : Json} (h : s.rest = 44 :: (L ++ W ++ R) ++ B ++ 93 :: S)
    (hL : ∀ b ∈ L, isBlankByte b = true)
    (hW : ∃ b, W.head? = some b ∧ isBlankByte b = false ∧ b.toNat ≠ 93)
    (hv : ∀ t : Cursor, t.rest = W ++ (R ++ B ++ 93 :: S) → t.depth = s.depth →
      readAny fuel t = .ok v (t.advance W.length))
    (hrest : ∀ t : Cursor, t.rest = R ++ B ++ 93 :: S → t.depth = s.depth →
      readAnyItems fuel false (v :: acc) t = .ok r (t.advance (R ++ B).length)) :
    readAnyItems (fuel + 1) false acc s = .ok r (s.advance (44 :: (L ++ W ++ R) ++ B).length) := by
  obtain ⟨b, hb, hbb, hb93⟩ := hW
  obtain ⟨W', rfl⟩ := List.head?_eq_some_iff.1 hb
  have h0 : s.rest = 44 :: (L ++ b :: (W' ++ (R ++ B ++ 93 :: S))) := h.trans (by simp)
  have h1 := Cursor.rest_of_prefix (P := 44 :: L) (X := b :: W' ++ (R ++ B ++ 93 :: S))
    (t := s.advance (1 + L.length)) (h0.trans (by simp)) rfl
    (by simp only [Cursor.advance_index, List.length_cons]; omega)
  have h2 := Cursor.rest_of_prefix (P := b :: W') (X := R ++ B ++ 93 :: S)
    (t := (s.advance (1 + L.length)).advance (b :: W').length) h1 rfl rfl
  rw [readAnyItems_more (hasNextElement_comma h0 hL hbb hb93) (hv _ h1 rfl), hrest _ h2 rfl,
    Cursor.advance_advance, Cursor.advance_advance]
  simp only [List.length_append, List.length_cons]
  congr 2
  omega

/-- A member after a comma: the comma, blanks, the key, the separator, the value, then what follows
it. -/
theorem readAnyFields_of_next {fuel : Nat} {acc : List (String × Json)} {s : Cursor}
    {L W R B S : List UInt8} {key : String} {v r : Json}
    (h : s.rest = 44 :: (L ++ utf8 (quoteString prettyStyle key) ++ 58 :: ([32] ++ W ++ R)) ++ B ++ 125 :: S)
    (hL : ∀ b ∈ L, isBlankByte b = true)
    (hv : ∀ t : Cursor, t.rest = [32] ++ W ++ (R ++ B ++ 125 :: S) → t.depth = s.depth →
      readAny fuel t = .ok v (t.advance ([32] ++ W).length))
    (hrest : ∀ t : Cursor, t.rest = R ++ B ++ 125 :: S → t.depth = s.depth →
      readAnyFields fuel false (setField key v acc) t = .ok r (t.advance (R ++ B).length)) :
    readAnyFields (fuel + 1) false acc s = .ok r (s.advance
      (44 :: (L ++ utf8 (quoteString prettyStyle key) ++ 58 :: ([32] ++ W ++ R)) ++ B).length) := by
  obtain ⟨Q, hQ⟩ : ∃ Q, utf8 (quoteString prettyStyle key) = 34 :: Q := ⟨_, utf8_quoteString key⟩
  set K := utf8 (quoteString prettyStyle key)
  have h0 : s.rest = 44 :: (L ++ K ++ 58 :: ([32] ++ W ++ (R ++ B ++ 125 :: S))) := h.trans (by simp)
  have hnext := hasNextKey_comma (B := L) (S := Q ++ 58 :: ([32] ++ W ++ (R ++ B ++ 125 :: S)))
    (h0.trans (by simp [hQ])) hL
  have h1 := Cursor.rest_of_prefix (P := 44 :: L) (X := K ++ 58 :: ([32] ++ W ++ (R ++ B ++ 125 :: S)))
    (t := s.advance (1 + L.length)) (h0.trans (by simp)) rfl
    (by simp only [Cursor.advance_index, List.length_cons]; omega)
  have h2 := Cursor.rest_of_prefix (P := K ++ [58]) (X := [32] ++ W ++ (R ++ B ++ 125 :: S))
    (t := (s.advance (1 + L.length)).advance (K.length + 1)) (h1.trans (by simp)) rfl (by simp)
  have h3 := Cursor.rest_of_prefix (P := [32] ++ W) (X := R ++ B ++ 125 :: S)
    (t := ((s.advance (1 + L.length)).advance (K.length + 1)).advance ([32] ++ W).length) h2 rfl rfl
  rw [readAnyFields_member hnext h1 (hv _ h2 rfl), hrest _ h3 rfl]
  simp only [K, Cursor.advance_advance, List.length_append, List.length_cons, List.length_nil]
  congr 2
  omega

/-! ## Written values read back -/

theorem one_le_readFuel (v : Json) : 1 ≤ readFuel v := by
  cases v <;> simp only [readFuel] <;> omega

theorem succ_of_readFuel_le {v : Json} {fuel : Nat} (h : readFuel v ≤ fuel) : ∃ f, fuel = f + 1 :=
  ⟨fuel - 1, by have := one_le_readFuel v; omega⟩

mutual

/-- The indented text of a readable value, after blanks and before anything that ends a number,
reads back as the value, given the fuel and the nesting budget it needs. -/
theorem readAny_write (k : Nat) : (v : Json) → Readable v →
    ∀ (fuel : Nat) (s : Cursor) (B S : List UInt8),
    readFuel v ≤ fuel → nesting v < s.depth → (∀ b ∈ B, isBlankByte b = true) → EndsNumber S →
    s.rest = B ++ utf8 (write prettyStyle k v) ++ S →
    readAny fuel s = .ok v (s.advance (B ++ utf8 (write prettyStyle k v)).length)
  | .null, _ => by
    intro fuel s B S hfuel _ hB _ h
    obtain ⟨f, rfl⟩ := succ_of_readFuel_le hfuel
    exact readAny_null h hB
  | .bool b, _ => by
    intro fuel s B S hfuel _ hB _ h
    obtain ⟨f, rfl⟩ := succ_of_readFuel_le hfuel
    exact readAny_bool b h hB
  | .nat _, .nat hn => by
    intro fuel s B S hfuel _ hB hS h
    obtain ⟨f, rfl⟩ := succ_of_readFuel_le hfuel
    exact readAny_nat hn h hB hS
  | .num _, .num hx => by
    intro fuel s B S hfuel _ hB hS h
    obtain ⟨f, rfl⟩ := succ_of_readFuel_le hfuel
    exact hx f s B S hB hS h
  | .str t, _ => by
    intro fuel s B S hfuel _ hB _ h
    obtain ⟨f, rfl⟩ := succ_of_readFuel_le hfuel
    exact readAny_str t h hB
  | .arr [], _ => by
    intro fuel s B S hfuel hdepth hB _ h
    simp only [readFuel, readFuelItems, nesting, nestingItems] at hfuel hdepth
    obtain ⟨f, rfl⟩ : ∃ f, fuel = f + 2 := ⟨fuel - 2, by omega⟩
    rw [utf8_write_arr_nil] at h ⊢
    exact readAny_of_no_items h hB (by omega)
  | .arr (v :: vs), .arr hvs => by
    intro fuel s B S hfuel hdepth hB _ h
    simp only [readFuel, readFuelItems, nesting, nestingItems] at hfuel hdepth
    obtain ⟨f, rfl⟩ : ∃ f, fuel = f + 2 := ⟨fuel - 2, by omega⟩
    rw [utf8_write_arr_cons] at h ⊢
    exact readAny_of_first_item h hB (blank_lineBreak _) (by omega) (write_head _ _)
      (fun t hr ht => readAny_write (k + 1) v (hvs v List.mem_cons_self) f t [] _ (by omega)
        (by omega) (by simp) (endsNumber_writeItems (k + 1) vs (blank_lineBreak k) 93 S (by decide)) hr)
      (fun t hr ht => readAnyItems_write (k + 1) vs (fun u hu => hvs u (List.mem_cons_of_mem _ hu))
        f t [v] _ S (by omega) (by omega) (blank_lineBreak k) hr)
  | .obj [], _ => by
    intro fuel s B S hfuel hdepth hB _ h
    simp only [readFuel, readFuelFields, nesting, nestingFields] at hfuel hdepth
    obtain ⟨f, rfl⟩ : ∃ f, fuel = f + 2 := ⟨fuel - 2, by omega⟩
    rw [utf8_write_obj_nil] at h ⊢
    exact readAny_of_no_fields h hB (by omega)
  | .obj ((key, v) :: fs), .obj hkeys hfs => by
    intro fuel s B S hfuel hdepth hB _ h
    simp only [readFuel, readFuelFields, nesting, nestingFields] at hfuel hdepth
    obtain ⟨f, rfl⟩ : ∃ f, fuel = f + 2 := ⟨fuel - 2, by omega⟩
    rw [utf8_write_obj_cons] at h ⊢
    exact readAny_of_first_field h hB (blank_lineBreak _) (by omega)
      (fun t hr ht => readAny_write (k + 1) v (hfs (key, v) List.mem_cons_self) f t [32] _ (by omega)
        (by omega) (fun b hb => by cases List.mem_singleton.1 hb; rfl)
        (endsNumber_writeFields (k + 1) fs (blank_lineBreak k) 125 S (by decide)) hr)
      (fun t hr ht => readAnyFields_write (k + 1) fs (fun u hu => hfs u (List.mem_cons_of_mem _ hu))
        f t [(key, v)] _ S hkeys (by omega) (by omega) (blank_lineBreak k) hr)

/-- The elements after the first, with the closing line's blanks and bracket after them, read
back onto those read before. -/
theorem readAnyItems_write (k : Nat) : (vs : List Json) → (∀ v ∈ vs, Readable v) →
    ∀ (fuel : Nat) (s : Cursor) (acc : List Json) (B S : List UInt8),
    readFuelItems vs < fuel → nestingItems vs < s.depth → (∀ b ∈ B, isBlankByte b = true) →
    s.rest = utf8 (writeItems prettyStyle k vs) ++ B ++ 93 :: S →
    readAnyItems fuel false acc s =
      .ok (.arr (acc.reverse ++ vs)) (s.advance (utf8 (writeItems prettyStyle k vs) ++ B).length)
  | [], _ => by
    intro fuel s acc B S hfuel _ hB h
    obtain ⟨f, rfl⟩ : ∃ f, fuel = f + 1 := ⟨fuel - 1, by omega⟩
    rw [utf8_writeItems_nil, List.nil_append] at h ⊢
    rw [readAnyItems_done (hasNextElement_close false h hB), List.append_nil]
  | v :: vs, hvs => by
    intro fuel s acc B S hfuel hdepth hB h
    simp only [readFuelItems, nestingItems] at hfuel hdepth
    obtain ⟨f, rfl⟩ : ∃ f, fuel = f + 1 := ⟨fuel - 1, by omega⟩
    rw [utf8_writeItems_cons] at h ⊢
    rw [readAnyItems_of_next h (blank_lineBreak k) (write_head k v)
      (fun t hr ht => readAny_write k v (hvs v List.mem_cons_self) f t [] _ (by omega) (by omega)
        (by simp) (endsNumber_writeItems k vs hB 93 S (by decide)) hr)
      (fun t hr ht => readAnyItems_write k vs (fun u hu => hvs u (List.mem_cons_of_mem _ hu)) f t
        (v :: acc) B S (by omega) (by omega) hB hr)]
    simp

/-- The members after the first, with the closing line's blanks and brace after them, read back
onto those read before, whose keys they do not repeat. -/
theorem readAnyFields_write (k : Nat) : (fs : List (String × Json)) → (∀ f ∈ fs, Readable f.2) →
    ∀ (fuel : Nat) (s : Cursor) (acc : List (String × Json)) (B S : List UInt8),
    ((acc ++ fs).map Prod.fst).Nodup → readFuelFields fs < fuel → nestingFields fs < s.depth →
    (∀ b ∈ B, isBlankByte b = true) →
    s.rest = utf8 (writeFields prettyStyle k fs) ++ B ++ 125 :: S →
    readAnyFields fuel false acc s =
      .ok (.obj (acc ++ fs)) (s.advance (utf8 (writeFields prettyStyle k fs) ++ B).length)
  | [], _ => by
    intro fuel s acc B S _ hfuel _ hB h
    obtain ⟨f, rfl⟩ : ∃ f, fuel = f + 1 := ⟨fuel - 1, by omega⟩
    rw [utf8_writeFields_nil, List.nil_append] at h ⊢
    rw [readAnyFields_done (hasNextKey_close false h hB), List.append_nil]
  | (key, v) :: fs, hfs => by
    intro fuel s acc B S hkeys hfuel hdepth hB h
    simp only [readFuelFields, nestingFields] at hfuel hdepth
    obtain ⟨f, rfl⟩ : ∃ f, fuel = f + 1 := ⟨fuel - 1, by omega⟩
    -- a key not read before is added after the others
    have hnew : key ∉ acc.map Prod.fst := by
      rw [List.map_append, List.map_cons] at hkeys
      exact fun hm => (List.nodup_append.1 hkeys).2.2 key hm key List.mem_cons_self rfl
    rw [utf8_writeFields_cons] at h ⊢
    rw [readAnyFields_of_next h (blank_lineBreak k)
      (fun t hr ht => readAny_write k v (hfs (key, v) List.mem_cons_self) f t [32] _ (by omega)
        (by omega) (fun b hb => by cases List.mem_singleton.1 hb; rfl)
        (endsNumber_writeFields k fs hB 125 S (by decide)) hr)
      (fun t hr ht => by
        rw [setField_of_not_mem hnew]
        exact readAnyFields_write k fs (fun u hu => hfs u (List.mem_cons_of_mem _ hu)) f t
          (acc ++ [(key, v)]) B S (by simpa using hkeys) (by omega) (by omega) hB hr)]
    simp

end

/-! ## Whole documents -/

theorem one_le_length_write (k : Nat) (v : Json) : 1 ≤ (utf8 (write prettyStyle k v)).length := by
  obtain ⟨b, hb, -⟩ := write_head k v
  obtain ⟨T, hT⟩ := List.head?_eq_some_iff.1 hb
  rw [hT, List.length_cons]
  omega

theorem length_lineBreak (d : Nat) : (utf8 (lineBreak prettyStyle d)).length = 2 * d + 1 := by
  rw [utf8_lineBreak, List.length_cons, List.length_replicate]

mutual

/-- Reading a value takes no more fuel than its text has bytes. -/
theorem readFuel_le_length (k : Nat) : (v : Json) → readFuel v ≤ (utf8 (write prettyStyle k v)).length
  | .null | .bool _ | .nat _ | .num _ | .str _ => by
    simp only [readFuel]
    exact one_le_length_write k _
  | .arr [] => by
    rw [utf8_write_arr_nil]
    simp [readFuel, readFuelItems]
  | .arr (v :: vs) => by
    have hv := readFuel_le_length (k + 1) v
    have hvs := readFuelItems_le_length (k + 1) vs
    rw [utf8_write_arr_cons]
    simp only [readFuel, readFuelItems, List.length_cons, List.length_append, length_lineBreak]
    omega
  | .obj [] => by
    rw [utf8_write_obj_nil]
    simp [readFuel, readFuelFields]
  | .obj ((key, v) :: fs) => by
    have hv := readFuel_le_length (k + 1) v
    have hfs := readFuelFields_le_length (k + 1) fs
    rw [utf8_write_obj_cons]
    simp only [readFuel, readFuelFields, List.length_cons, List.length_append, length_lineBreak]
    omega

theorem readFuelItems_le_length (k : Nat) :
    (vs : List Json) → readFuelItems vs ≤ (utf8 (writeItems prettyStyle k vs)).length
  | [] => Nat.zero_le _
  | v :: vs => by
    have hv := readFuel_le_length k v
    have hvs := readFuelItems_le_length k vs
    rw [utf8_writeItems_cons]
    simp only [readFuelItems, List.length_cons, List.length_append]
    omega

theorem readFuelFields_le_length (k : Nat) :
    (fs : List (String × Json)) → readFuelFields fs ≤ (utf8 (writeFields prettyStyle k fs)).length
  | [] => Nat.zero_le _
  | (key, v) :: fs => by
    have hv := readFuel_le_length k v
    have hfs := readFuelFields_le_length k fs
    rw [utf8_writeFields_cons]
    simp only [readFuelFields, List.length_cons, List.length_append]
    omega

end

/-- Reads a whole document: one value, then nothing but blanks. -/
def readDocument (text : String) : Except ReadError Json :=
  let start := Cursor.start text
  match (do let v ← readAny start.fuel; endOfText; pure v : Reader Json) start with
  | .ok v _ => .ok v
  | .error e _ => .error e

theorem rest_start (text : String) : (Cursor.start text).rest = utf8 text := by
  simp [Cursor.rest, Cursor.start, utf8]

/-- The indented text of a readable value whose arrays and objects nest fewer than 128 deep reads
back as the value. -/
theorem readDocument_pretty {v : Json} (hv : Readable v) (hdepth : nesting v < 128) :
    readDocument (pretty v) = .ok v := by
  have hrest : (Cursor.start (pretty v)).rest = [] ++ utf8 (write prettyStyle 0 v) ++ [] := by
    rw [rest_start, pretty, List.nil_append, List.append_nil]
  -- the fuel: four times the bytes and more, while a value takes at most one per byte
  have hfuel : readFuel v ≤ (Cursor.start (pretty v)).fuel := by
    have hlen := readFuel_le_length 0 v
    have hsize : (Cursor.start (pretty v)).bytes.size = (utf8 (write prettyStyle 0 v)).length := by
      simp [Cursor.start, utf8, pretty]
    rw [Cursor.fuel, hsize]
    omega
  have hread := readAny_write 0 v hv _ _ [] [] hfuel hdepth (by simp) EndsNumber.nil hrest
  have hend := endOfText_of_rest (B := [])
    (Cursor.rest_of_prefix (t := (Cursor.start (pretty v)).advance ([] ++ utf8 (write prettyStyle 0 v)).length)
      hrest rfl rfl) (by simp)
  simp only [readDocument, bind, EStateM.bind, hread, hend]
  rfl

end OrphanedCode.Json
