import OrphanedCode.Text.Lines
import OrphanedCode.Text.Blank
import OrphanedCode.Text.Word
import Mathlib.Data.List.TakeWhile
/-!
Laws of the text helpers that the readers and the route keys are built from: cutting a character
list at a separator is the library's `List.splitOn`, so joining the pieces gives the list back and
cutting a join gives the pieces back; no blank is a word character; trimming takes blanks off the
two ends and nothing else; byte lengths add up, so two prefixes of one line with the same byte
length are the same prefix; and texts compare as their UTF-8 bytes.
-/

namespace OrphanedCode.Text

/-! ## Pieces -/

theorem splitChars_eq_splitOn (sep : Char) (cs : List Char) : splitChars sep cs = cs.splitOn sep := by
  induction cs with
  | nil => rfl
  | cons c cs ih =>
    rw [List.splitOn_cons_eq_if_modifyHead, splitChars, ih]
    by_cases hc : c = sep
    · simp [hc]
    · obtain ⟨p, ps, hp⟩ := List.exists_cons_of_ne_nil (List.splitOn_ne_nil sep cs)
      simp [hc, hp]

/-- Joining the pieces of a cut gives the list back. -/
theorem intercalate_splitChars (sep : Char) (cs : List Char) :
    List.intercalate [sep] (splitChars sep cs) = cs := by
  rw [splitChars_eq_splitOn, List.intercalate_splitOn]

/-- Cutting a join of pieces that hold no separator gives the pieces back. -/
theorem splitChars_intercalate (sep : Char) {ls : List (List Char)} (hsep : ∀ l ∈ ls, sep ∉ l)
    (hne : ls ≠ []) : splitChars sep (List.intercalate [sep] ls) = ls := by
  rw [splitChars_eq_splitOn, List.splitOn_intercalate sep hsep hne]

theorem splitChars_ne_nil (sep : Char) (cs : List Char) : splitChars sep cs ≠ [] := by
  rw [splitChars_eq_splitOn]; exact List.splitOn_ne_nil sep cs

theorem not_mem_of_mem_splitChars {sep : Char} {cs p : List Char} (hp : p ∈ splitChars sep cs) :
    sep ∉ p := by
  induction cs generalizing p with
  | nil => simp_all [splitChars]
  | cons c cs ih =>
    unfold splitChars at hp
    split at hp
    · rcases List.mem_cons.1 hp with rfl | hp
      · simp
      · exact ih hp
    · rename_i hc
      split at hp
      · rename_i q qs hq
        rcases List.mem_cons.1 hp with rfl | hp
        · exact fun h => (List.mem_cons.1 h).elim (fun h => hc h.symm)
            (ih (by rw [hq]; exact List.mem_cons_self))
        · exact ih (by rw [hq]; exact List.mem_cons_of_mem _ hp)
      · simp only [List.mem_singleton] at hp
        subst hp
        simpa [eq_comm] using hc

/-- The first piece of a cut is what stands before the first separator. -/
theorem head_splitChars (sep : Char) (cs : List Char) :
    (splitChars sep cs).head?.getD [] = cs.takeWhile (· != sep) := by
  induction cs with
  | nil => rfl
  | cons c cs ih =>
    unfold splitChars
    by_cases hc : c = sep
    · simp [hc]
    · rcases hs : splitChars sep cs with _ | ⟨p, ps⟩
      · exact absurd hs (splitChars_ne_nil sep cs)
      · rw [hs] at ih
        simp only [hc, if_false, List.head?_cons, Option.getD_some] at ih ⊢
        simp [hc, ih]

/-- What stands in a join stands in the separator or in one of the pieces. -/
theorem mem_of_mem_intercalate {α : Type} {x : α} {sep : List α} {ls : List (List α)}
    (h : x ∈ sep.intercalate ls) : x ∈ sep ∨ ∃ l ∈ ls, x ∈ l := by
  induction ls with
  | nil => simp at h
  | cons l ls ih =>
    cases ls with
    | nil => exact .inr ⟨l, List.mem_cons_self, by simpa using h⟩
    | cons l' ls =>
      rw [List.intercalate_cons_cons] at h
      rcases List.mem_append.1 h with h | h
      · rcases List.mem_append.1 h with h | h
        · exact .inr ⟨l, List.mem_cons_self, h⟩
        · exact .inl h
      · rcases ih h with h | ⟨l'', hl'', hx⟩
        · exact .inl h
        · exact .inr ⟨l'', List.mem_cons_of_mem _ hl'', hx⟩

/-- What stands in a join stands in one of its pieces, unless it is the separator. -/
theorem mem_intercalate {α : Type} {sep x : α} {ls : List (List α)}
    (h : x ∈ List.intercalate [sep] ls) : x = sep ∨ ∃ l ∈ ls, x ∈ l := by
  simpa using mem_of_mem_intercalate h

theorem mem_intercalate_of_mem {α : Type} {sep : List α} {x : α} {ls : List (List α)} {l : List α}
    (hl : l ∈ ls) (hx : x ∈ l) : x ∈ sep.intercalate ls := by
  induction ls with
  | nil => simp at hl
  | cons l' ls ih =>
    cases ls with
    | nil => simp_all
    | cons l'' ls =>
      rw [List.intercalate_cons_cons]
      rcases List.mem_cons.1 hl with rfl | hl
      · simp [hx]
      · exact List.mem_append_right _ (ih hl)

/-- A piece added at the end of a join follows one more separator. -/
theorem intercalate_concat {α : Type} (sep : α) {ls : List (List α)} (l : List α) (h : ls ≠ []) :
    List.intercalate [sep] (ls ++ [l]) = List.intercalate [sep] ls ++ [sep] ++ l := by
  induction ls with
  | nil => exact absurd rfl h
  | cons l' ls ih =>
    cases ls with
    | nil => simp
    | cons l'' ls =>
      rw [List.cons_append, List.intercalate_cons_of_ne_nil (by simp), ih (by simp),
        List.intercalate_cons_cons]
      simp

/-- A character of a piece of a cut is a character of the cut list. -/
theorem mem_of_mem_splitChars {sep x : Char} {cs p : List Char} (hp : p ∈ splitChars sep cs)
    (hx : x ∈ p) : x ∈ cs := by
  rw [← intercalate_splitChars sep cs]
  exact mem_intercalate_of_mem hp hx

/-! ## Blanks -/

/-- The code points of the blank characters. -/
def blankCodePoints : List Nat :=
  [0x9, 0xA, 0xB, 0xC, 0xD, 0x20, 0x85, 0xA0, 0x1680, 0x2000, 0x2001, 0x2002, 0x2003, 0x2004,
    0x2005, 0x2006, 0x2007, 0x2008, 0x2009, 0x200A, 0x2028, 0x2029, 0x202F, 0x205F, 0x3000]

theorem isBlank_iff (c : Char) : isBlank c = true ↔ c.toNat ∈ blankCodePoints := by
  simp only [isBlank, blankCodePoints, Bool.or_eq_true, Bool.and_eq_true, decide_eq_true_eq,
    beq_iff_eq, List.mem_cons, List.not_mem_nil, or_false]
  omega

/-- No blank is a word character, so a blank always stands at a word boundary. -/
theorem isWordChar_of_isBlank {c : Char} (h : isBlank c = true) : isWordChar c = false := by
  have table : ∀ n ∈ blankCodePoints, isWordChar (Char.ofNat n) = false := by decide +kernel
  simpa using table c.toNat ((isBlank_iff c).1 h)

/-! ## Trimming -/

theorem dropBlankEnd_append (cs : List Char) :
    ∃ trail, cs = dropBlankEnd cs ++ trail ∧ ∀ c ∈ trail, isBlank c = true := by
  refine ⟨(cs.reverse.takeWhile isBlank).reverse, ?_, fun c hc => ?_⟩
  · rw [dropBlankEnd, ← List.reverse_append, List.takeWhile_append_dropWhile, List.reverse_reverse]
  · exact List.mem_takeWhile_imp (List.mem_reverse.1 hc)

/-- A trimmed list stands in the untrimmed one between blanks. -/
theorem trimChars_spec (cs : List Char) :
    ∃ lead trail, cs = lead ++ trimChars cs ++ trail ∧ (∀ c ∈ lead, isBlank c = true) ∧
      ∀ c ∈ trail, isBlank c = true := by
  obtain ⟨trail, htrail, hb⟩ := dropBlankEnd_append (cs.dropWhile isBlank)
  refine ⟨cs.takeWhile isBlank, trail, ?_, fun c hc => List.mem_takeWhile_imp hc, hb⟩
  rw [trimChars, List.append_assoc, ← htrail, List.takeWhile_append_dropWhile]

/-! ## Byte lengths -/

@[simp] theorem byteLength_nil : byteLength [] = 0 := rfl

@[simp] theorem byteLength_cons (c : Char) (cs : List Char) :
    byteLength (c :: cs) = c.utf8Size + byteLength cs := rfl

@[simp] theorem byteLength_append (a b : List Char) :
    byteLength (a ++ b) = byteLength a + byteLength b := by
  induction a with
  | nil => simp
  | cons c a ih => simp [ih, Nat.add_assoc]

theorem utf8EncodeChar_append_lt {c d : Char} (h : c < d) (x y : List UInt8) :
    String.utf8EncodeChar c ++ x < String.utf8EncodeChar d ++ y := by
  have hv : c.toNat < d.toNat := h
  have hd : d.toNat < 0x110000 := by
    have := d.valid
    simp only [UInt32.isValidChar, Nat.isValidChar, Char.toNat_val] at this
    omega
  -- one case for each pair of encoding lengths; the sums with a lead byte stay below 256
  simp only [String.utf8EncodeChar, Char.toNat_val]
  split_ifs <;>
    simp (disch := omega) only [List.cons_append, List.nil_append, List.cons_lt_cons_iff,
      UInt8.lt_iff_toNat_lt, ← UInt8.toNat_inj, UInt8.toNat_ofNat', Nat.reducePow,
      Nat.mod_eq_of_lt] <;>
    omega

theorem append_lt_append_left_iff {p x y : List UInt8} : p ++ x < p ++ y ↔ x < y := by
  induction p with
  | nil => rfl
  | cons b p ih => simp [ih]

/-- Character lists compare as their UTF-8 bytes. -/
theorem flatMap_utf8EncodeChar_lt_iff (l m : List Char) :
    l.flatMap String.utf8EncodeChar < m.flatMap String.utf8EncodeChar ↔ l < m := by
  induction l generalizing m with
  | nil =>
    cases m with
    | nil => simp
    | cons d m =>
      obtain ⟨b, bs, hb⟩ := List.exists_cons_of_ne_nil (String.utf8EncodeChar_ne_nil (c := d))
      simp [hb]
  | cons c l ih =>
    cases m with
    | nil => simp
    | cons d m =>
      simp only [List.flatMap_cons, List.cons_lt_cons_iff]
      rcases Nat.lt_trichotomy c.toNat d.toNat with h | h | h
      · exact iff_of_true (utf8EncodeChar_append_lt h _ _) (.inl h)
      · obtain rfl : c = d := Char.toNat_inj.1 h
        simp [append_lt_append_left_iff, ih]
      · refine iff_of_false (fun h' => List.lt_asymm h' (utf8EncodeChar_append_lt h _ _)) ?_
        rintro (h' | ⟨rfl, -⟩)
        · exact Nat.lt_asymm h h'
        · exact Nat.lt_irrefl _ h

theorem toUTF8_data_toList (s : String) :
    s.toUTF8.data.toList = s.toList.flatMap String.utf8EncodeChar := by
  rw [String.toUTF8_eq_toByteArray, ← String.utf8Encode_toList, List.utf8Encode,
    List.toList_data_toByteArray]

/-- The byte-wise order of texts: the lexicographic order of their UTF-8 bytes. -/
def BytesLt (a b : String) : Prop :=
  a.toUTF8.data.toList < b.toUTF8.data.toList

/-- Texts compare as their UTF-8 bytes. -/
theorem lt_iff_bytesLt {a b : String} : a < b ↔ BytesLt a b := by
  rw [BytesLt, toUTF8_data_toList, toUTF8_data_toList, flatMap_utf8EncodeChar_lt_iff]
  rfl

end OrphanedCode.Text
