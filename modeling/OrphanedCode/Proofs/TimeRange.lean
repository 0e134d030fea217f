import OrphanedCode.Telemetry.TimeRange
import Mathlib.Data.Nat.Digits.Defs
import Mathlib.Data.List.Induction
/-!
Reading and writing time ranges.

A text reads as a time range exactly when it is decimal digits of a count below `2^64` followed by
one unit letter; the count is the decimal value of the digits, leading zeros and all. Writing a
range gives its count without leading zeros, so every range reads back from its text, and a text
that reads writes back as itself less the leading zeros of its count.
-/

namespace OrphanedCode

/-- The decimal value of digit characters, the most significant first. -/
def decimalValue (ds : List Char) : Nat :=
  Nat.ofDigits 10 (ds.reverse.map fun c => c.toNat - '0'.toNat)

/-- Digits without their leading zeros; digits that are all zeros keep one. -/
def withoutLeadingZeros (ds : List Char) : List Char :=
  let rest := ds.dropWhile (· == '0')
  if rest = [] then ['0'] else rest

/-! ## Decimal digits -/

theorem digitChar_toNat_sub {c : Char} (h : c.isDigit = true) : Nat.digitChar (c.toNat - 48) = c := by
  have hc := Char.isDigit_iff_toNat.1 h
  apply Char.toNat_inj.1
  rw [Nat.toNat_digitChar_of_lt_ten (by simp at hc; omega)]
  simp at hc
  omega

theorem digitsValue_append_digit (ds : List Char) (c : Char) :
    digitsValue (ds ++ [c]) = digitsValue ds * 10 + (c.toNat - 48) := by
  simp [digitsValue, List.foldl_append]

/-- The value the reader computes digit by digit is the decimal value of the digits. -/
theorem digitsValue_eq_decimalValue (ds : List Char) : digitsValue ds = decimalValue ds := by
  induction ds using List.reverseRecOn with
  | nil => rfl
  | append_singleton ds c ih =>
    rw [digitsValue_append_digit, ih, decimalValue, decimalValue, List.reverse_append]
    simp only [List.reverse_cons, List.reverse_nil, List.nil_append, List.singleton_append,
      List.map_cons, Nat.ofDigits_cons]
    have hzero : '0'.toNat = 48 := rfl
    rw [hzero]
    ring

/-- A leading zero adds nothing to the value. -/
theorem digitsValue_zero_cons (ds : List Char) : digitsValue ('0' :: ds) = digitsValue ds := by
  simp [digitsValue]

theorem digitsValue_dropWhile_zero (ds : List Char) :
    digitsValue (ds.dropWhile (· == '0')) = digitsValue ds := by
  induction ds with
  | nil => rfl
  | cons c ds ih =>
    by_cases hc : c = '0'
    · subst hc
      rw [digitsValue_zero_cons, ← ih, List.dropWhile_cons_of_pos (by simp)]
    · rw [List.dropWhile_cons_of_neg (by simpa using hc)]

/-- Reading digits after a nonzero count appends them to the count's decimal text. -/
theorem toDigits_foldl {acc : Nat} (hacc : 0 < acc) {cs : List Char}
    (hcs : ∀ c ∈ cs, c.isDigit = true) :
    Nat.toDigits 10 acc ++ cs =
      Nat.toDigits 10 (cs.foldl (fun acc d => acc * 10 + (d.toNat - '0'.toNat)) acc) := by
  induction cs generalizing acc with
  | nil => simp
  | cons c cs ih =>
    have hc := hcs c List.mem_cons_self
    have hlt : c.toNat - 48 < 10 := by
      have := Char.isDigit_iff_toNat.1 hc
      simp at this
      omega
    have hstep : Nat.toDigits 10 acc ++ [c] = Nat.toDigits 10 (acc * 10 + (c.toNat - 48)) := by
      rw [← digitChar_toNat_sub hc, ← Nat.toDigits_of_lt_base hlt,
        Nat.toDigits_append_toDigits (by decide) hacc hlt, digitChar_toNat_sub hc, Nat.mul_comm]
    calc Nat.toDigits 10 acc ++ c :: cs
        = (Nat.toDigits 10 acc ++ [c]) ++ cs := by simp
      _ = Nat.toDigits 10 (acc * 10 + (c.toNat - 48)) ++ cs := by rw [hstep]
      _ = _ := ih (by omega) fun d hd => hcs d (List.mem_cons_of_mem _ hd)

/-- Digits with no leading zero are the decimal text of their value. -/
theorem toDigits_digitsValue_of_ne_zero {d : Char} {ds : List Char} (hd : d ≠ '0')
    (hdigits : ∀ c ∈ d :: ds, c.isDigit = true) : Nat.toDigits 10 (digitsValue (d :: ds)) = d :: ds := by
  have hdig := hdigits d List.mem_cons_self
  have hpos : 0 < d.toNat - 48 := by
    have h48 : d.toNat ≠ 48 := fun h => hd (Char.toNat_inj.1 h)
    have := Char.isDigit_iff_toNat.1 hdig
    simp at this
    omega
  have hlt : d.toNat - 48 < 10 := by
    have := Char.isDigit_iff_toNat.1 hdig
    simp at this
    omega
  have hhead : Nat.toDigits 10 (d.toNat - 48) = [d] := by
    rw [Nat.toDigits_of_lt_base hlt, digitChar_toNat_sub hdig]
  have hval : digitsValue (d :: ds) =
      ds.foldl (fun acc d => acc * 10 + (d.toNat - '0'.toNat)) (d.toNat - 48) := by
    simp [digitsValue]
  rw [hval, ← toDigits_foldl hpos fun c hc => hdigits c (List.mem_cons_of_mem _ hc), hhead]
  rfl

/-- The decimal text of the value of digits is the digits without their leading zeros. -/
theorem toDigits_digitsValue {ds : List Char} (hdigits : ∀ c ∈ ds, c.isDigit = true) :
    Nat.toDigits 10 (digitsValue ds) = withoutLeadingZeros ds := by
  rw [← digitsValue_dropWhile_zero, withoutLeadingZeros]
  match hrest : ds.dropWhile (· == '0') with
  | [] => simp [digitsValue]
  | d :: rest =>
    have hd : d ≠ '0' := by
      have := List.head_dropWhile_not (· == '0') (l := ds) (by simp [hrest])
      simpa [hrest] using this
    have hsuffix : ∀ c ∈ d :: rest, c.isDigit = true := fun c hc =>
      hdigits c ((List.dropWhile_suffix _).subset (hrest ▸ hc))
    simpa using toDigits_digitsValue_of_ne_zero hd hsuffix

/-- The decimal text of a count reads back as the count. -/
theorem digitsValue_toDigits (n : Nat) : digitsValue (Nat.toDigits 10 n) = n := by
  induction n using Nat.strong_induction_on with
  | _ n ih =>
    rw [Nat.toDigits_eq_if (by decide)]
    split
    · rename_i hlt
      simp [digitsValue, Nat.toNat_digitChar_sub_48_of_lt_ten hlt]
    · rename_i hge
      rw [digitsValue_append_digit, ih (n / 10) (by omega),
        Nat.toNat_digitChar_sub_48_of_lt_ten (Nat.mod_lt n (by decide))]
      omega

/-! ## Units -/

theorem TimeUnit.ofLetter?_eq_some_iff {c : Char} {u : TimeUnit} :
    TimeUnit.ofLetter? c = some u ↔ u.letter = c := by
  constructor
  · intro h
    unfold TimeUnit.ofLetter? at h
    split at h <;> cases h <;> rfl
  · rintro rfl
    cases u <;> rfl

/-! ## Reading -/

namespace TimeRange

/-- A text that ends in a character is read by that character and the digits before it. -/
theorem parse?_of_toList {s : String} {ds : List Char} {u : Char} (h : s.toList = ds ++ [u]) :
    parse? s = (TimeUnit.ofLetter? u).bind fun unit =>
      if ds.isEmpty || !ds.all Char.isDigit then none
      else if hlt : digitsValue ds < Nat.pow 2 64 then some ⟨digitsValue ds, unit, hlt⟩ else none := by
  rw [parse?, h, List.reverse_append, List.reverse_singleton, List.singleton_append]
  dsimp only
  split <;> rename_i hu <;> simp [hu]

theorem parse?_of_toList_nil {s : String} (h : s.toList = []) : parse? s = none := by
  rw [parse?, h]
  rfl

/-- A text reads as a range exactly when it is digits of the range's count followed by the letter
of its unit. -/
theorem parse?_eq_some_iff {s : String} {r : TimeRange} :
    parse? s = some r ↔ ∃ ds, s.toList = ds ++ [r.unit.letter] ∧ ds ≠ [] ∧
      (∀ c ∈ ds, c.isDigit = true) ∧ decimalValue ds = r.amount := by
  constructor
  · intro h
    rcases List.eq_nil_or_concat s.toList with hnil | ⟨ds, u, hs⟩
    · rw [parse?_of_toList_nil hnil] at h
      cases h
    · rw [List.concat_eq_append] at hs
      rw [parse?_of_toList hs, Option.bind_eq_some_iff] at h
      obtain ⟨unit, hunit, hread⟩ := h
      split at hread
      · cases hread
      · rename_i hwell
        split at hread
        · cases hread
          simp only [Bool.or_eq_true, List.isEmpty_iff, Bool.not_eq_true', List.all_eq_false,
            not_or, not_exists, not_and, Decidable.not_not] at hwell
          refine ⟨ds, ?_, hwell.1, hwell.2, ?_⟩
          · rw [hs, (TimeUnit.ofLetter?_eq_some_iff.1 hunit)]
          · exact (digitsValue_eq_decimalValue ds).symm
        · cases hread
  · rintro ⟨ds, hs, hne, hdigits, hvalue⟩
    have hlt : digitsValue ds < Nat.pow 2 64 := by
      rw [digitsValue_eq_decimalValue, hvalue]
      exact r.amount_lt
    rw [parse?_of_toList hs, TimeUnit.ofLetter?_eq_some_iff.2 rfl]
    have hwell : (ds.isEmpty || !ds.all Char.isDigit) = false := by
      simp [hne, List.all_eq_true.2 hdigits]
    simp only [Option.bind_some, hwell, Bool.false_eq_true, if_false, dif_pos hlt]
    obtain ⟨amount, unit, _⟩ := r
    dsimp only at hvalue
    subst hvalue
    simp [digitsValue_eq_decimalValue]

/-- A text reads as nothing exactly when it is not digits of a count below `2^64` followed by a unit
letter. -/
theorem parse?_eq_none_iff {s : String} :
    parse? s = none ↔ ¬∃ ds, ∃ u : TimeUnit, s.toList = ds ++ [u.letter] ∧ ds ≠ [] ∧
      (∀ c ∈ ds, c.isDigit = true) ∧ decimalValue ds < Nat.pow 2 64 := by
  rw [Option.eq_none_iff_forall_ne_some]
  constructor
  · rintro h ⟨ds, u, hs, hne, hdigits, hlt⟩
    exact h ⟨decimalValue ds, u, hlt⟩ (parse?_eq_some_iff.2 ⟨ds, hs, hne, hdigits, rfl⟩)
  · intro h r hr
    obtain ⟨ds, hs, hne, hdigits, hvalue⟩ := parse?_eq_some_iff.1 hr
    exact h ⟨ds, r.unit, hs, hne, hdigits, hvalue ▸ r.amount_lt⟩

/-! ## Writing -/

theorem text_toList (r : TimeRange) : r.text.toList = Nat.toDigits 10 r.amount ++ [r.unit.letter] := by
  simp [text, Binary64.digitText]

/-- Every range reads back from its text. -/
theorem parse?_text (r : TimeRange) : parse? r.text = some r :=
  parse?_eq_some_iff.2 ⟨Nat.toDigits 10 r.amount, text_toList r, Nat.toDigits_ne_nil,
    fun _ hc => Nat.isDigit_of_mem_toDigits (by decide) (by decide) hc,
    by rw [← digitsValue_eq_decimalValue, digitsValue_toDigits]⟩

/-- A text that reads as a range is the range's text but for the leading zeros of its count. -/
theorem text_of_parse? {s : String} {r : TimeRange} (h : parse? s = some r) :
    r.text.toList = withoutLeadingZeros s.toList.dropLast ++ [r.unit.letter] := by
  obtain ⟨ds, hs, -, hdigits, hvalue⟩ := parse?_eq_some_iff.1 h
  rw [text_toList, hs, List.dropLast_concat, ← hvalue, ← digitsValue_eq_decimalValue,
    toDigits_digitsValue hdigits]

/-- Time ranges follow their documented grammar and are written canonically: a text reads as a
range exactly when it is nonempty ASCII digits of the count followed by the unit's letter, and as
nothing when no count below `2^64` stands before a unit letter; every range reads back from its
text; and a text that reads is written back without the leading zeros of its count. -/
theorem parse?_follows_grammar :
    (∀ s r, parse? s = some r ↔ ∃ ds, s.toList = ds ++ [r.unit.letter] ∧ ds ≠ [] ∧
        (∀ c ∈ ds, c.isDigit = true) ∧ decimalValue ds = r.amount) ∧
    (∀ s, parse? s = none ↔ ¬∃ ds, ∃ u : TimeUnit, s.toList = ds ++ [u.letter] ∧ ds ≠ [] ∧
        (∀ c ∈ ds, c.isDigit = true) ∧ decimalValue ds < Nat.pow 2 64) ∧
    (∀ r, parse? r.text = some r) ∧
    (∀ s r, parse? s = some r →
        r.text.toList = withoutLeadingZeros s.toList.dropLast ++ [r.unit.letter]) :=
  ⟨fun _ _ => parse?_eq_some_iff, fun _ => parse?_eq_none_iff, parse?_text,
    fun _ _ => text_of_parse?⟩

end TimeRange

end OrphanedCode
