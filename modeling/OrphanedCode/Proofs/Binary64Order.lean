import OrphanedCode.Number.Binary64
import Mathlib
/-!
The order of binary64 values.

Values compare by class first: negative infinity, negative values, zeros, positive values,
positive infinity. Two finite values of one sign then compare by exponent and mantissa, in reverse
for negative ones, and the two zeros are equal; not-a-number compares with nothing. So `≤` on
values other than not-a-number is the lexicographic order of a list of integers that stands for
each: it is reflexive, total and transitive, and two values each below the other are one value or
two zeros.
-/

namespace OrphanedCode.Binary64

open Float.Model

open UnpackedFloat in
/-- Where an unpacked value stands in the order of values: not-a-number nowhere; any other value
at its class, followed for a finite value by its exponent and mantissa, both negated when it is
negative. -/
def orderKey : UnpackedFloat → Option (List Int)
  | .notANumber => none
  | .infinity .negative => some [0]
  | .finite .negative m e _ => some [1, -e, -(m : Int)]
  | .zero _ => some [2]
  | .finite .positive m e _ => some [3, e, m]
  | .infinity .positive => some [4]

theorem compare_natCast (a b : Nat) : compare (a : Int) (b : Int) = compare a b := by
  simp only [compare, compareOfLessAndEq, Int.ofNat_lt, Int.ofNat_inj]

theorem compare_neg (a b : Int) : compare (-a) (-b) = compare b a := by
  have hsame : -a = -b ↔ b = a := by omega
  simp only [compare, compareOfLessAndEq, Int.neg_lt_neg_iff, hsame]

/-- Comparing unpacked values is comparing their keys. -/
theorem compare_eq_orderKey (a b : UnpackedFloat) :
    a.compare b = (orderKey a).bind fun ka => (orderKey b).map fun kb => compare ka kb := by
  rcases a with ⟨_ | _⟩ | _ | ⟨_ | _⟩ | ⟨_ | _, m, e, h⟩ <;>
  rcases b with ⟨_ | _⟩ | _ | ⟨_ | _⟩ | ⟨_ | _, m', e', h'⟩ <;>
  simp [UnpackedFloat.compare, orderKey, List.compare_cons_cons, compare_natCast, compare_neg,
    Ordering.swap_then] <;>
  -- left: comparisons of classes, and of two negative values, whose order is swapped
  first
  | rfl
  | decide
  | rw [Std.OrientedOrd.eq_swap (a := e'), Std.OrientedOrd.eq_swap (a := m')]

theorem le_iff_orderKey {a b : UnpackedFloat} :
    a.le b = true ↔
      ∃ ka kb, orderKey a = some ka ∧ orderKey b = some kb ∧ (compare ka kb).isLE = true := by
  rw [UnpackedFloat.le, compare_eq_orderKey]
  cases orderKey a <;> cases orderKey b <;> simp

theorem unpacked_le_trans {a b c : UnpackedFloat} (hab : a.le b = true) (hbc : b.le c = true) :
    a.le c = true := by
  obtain ⟨ka, kb, hka, hkb, hle⟩ := le_iff_orderKey.1 hab
  obtain ⟨kb', kc, hkb', hkc, hle'⟩ := le_iff_orderKey.1 hbc
  rw [hkb, Option.some.injEq] at hkb'
  subst hkb'
  exact le_iff_orderKey.2 ⟨ka, kc, hka, hkc, Std.TransOrd.isLE_trans hle hle'⟩

theorem le_iff_unpack {a b : Float} : a ≤ b ↔ a.toModel.unpack.le b.toModel.unpack = true := by
  show Float.le a b = true ↔ _
  cases h : a.toModel.unpack.le b.toModel.unpack <;>
    simp [Float.le, LE.le, Float.Model.le, h]

/-- The order of binary64 values is transitive. -/
theorem float_le_trans {a b c : Float} (hab : a ≤ b) (hbc : b ≤ c) : a ≤ c :=
  le_iff_unpack.2 (unpacked_le_trans (le_iff_unpack.1 hab) (le_iff_unpack.1 hbc))

/-! ## Values other than not-a-number

On them `≤` is reflexive and total, `<` is its strict part, and two values below each other are
the same value or two zeros. -/

theorem exists_orderKey {u : UnpackedFloat} (h : u.isNaN = false) : ∃ k, orderKey u = some k := by
  rcases u with ⟨_ | _⟩ | _ | ⟨_ | _⟩ | ⟨_ | _, m, e, hv⟩ <;>
    simp_all [orderKey, UnpackedFloat.isNaN]

theorem lt_iff_orderKey {a b : UnpackedFloat} :
    a.lt b = true ↔
      ∃ ka kb, orderKey a = some ka ∧ orderKey b = some kb ∧ compare ka kb = .lt := by
  rw [UnpackedFloat.lt, compare_eq_orderKey]
  cases orderKey a <;> cases orderKey b <;> simp

theorem lt_iff_unpack {a b : Float} : a < b ↔ a.toModel.unpack.lt b.toModel.unpack = true := by
  show Float.lt a b = true ↔ _
  cases h : a.toModel.unpack.lt b.toModel.unpack <;>
    simp [Float.lt, LT.lt, Float.Model.lt, h]

theorem float_le_refl {a : Float} (h : a.isNaN = false) : a ≤ a := by
  obtain ⟨k, hk⟩ := exists_orderKey h
  exact le_iff_unpack.2 (le_iff_orderKey.2 ⟨k, k, hk, hk, by simp [Std.ReflOrd.compare_self]⟩)

theorem float_le_of_lt {a b : Float} (h : a < b) : a ≤ b := by
  obtain ⟨ka, kb, hka, hkb, hlt⟩ := lt_iff_orderKey.1 (lt_iff_unpack.1 h)
  exact le_iff_unpack.2 (le_iff_orderKey.2 ⟨ka, kb, hka, hkb, by simp [hlt]⟩)

theorem float_le_of_not_lt {a b : Float} (ha : a.isNaN = false) (hb : b.isNaN = false)
    (h : ¬a < b) : b ≤ a := by
  obtain ⟨ka, hka⟩ := exists_orderKey ha
  obtain ⟨kb, hkb⟩ := exists_orderKey hb
  have hnlt : compare ka kb ≠ .lt := fun hlt =>
    h (lt_iff_unpack.2 (lt_iff_orderKey.2 ⟨ka, kb, hka, hkb, hlt⟩))
  refine le_iff_unpack.2 (le_iff_orderKey.2 ⟨kb, ka, hkb, hka, ?_⟩)
  rw [Std.OrientedOrd.eq_swap]
  cases hc : compare ka kb <;> simp_all

theorem orderKey_eq_of_le_of_le {a b : UnpackedFloat} (hab : a.le b = true) (hba : b.le a = true) :
    orderKey a = orderKey b := by
  obtain ⟨ka, kb, hka, hkb, h1⟩ := le_iff_orderKey.1 hab
  obtain ⟨kb', ka', hkb', hka', h2⟩ := le_iff_orderKey.1 hba
  obtain rfl : ka' = ka := Option.some.inj (hka'.symm.trans hka)
  obtain rfl : kb' = kb := Option.some.inj (hkb'.symm.trans hkb)
  rw [hka, hkb, Std.LawfulEqOrd.eq_of_compare (Std.OrientedCmp.isLE_antisymm h1 h2)]

/-- Two values with one place in the order are one value, or two zeros. -/
theorem eq_or_zeros_of_orderKey_eq {a b : UnpackedFloat} (ha : a.isNaN = false)
    (h : orderKey a = orderKey b) : a = b ∨ (∃ s, a = .zero s) ∧ ∃ s, b = .zero s := by
  rcases a with ⟨_ | _⟩ | _ | ⟨_ | _⟩ | ⟨_ | _, m, e, hv⟩ <;>
  rcases b with ⟨_ | _⟩ | _ | ⟨_ | _⟩ | ⟨_ | _, m', e', hv'⟩ <;>
  simp_all [orderKey, UnpackedFloat.isNaN]

/-- Two values each below the other are one value, or two zeros. -/
theorem float_eq_or_zeros_of_le_of_le {a b : Float} (ha : a.isNaN = false) (hab : a ≤ b)
    (hba : b ≤ a) :
    a.toModel.unpack = b.toModel.unpack ∨
      (∃ s, a.toModel.unpack = .zero s) ∧ ∃ s, b.toModel.unpack = .zero s :=
  eq_or_zeros_of_orderKey_eq ha (orderKey_eq_of_le_of_le (le_iff_unpack.1 hab) (le_iff_unpack.1 hba))

end OrphanedCode.Binary64
