import OrphanedCode.Source.Path
import OrphanedCode.Proofs.Text
import Mathlib.Data.List.Basic
/-!
The order of paths.

Components compare by kind, the root first, then the current directory, the parent and the named
components, which compare as text; paths compare by their components, the first difference
deciding and a prefix first. Both orders are total preorders, and two paths compare equal exactly
when they have the same components. A path written as a root and names below it, none of them
empty, `.` or `..` or holding a slash, has the root's components and then one named component per
name; so two such paths under one root compare equal only when they are the same path.
-/

namespace OrphanedCode.SourcePath

/-! ## Components -/

namespace Component

theorem compare_swap (a b : Component) : a.compare b = (b.compare a).swap := by
  cases a <;> cases b
  case normal.normal x y => exact Std.OrientedOrd.eq_swap
  all_goals rfl

instance : Std.TransCmp Component.compare where
  eq_swap := compare_swap _ _
  isLE_trans {a b c} hab hbc := by
    cases a <;> cases b <;> cases c
    case normal.normal.normal x y z => exact Std.TransOrd.isLE_trans hab hbc
    -- the others compare by kind, on numbers
    all_goals simp_all [Component.compare, Component.rank, Ord.compare, compareOfLessAndEq]

instance : Std.LawfulEqCmp Component.compare where
  compare_self {a} := by
    cases a
    case normal x => exact Std.ReflOrd.compare_self
    all_goals rfl
  eq_of_compare {a b} h := by
    cases a <;> cases b
    case normal.normal x y => rw [Std.LawfulEqOrd.eq_of_compare h]
    all_goals simp_all [Component.compare, Component.rank, Ord.compare, compareOfLessAndEq]

end Component

/-! ## Paths -/

theorem compareComponents_eq_compareLex (as bs : List Component) :
    compareComponents as bs = List.compareLex Component.compare as bs := by
  induction as generalizing bs with
  | nil => cases bs <;> rfl
  | cons a as ih =>
    cases bs with
    | nil => rfl
    | cons b bs =>
      rw [compareComponents, List.compareLex_cons_cons, ← ih]
      cases a.compare b <;> rfl

theorem compare_eq_compareLex (p q : String) :
    SourcePath.compare p q = List.compareLex Component.compare (components p) (components q) :=
  compareComponents_eq_compareLex _ _

theorem compare_swap (p q : String) :
    SourcePath.compare p q = (SourcePath.compare q p).swap := by
  rw [compare_eq_compareLex, compare_eq_compareLex]
  exact Std.OrientedCmp.eq_swap

theorem compare_self (p : String) : SourcePath.compare p p = .eq := by
  rw [compare_eq_compareLex]
  exact Std.ReflCmp.compare_self

instance : Std.TransCmp SourcePath.compare where
  eq_swap := compare_swap _ _
  isLE_trans {p q r} hpq hqr := by
    rw [compare_eq_compareLex] at *
    exact Std.TransCmp.isLE_trans hpq hqr

/-- Two paths compare equal exactly when they have the same components. -/
theorem compare_eq_eq_iff {p q : String} :
    SourcePath.compare p q = .eq ↔ components p = components q := by
  rw [compare_eq_compareLex]
  exact Std.LawfulEqCmp.compare_eq_iff_eq

/-! ## A root and names below it -/

/-- A name that stands for one named component of a path. -/
def IsComponentName (n : String) : Prop :=
  '/' ∉ n.toList ∧ n ≠ "" ∧ n ≠ "." ∧ n ≠ ".."

theorem splitChars_join (root : String) {names : List String} (hne : names ≠ [])
    (hnames : ∀ n ∈ names, '/' ∉ n.toList) :
    Text.splitChars '/' ("/".intercalate (root :: names)).toList =
      Text.splitChars '/' root.toList ++ names.map String.toList := by
  have hlist : ("/".intercalate (root :: names)).toList =
      root.toList ++ '/' :: List.intercalate ['/'] (names.map String.toList) := by
    simp only [String.toList_intercalate, List.map_cons]
    rw [List.intercalate_cons_of_ne_nil (by simpa using hne)]
    simp
  rw [hlist, Text.splitChars_eq_splitOn, List.splitOn_append_cons_self,
    ← Text.splitChars_eq_splitOn, ← Text.splitChars_eq_splitOn,
    Text.splitChars_intercalate '/' (by simpa using hnames) (by simpa using hne)]

theorem splitChars_slash (root : String) :
    Text.splitChars '/' (root ++ "/").toList = Text.splitChars '/' root.toList ++ [[]] := by
  rw [String.toList_append, show "/".toList = ['/'] from rfl, Text.splitChars_eq_splitOn,
    List.splitOn_append_cons_self, ← Text.splitChars_eq_splitOn]
  rfl

/-- A name of a named component is one piece of a path that stands for itself. -/
theorem piece_of_isComponentName {n : String} (h : IsComponentName n) :
    (if (n.toList.isEmpty || n.toList == ['.']) = true then none
      else if (n.toList == ['.', '.']) = true then some Component.parent
      else some (Component.normal (String.ofList n.toList))) = some (.normal n) := by
  obtain ⟨-, hne, hdot, hdots⟩ := h
  have hne' : n.toList ≠ [] := fun e => hne (String.toList_eq_nil_iff.1 e)
  have hdot' : n.toList ≠ ['.'] := fun e => hdot (String.toList_inj.1 (e.trans rfl))
  have hdots' : n.toList ≠ ['.', '.'] := fun e => hdots (String.toList_inj.1 (e.trans rfl))
  simp [List.isEmpty_iff, hne', hdot', hdots']

/-- The components of a root and names below it: the root's, then one named component per name. -/
theorem components_join (root : String) {names : List String} (hne : names ≠ [])
    (hnames : ∀ n ∈ names, IsComponentName n) :
    components ("/".intercalate (root :: names)) = components (root ++ "/") ++ names.map .normal := by
  have hlist : ("/".intercalate (root :: names)).toList =
      root.toList ++ '/' :: List.intercalate ['/'] (names.map String.toList) := by
    simp only [String.toList_intercalate, List.map_cons]
    rw [List.intercalate_cons_of_ne_nil (by simpa using hne)]
    simp
  have hroot : (root ++ "/").toList = root.toList ++ ['/'] := by simp
  dsimp only [components]
  rw [splitChars_join root hne (fun n hn => (hnames n hn).1), splitChars_slash,
    List.filterMap_append, List.filterMap_append]
  simp only [List.filterMap_map, Function.comp_def]
  rw [List.filterMap_eq_map_iff_forall_eq_some.2 fun n hn => piece_of_isComponentName (hnames n hn),
    hlist, hroot]
  simp only [List.filterMap_cons, List.filterMap_nil, List.isEmpty_nil, Bool.true_or, if_true,
    List.append_nil, List.append_assoc]
  -- how the path begins is read off its first two characters, which the root decides
  generalize root.toList = r
  generalize List.intercalate ['/'] (names.map String.toList) = rest
  have hhead : (r ++ '/' :: rest).head? = (r ++ ['/']).head? := by cases r <;> rfl
  have hdot : (r ++ '/' :: rest == ['.']) = (r ++ ['/'] == ['.']) := by
    rcases r with _ | ⟨c, _ | ⟨d, r⟩⟩ <;> simp
  have htake : (List.take 2 (r ++ '/' :: rest) == ['.', '/']) =
      (List.take 2 (r ++ ['/']) == ['.', '/']) := by
    rcases r with _ | ⟨c, _ | ⟨d, r⟩⟩ <;> simp
  rw [hhead, hdot, htake]

end OrphanedCode.SourcePath
