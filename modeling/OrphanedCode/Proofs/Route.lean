import OrphanedCode.Route.Normalize
import OrphanedCode.Proofs.Text
import Mathlib.Data.List.Forall2
/-!
Route keys as normal forms. A stripped path (no query or fragment mark, and no trailing slash unless
it is one byte long) is left alone by stripping. A segment rule that turns non-empty segments into
non-empty ones and brings in no `/`, `?` or `#` keeps the layout of a stripped path: the rewritten
path is stripped again, with the rewritten segments as its segments. Both rules of the library do
so, and each rewrites a segment into one it leaves alone. So each of the three forms of a path is
reached in one step, and a usage aggregated under the resource form of a path has the canonical key
of the path itself.
-/

namespace OrphanedCode.Route

open Text

/-! ## Stripped paths -/

/-- A path as stripping leaves it: no `?` and no `#`, and no trailing slash unless it is at most
one byte long. -/
def Stripped (cs : List Char) : Prop :=
  '?' ∉ cs ∧ '#' ∉ cs ∧ (1 < byteLength cs → cs.getLast? ≠ some '/')

theorem beforeQuery_of_not_mem {cs : List Char} (hq : '?' ∉ cs) (hh : '#' ∉ cs) :
    beforeQuery cs = cs := by
  rw [beforeQuery, List.takeWhile_eq_self_iff]
  intro c hc
  have h1 : c ≠ '?' := fun h => hq (h ▸ hc)
  have h2 : c ≠ '#' := fun h => hh (h ▸ hc)
  simp [h1, h2]

/-- What follows a query or fragment mark is cut away. -/
theorem beforeQuery_append {cs tail : List Char} (hq : '?' ∉ cs) (hh : '#' ∉ cs)
    (htail : tail = [] ∨ tail.head? = some '?' ∨ tail.head? = some '#') :
    beforeQuery (cs ++ tail) = cs := by
  have hcut : tail.takeWhile (fun c => c != '?' && c != '#') = [] := by
    rcases htail with rfl | h | h <;>
      [rfl; obtain ⟨t, rfl⟩ := List.head?_eq_some_iff.1 h; obtain ⟨t, rfl⟩ := List.head?_eq_some_iff.1 h] <;>
      simp
  rw [beforeQuery, List.takeWhile_append_of_pos, hcut, List.append_nil]
  intro c hc
  have h1 : c ≠ '?' := fun h => hq (h ▸ hc)
  have h2 : c ≠ '#' := fun h => hh (h ▸ hc)
  simp [h1, h2]

theorem dropTrailingSlashes_of_getLast {cs : List Char} (h : cs.getLast? ≠ some '/') :
    dropTrailingSlashes cs = cs := by
  rw [dropTrailingSlashes]
  rcases hr : cs.reverse with _ | ⟨c, r⟩
  · simp [List.reverse_eq_nil_iff.1 hr]
  · have hc : c ≠ '/' := by
      rintro rfl
      rw [← List.head?_reverse, hr] at h
      exact h rfl
    rw [List.dropWhile_cons_of_neg (by simpa using hc), ← hr, List.reverse_reverse]

/-- Stripping leaves a stripped path alone. -/
theorem strip_of_stripped {cs : List Char} (h : Stripped cs) : strip cs = cs := by
  obtain ⟨hq, hh, hl⟩ := h
  rw [strip, beforeQuery_of_not_mem hq hh]
  split
  · exact dropTrailingSlashes_of_getLast (hl ‹_›)
  · rfl

/-- A stripped path followed by a query or a fragment strips to itself. -/
theorem strip_append_query {cs tail : List Char} (h : Stripped cs)
    (htail : tail = [] ∨ tail.head? = some '?' ∨ tail.head? = some '#') :
    strip (cs ++ tail) = cs := by
  have hstrip := strip_of_stripped h
  rw [strip, beforeQuery_of_not_mem h.1 h.2.1] at hstrip
  rw [strip, beforeQuery_append h.1 h.2.1 htail]
  exact hstrip

theorem getLast?_dropTrailingSlashes (cs : List Char) :
    (dropTrailingSlashes cs).getLast? ≠ some '/' := by
  rw [dropTrailingSlashes, List.getLast?_reverse]
  have := List.head?_dropWhile_not (· == '/') cs.reverse
  split at this
  · rename_i x hx
    rw [hx]; simpa using this
  · rename_i hx
    rw [hx]; simp

theorem stripped_strip (cs : List Char) : Stripped (strip cs) := by
  have hmem : ∀ x ∈ strip cs, x ≠ '?' ∧ x ≠ '#' := by
    intro x hx
    have hx : x ∈ beforeQuery cs := by
      rw [strip] at hx
      split at hx
      · exact List.mem_reverse.1 ((List.dropWhile_sublist _).subset (List.mem_reverse.1 hx))
      · exact hx
    simpa using List.mem_takeWhile_imp hx
  refine ⟨fun h => (hmem _ h).1 rfl, fun h => (hmem _ h).2 rfl, fun hb => ?_⟩
  rw [strip] at hb ⊢
  split
  · exact getLast?_dropTrailingSlashes _
  · rename_i hn
    rw [if_neg hn] at hb
    exact absurd hb hn

/-! ## Joined segments -/

/-- A join of pieces without slashes ends in a slash exactly when there are two pieces or more and
the last is empty. -/
theorem getLast?_join_eq_slash {ts : List (List Char)} (h : ∀ t ∈ ts, '/' ∉ t) :
    (join ts).getLast? = some '/' ↔ ∃ t rest, ts.reverse = [] :: t :: rest := by
  have hlast : ∀ l ∈ ts, l.getLast? ≠ some '/' := fun l hl hend =>
    h l hl (List.mem_of_getLast? hend)
  rcases hr : ts.reverse with _ | ⟨l, _ | ⟨t, rest⟩⟩
  · rw [List.reverse_eq_nil_iff.1 hr]; simp [join]
  · rw [← List.reverse_reverse ts, hr] at hlast ⊢
    simpa [join] using hlast l (by simp)
  · have hts : ts = (rest.reverse ++ [t]) ++ [l] := by
      rw [← List.reverse_reverse ts, hr]; simp
    have hl : l ∈ ts := by rw [hts]; simp
    rw [hts, join, intercalate_concat '/' l (by simp), List.getLast?_append]
    rcases List.eq_nil_or_concat l with rfl | ⟨i, c, rfl⟩
    · simp
    · have hc := hlast _ hl
      simp only [List.concat_eq_append, List.getLast?_append, List.getLast?_singleton,
        Option.some_or] at hc ⊢
      simp only [Option.some.injEq, reduceCtorEq, List.cons.injEq, List.append_eq_nil_iff,
        and_false, false_and, exists_const, iff_false]
      exact fun h' => hc (congrArg some h')

/-- Pieces laid out like the segments `segs`: as many, empty exactly where a segment is empty, and
free of `/`, `?` and `#`. -/
def SameLayout (segs ts : List (List Char)) : Prop :=
  List.Forall₂ (fun s t => (s = [] ↔ t = []) ∧ '/' ∉ t ∧ '?' ∉ t ∧ '#' ∉ t) segs ts

section Layout

variable {S : List Char} {ts : List (List Char)}

theorem SameLayout.not_mem {segs : List (List Char)} (h : SameLayout segs ts) {t : List Char}
    (ht : t ∈ ts) : '/' ∉ t ∧ '?' ∉ t ∧ '#' ∉ t := by
  induction h with
  | nil => simp at ht
  | cons hst _ ih =>
    rcases List.mem_cons.1 ht with rfl | ht
    · exact hst.2
    · exact ih ht

/-- The same layout ends in an empty piece after another piece exactly when the segments do. -/
theorem SameLayout.ends_empty_iff (h : SameLayout (segments S) ts) :
    (∃ t rest, ts.reverse = [] :: t :: rest) ↔ ∃ s rest, (segments S).reverse = [] :: s :: rest := by
  have hrev := List.forall₂_reverse_iff.2 h
  generalize (segments S).reverse = a at hrev
  generalize ts.reverse = b at hrev
  rcases hrev with _ | ⟨⟨hnil, -⟩, _ | ⟨-, -⟩⟩
  · simp
  · simp
  · simp [hnil]

/-- Pieces in the layout of a stripped path join into a stripped path. -/
theorem stripped_join (hS : Stripped S) (h : SameLayout (segments S) ts) : Stripped (join ts) := by
  have hnot : ∀ x, x ≠ '/' → (∀ t ∈ ts, x ∉ t) → x ∉ join ts := by
    intro x hx hts hmem
    rcases mem_intercalate hmem with h' | ⟨t, ht, hxt⟩
    · exact hx h'
    · exact hts t ht hxt
  refine ⟨hnot '?' (by decide) fun t ht => (h.not_mem ht).2.1,
    hnot '#' (by decide) fun t ht => (h.not_mem ht).2.2, fun hb hend => ?_⟩
  -- the join ends in a slash, so the path does, so the path is `/` and the join is `/` too
  have hS_end : S.getLast? = some '/' := by
    have hsegs : ∀ s ∈ segments S, '/' ∉ s := fun s hs => not_mem_of_mem_splitChars hs
    rw [← intercalate_splitChars '/' S]
    exact (getLast?_join_eq_slash hsegs).2
      (h.ends_empty_iff.1 ((getLast?_join_eq_slash fun t ht => (h.not_mem ht).1).1 hend))
  have hS_one : S = ['/'] := by
    have hle : byteLength S ≤ 1 := by
      by_contra hgt
      exact hS.2.2 (by omega) hS_end
    obtain ⟨init, rfl⟩ := List.getLast?_eq_some_iff.1 hS_end
    cases init with
    | nil => rfl
    | cons c init =>
      have := Char.utf8Size_pos c
      have := Char.utf8Size_pos '/'
      simp at hle; omega
  subst hS_one
  have hts : ts = [[], []] := by
    obtain _ | ⟨⟨h1, -⟩, _ | ⟨⟨h2, -⟩, h3⟩⟩ := h
    rw [List.forall₂_nil_left_iff.1 h3, h1.1 rfl, h2.1 rfl]
  subst hts
  exact absurd hb (by decide)

/-- Cutting the join of pieces in the layout of a path's segments gives the pieces back. -/
theorem segments_join (h : SameLayout (segments S) ts) : segments (join ts) = ts := by
  apply splitChars_intercalate '/' fun t ht => (h.not_mem ht).1
  rintro rfl
  exact splitChars_ne_nil '/' S (List.forall₂_nil_right_iff.1 h)

end Layout

/-! ## Segments rewritten one by one -/

/-- The segments of a path with each non-empty one rewritten by `rule`, which also learns whether
the segment is the last one. -/
def rewrite (rule : List Char → Bool → List Char) (segs : List (List Char)) : List (List Char) :=
  segs.mapIdx fun i s => if s.isEmpty then [] else rule s (i + 1 == segs.length)

theorem mapSegments_eq (rule : List Char → Bool → List Char) (cs : List Char) :
    mapSegments rule cs = join (rewrite rule (segments (strip cs))) := rfl

@[simp] theorem length_rewrite (rule : List Char → Bool → List Char) (segs : List (List Char)) :
    (rewrite rule segs).length = segs.length :=
  List.length_mapIdx

/-- A segment rule that keeps the layout of a path: it rewrites a non-empty segment into a
non-empty one, and a character it writes comes from the segment or is none of `/`, `?`, `#`. -/
structure KeepsLayout (rule : List Char → Bool → List Char) : Prop where
  ne_nil : ∀ {s} b, s ≠ [] → rule s b ≠ []
  mem : ∀ {s b x}, x ∈ rule s b → x ∈ s ∨ (x ≠ '/' ∧ x ≠ '?' ∧ x ≠ '#')

/-- One rule after another keeps the layout when each does. -/
theorem KeepsLayout.comp {r₁ r₂ : List Char → Bool → List Char} (h₁ : KeepsLayout r₁)
    (h₂ : KeepsLayout r₂) : KeepsLayout fun s b => r₂ (r₁ s b) b where
  ne_nil b hs := h₂.ne_nil b (h₁.ne_nil b hs)
  mem hx := (h₂.mem hx).elim h₁.mem .inr

section Rewrite

variable {rule : List Char → Bool → List Char}

/-- The rewritten segments of a stripped path are in its layout. -/
theorem sameLayout_rewrite (h : KeepsLayout rule) {S : List Char} (hS : Stripped S) :
    SameLayout (segments S) (rewrite rule (segments S)) := by
  have hsep : ∀ s ∈ segments S, '/' ∉ s ∧ '?' ∉ s ∧ '#' ∉ s := fun s hs =>
    ⟨not_mem_of_mem_splitChars hs, fun hq => hS.1 (mem_of_mem_splitChars hs hq),
      fun hh => hS.2.1 (mem_of_mem_splitChars hs hh)⟩
  refine List.forall₂_of_length_eq_of_get (by simp [rewrite]) fun i h₁ h₂ => ?_
  simp only [List.get_eq_getElem, rewrite, List.getElem_mapIdx]
  have hs := hsep _ (List.getElem_mem h₁)
  split
  · rename_i he
    simp [List.isEmpty_iff.1 he]
  · rename_i he
    have hne : (segments S)[i] ≠ [] := fun h' => he (List.isEmpty_iff.2 h')
    refine ⟨iff_of_false hne (h.ne_nil _ hne), ?_, ?_, ?_⟩ <;> intro hx <;>
      rcases h.mem hx with hx | ⟨h1, h2, h3⟩
    exacts [hs.1 hx, h1 rfl, hs.2.1 hx, h2 rfl, hs.2.2 hx, h3 rfl]

/-- A rule applied to the segments of a path that a rule keeping the layout has rewritten. -/
theorem mapSegments_join_rewrite (h : KeepsLayout rule) {S : List Char} (hS : Stripped S)
    (rule' : List Char → Bool → List Char) :
    mapSegments rule' (join (rewrite rule (segments S))) =
      join (rewrite rule' (rewrite rule (segments S))) := by
  have hl := sameLayout_rewrite h hS
  rw [mapSegments_eq, strip_of_stripped (stripped_join hS hl), segments_join hl]

/-- Two rewrites are one rewrite by the two rules in turn. -/
theorem rewrite_rewrite (h : KeepsLayout rule) (rule' : List Char → Bool → List Char)
    (segs : List (List Char)) :
    rewrite rule' (rewrite rule segs) = rewrite (fun s b => rule' (rule s b) b) segs := by
  simp only [rewrite, List.length_mapIdx, List.mapIdx_mapIdx]
  rw [List.mapIdx_eq_mapIdx_iff]
  intro i hi
  simp only [Function.comp_apply]
  split
  · simp
  · rename_i he
    have hne : rule segs[i] (i + 1 == segs.length) ≠ [] := h.ne_nil _ fun h' => he (by simp [h'])
    simp [hne]

theorem rewrite_congr {rule' : List Char → Bool → List Char}
    (h : ∀ s b, s ≠ [] → rule s b = rule' s b) (segs : List (List Char)) :
    rewrite rule segs = rewrite rule' segs := by
  simp only [rewrite]
  rw [List.mapIdx_eq_mapIdx_iff]
  intro i hi
  split
  · rfl
  · rename_i he
    exact h _ _ fun h' => he (by simp [h'])

/-- Rewriting the segments of a path twice with rules that keep its layout is rewriting them once
with the two rules in turn. -/
theorem mapSegments_mapSegments (h : KeepsLayout rule) (rule' : List Char → Bool → List Char)
    (cs : List Char) :
    mapSegments rule' (mapSegments rule cs) =
      join (rewrite (fun s b => rule' (rule s b) b) (segments (strip cs))) := by
  rw [mapSegments_eq rule, mapSegments_join_rewrite h (stripped_strip cs), rewrite_rewrite h]

end Rewrite

/-! ## The resource rule -/

theorem resourceSegment_cases (s : List Char) :
    resourceSegment s = idText ∨ resourceSegment s = uuidText ∨
      resourceSegment s = objectIdText ∨ resourceSegment s = s := by
  unfold resourceSegment
  split_ifs <;> simp

/-- The resource rule rewrites a segment into a fixed point of itself. -/
theorem resourceSegment_resourceSegment (s : List Char) :
    resourceSegment (resourceSegment s) = resourceSegment s := by
  rcases resourceSegment_cases s with h | h | h | h <;> rw [h]
  · decide
  · decide
  · decide
  · exact h

theorem not_separator_of_all {t : List Char}
    (h : (t.all fun y => y != '/' && y != '?' && y != '#') = true) :
    ∀ y ∈ t, y ≠ '/' ∧ y ≠ '?' ∧ y ≠ '#' := by
  intro y hy
  simpa [and_assoc] using List.all_eq_true.1 h y hy

theorem keepsLayout_resource : KeepsLayout fun s (_ : Bool) => resourceSegment s where
  ne_nil _ hs := by
    rcases resourceSegment_cases _ with h | h | h | h <;> rw [h]
    · decide
    · decide
    · decide
    · exact hs
  mem {s _ x} hx := by
    have hid : ∀ y ∈ idText, y ≠ '/' ∧ y ≠ '?' ∧ y ≠ '#' := not_separator_of_all (by decide)
    have huuid : ∀ y ∈ uuidText, y ≠ '/' ∧ y ≠ '?' ∧ y ≠ '#' := not_separator_of_all (by decide)
    have hobj : ∀ y ∈ objectIdText, y ≠ '/' ∧ y ≠ '?' ∧ y ≠ '#' :=
      not_separator_of_all (by decide)
    rcases resourceSegment_cases s with h | h | h | h <;> rw [h] at hx
    · exact .inr (hid x hx)
    · exact .inr (huuid x hx)
    · exact .inr (hobj x hx)
    · exact .inl hx

/-- No UUID starts with a character that is no hexadecimal digit: its first group stands first. -/
theorem isUuid_cons {x : Char} (hx : isHexDigit x = false) (r : List Char) :
    isUuid (x :: r) = false := by
  have hfirst : ∀ a rest, splitChars '-' (x :: r) = a :: rest → a.all isHexDigit = false ∨ a = [] := by
    intro a rest hsplit
    have hhead := head_splitChars '-' (x :: r)
    rw [hsplit] at hhead
    simp only [List.head?_cons, Option.getD_some] at hhead
    by_cases hxd : x = '-'
    · subst hxd
      exact .inr (by simpa using hhead)
    · rw [hhead, List.takeWhile_cons_of_pos (by simpa using hxd)]
      exact .inl (by simp [hx])
  unfold isUuid
  split
  · rename_i a b c d e hsplit
    rcases hfirst a _ hsplit with h | rfl
    · simp [h]
    · simp
  · simp

/-- The resource rule leaves alone a segment that starts with no hexadecimal digit. -/
theorem resourceSegment_cons {x : Char} (hx : isHexDigit x = false) (r : List Char) :
    resourceSegment (x :: r) = x :: r := by
  have hdigit : x.isDigit = false := by
    revert hx; unfold isHexDigit; cases x.isDigit <;> simp
  simp [resourceSegment, isNumeric, isObjectId, isUuid_cons hx, hdigit, hx]

/-! ## The route rule -/

/-- The route rule keeps a segment, turns a last segment into `*`, or writes `:param` before a
suffix of the segment that does not start with a name character. -/
theorem routeSegment_cases (s : List Char) (b : Bool) :
    routeSegment s b = s ∨ (b = true ∧ routeSegment s b = ['*']) ∨
      ∃ t, t <:+ s ∧ (∀ c ∈ t.head?, isNameChar c = false) ∧ routeSegment s b = paramText ++ t := by
  -- what a segment becomes when it is no named placeholder
  have hwrapped : (if isWrapped s '{' '}' || isWrapped s '<' '>' then paramText else s) = s ∨
      ∃ t, t <:+ s ∧ (∀ c ∈ t.head?, isNameChar c = false) ∧
        (if isWrapped s '{' '}' || isWrapped s '<' '>' then paramText else s) = paramText ++ t := by
    split
    · exact .inr ⟨[], List.nil_suffix, by simp, by simp⟩
    · exact .inl rfl
  unfold routeSegment
  dsimp only
  generalize (if isWrapped s '{' '}' || isWrapped s '<' '>' then paramText else s) = w at hwrapped ⊢
  split
  · rename_i hstar
    simp only [Bool.and_eq_true, beq_iff_eq] at hstar
    exact .inr (.inl ⟨hstar.1, rfl⟩)
  · split
    · rename_i rest _
      split
      · have hdrop := @List.drop_left _ (rest.takeWhile isNameChar) (rest.dropWhile isNameChar)
        rw [List.takeWhile_append_dropWhile] at hdrop
        refine .inr (.inr ⟨_, (List.drop_suffix _ _).trans (List.suffix_cons _ _), ?_, rfl⟩)
        intro c hc
        have := List.head?_dropWhile_not isNameChar rest
        rw [← hdrop, Option.mem_def.1 hc] at this
        simpa using this
      · rcases hwrapped with h | h
        · exact .inl h
        · exact .inr (.inr h)
    · rcases hwrapped with h | h
      · exact .inl h
      · exact .inr (.inr h)

/-- `:param` before a text that does not start with a name character is a fixed point of the
route rule. -/
theorem routeSegment_paramText (t : List Char) (ht : ∀ c ∈ t.head?, isNameChar c = false)
    (b : Bool) : routeSegment (paramText ++ t) b = paramText ++ t := by
  have hname : t.takeWhile isNameChar = [] := by
    cases t with
    | nil => rfl
    | cons c t => exact List.takeWhile_cons_of_neg (by simpa using ht c rfl)
  simp [routeSegment, paramText, isNameChar, Text.isAlphanumeric, hname]

/-- The route rule rewrites a segment into a fixed point of itself. -/
theorem routeSegment_routeSegment (s : List Char) (b : Bool) :
    routeSegment (routeSegment s b) b = routeSegment s b := by
  rcases routeSegment_cases s b with h | ⟨rfl, h⟩ | ⟨t, -, ht, h⟩ <;> rw [h]
  · exact h
  · rfl
  · exact routeSegment_paramText t ht b

theorem keepsLayout_route : KeepsLayout routeSegment where
  ne_nil b hs := by
    rcases routeSegment_cases _ b with h | ⟨-, h⟩ | ⟨t, -, -, h⟩ <;> rw [h]
    · exact hs
    · simp
    · simp [paramText]
  mem {s b x} hx := by
    have hparam : ∀ y ∈ paramText, y ≠ '/' ∧ y ≠ '?' ∧ y ≠ '#' := not_separator_of_all (by decide)
    rcases routeSegment_cases s b with h | ⟨-, h⟩ | ⟨t, hts, -, h⟩ <;> rw [h] at hx
    · exact .inl hx
    · simp only [List.mem_singleton] at hx
      subst hx
      exact .inr (by decide)
    · rcases List.mem_append.1 hx with hx | hx
      · exact .inr (hparam x hx)
      · exact .inl (hts.subset hx)

/-- What the route rule writes is left alone by the resource rule, when the segment was. -/
theorem resourceSegment_routeSegment {s : List Char} (hs : resourceSegment s = s) (b : Bool) :
    resourceSegment (routeSegment s b) = routeSegment s b := by
  rcases routeSegment_cases s b with h | ⟨-, h⟩ | ⟨t, -, -, h⟩ <;> rw [h]
  · exact hs
  · exact resourceSegment_cons (by decide) []
  · exact resourceSegment_cons (by decide) _

/-! ## Normal forms -/

/-- The rule of the canonical key on one segment: identifiers replaced, then placeholders. -/
def keySegment (s : List Char) (b : Bool) : List Char :=
  routeSegment (resourceSegment s) b

theorem keepsLayout_key : KeepsLayout keySegment :=
  keepsLayout_resource.comp keepsLayout_route

theorem keySegment_keySegment (s : List Char) (b : Bool) :
    keySegment (keySegment s b) b = keySegment s b := by
  unfold keySegment
  rw [resourceSegment_routeSegment (resourceSegment_resourceSegment s), routeSegment_routeSegment]

/-- The canonical key of a path, segment by segment. -/
theorem canonical_toList (p : String) :
    (canonical p).toList = join (rewrite keySegment (segments (strip p.toList))) := by
  rw [canonical, normalizeRoute, normalizeResource, String.toList_ofList, String.toList_ofList,
    mapSegments_mapSegments keepsLayout_resource]
  rfl

/-- The canonical key of a path has as many segments as the stripped path. -/
theorem length_segments_canonical (p : String) :
    (segments (canonical p).toList).length = (segments (strip p.toList)).length := by
  rw [canonical_toList, segments_join (sameLayout_rewrite keepsLayout_key (stripped_strip _)),
    length_rewrite]

/-- Replacing identifiers twice is replacing them once. -/
theorem normalizeResource_normalizeResource (p : String) :
    normalizeResource (normalizeResource p) = normalizeResource p := by
  rw [normalizeResource, normalizeResource, String.toList_ofList,
    mapSegments_mapSegments keepsLayout_resource,
    rewrite_congr fun s _ _ => resourceSegment_resourceSegment s, mapSegments_eq]

/-- Replacing placeholders twice is replacing them once. -/
theorem normalizeRoute_normalizeRoute (p : String) :
    normalizeRoute (normalizeRoute p) = normalizeRoute p := by
  rw [normalizeRoute, normalizeRoute, String.toList_ofList,
    mapSegments_mapSegments keepsLayout_route,
    rewrite_congr fun s b _ => routeSegment_routeSegment s b, mapSegments_eq]

/-- Taking the canonical key twice is taking it once. -/
theorem canonical_canonical (p : String) : canonical (canonical p) = canonical p := by
  have hS := stripped_strip p.toList
  have hl := sameLayout_rewrite keepsLayout_key hS
  apply String.toList_inj.1
  rw [canonical_toList (canonical p), canonical_toList p, strip_of_stripped (stripped_join hS hl),
    segments_join hl, rewrite_rewrite keepsLayout_key,
    rewrite_congr fun s b _ => keySegment_keySegment s b]

/-- The canonical key of a path does not change when identifiers were replaced first. -/
theorem canonical_normalizeResource (p : String) : canonical (normalizeResource p) = canonical p := by
  rw [canonical, canonical, normalizeResource_normalizeResource]

/-- The three forms of a path are normal forms: replacing identifiers, replacing placeholders and
taking the canonical key each change nothing the second time, and the resource form of a path has
the canonical key of the path. -/
theorem route_forms_are_normal (p : String) :
    normalizeResource (normalizeResource p) = normalizeResource p ∧
      normalizeRoute (normalizeRoute p) = normalizeRoute p ∧
      canonical (canonical p) = canonical p ∧ canonical (normalizeResource p) = canonical p :=
  ⟨normalizeResource_normalizeResource p, normalizeRoute_normalizeRoute p, canonical_canonical p,
    canonical_normalizeResource p⟩

end OrphanedCode.Route
