import OrphanedCode.Proofs.Route
/-!
Declared routes meet the paths that answer them. A route's segments are literals or placeholders
(`:name`, `{…}`, `<…>`); a requested path answers the route when it has the same segments with an
identifier in place of a placeholder (a run of digits, a UUID or a 24-digit hexadecimal object id),
followed by any query or fragment. Both then have one canonical key: a literal segment is rewritten
alike on the two sides, since it stands at the same place, and a placeholder and an identifier both
become `:param`. The canonical key also keeps the number of segments, so paths with different
numbers of segments never meet.
-/

namespace OrphanedCode.Route

open Text

/-! ## Placeholders and identifiers -/

/-- A placeholder segment of a declared route: a colon before a non-empty name of alphanumeric
characters and underscores, or a non-empty text in braces or in angle brackets. -/
inductive Placeholder : List Char → Prop
  | named {name : List Char} : name ≠ [] → (∀ c ∈ name, isNameChar c = true) →
      Placeholder (':' :: name)
  | braced {inner : List Char} : inner ≠ [] → Placeholder ('{' :: inner ++ ['}'])
  | angled {inner : List Char} : inner ≠ [] → Placeholder ('<' :: inner ++ ['>'])

/-- An identifier that a requested path carries in place of a placeholder: a non-empty run of ASCII
digits, a UUID (hexadecimal groups of 8, 4, 4, 4 and 12 digits joined by hyphens), or 24
hexadecimal digits. -/
inductive Identifier : List Char → Prop
  | number {s : List Char} : s ≠ [] → (∀ c ∈ s, c.isDigit = true) → Identifier s
  | uuid {a b c d e : List Char} : a.length = 8 → b.length = 4 → c.length = 4 → d.length = 4 →
      e.length = 12 → (∀ x ∈ a ++ b ++ c ++ d ++ e, isHexDigit x = true) →
      Identifier (a ++ '-' :: b ++ '-' :: c ++ '-' :: d ++ '-' :: e)
  | objectId {s : List Char} : s.length = 24 → (∀ c ∈ s, isHexDigit c = true) → Identifier s

/-- A segment of a requested path answers a segment of a route when it is the same text, or an
identifier in place of a placeholder. -/
def Answers (t c : List Char) : Prop :=
  c = t ∨ (Placeholder t ∧ Identifier c)

theorem Placeholder.ne_nil {t : List Char} (h : Placeholder t) : t ≠ [] := by
  cases h <;> simp

theorem isHexDigit_of_isDigit {c : Char} (h : c.isDigit = true) : isHexDigit c = true := by
  simp [isHexDigit, h]

theorem Identifier.ne_nil {c : List Char} (h : Identifier c) : c ≠ [] := by
  cases h with
  | number hne _ => exact hne
  | uuid ha => intro h; simp_all
  | objectId hl => rintro rfl; simp at hl

/-- An identifier is made of hexadecimal digits and hyphens. -/
theorem Identifier.mem {c : List Char} (h : Identifier c) {x : Char} (hx : x ∈ c) :
    isHexDigit x = true ∨ x = '-' := by
  cases h with
  | number _ hd => exact .inl (isHexDigit_of_isDigit (hd x hx))
  | uuid _ _ _ _ _ hhex =>
    simp only [List.mem_append, List.mem_cons] at hx hhex
    rcases hx with (((hx | hx | hx) | hx | hx) | hx | hx) | hx | hx <;>
      first | exact .inr hx | exact .inl (hhex x (by simp [hx]))
  | objectId _ hhex => exact .inl (hhex x hx)

/-! ## Canonical keys of placeholders and identifiers -/

theorem isWrapped_enclosed (first last : Char) {inner : List Char} (h : inner ≠ []) :
    isWrapped (first :: (inner ++ [last])) first last = true := by
  have hlast : (first :: (inner ++ [last])).getLast? = some last := by
    rw [← List.cons_append]; exact List.getLast?_concat ..
  have hlen : 2 < byteLength (first :: (inner ++ [last])) := by
    obtain ⟨c, rest, rfl⟩ := List.exists_cons_of_ne_nil h
    have := Char.utf8Size_pos first
    have := Char.utf8Size_pos c
    have := Char.utf8Size_pos last
    simp only [byteLength_cons, byteLength_append, byteLength_nil]
    omega
  rw [isWrapped, decide_eq_true (show byteLength _ > 2 from hlen), hlast]
  simp

/-- Every placeholder has the key `:param`, wherever it stands. -/
theorem keySegment_placeholder {t : List Char} (h : Placeholder t) (b : Bool) :
    keySegment t b = paramText := by
  cases h with
  | @named name hne hname =>
    have htake : name.takeWhile isNameChar = name := List.takeWhile_eq_self_iff.2 hname
    have hlen : 0 < name.length := List.length_pos_iff.2 hne
    simp [keySegment, resourceSegment_cons (by decide : isHexDigit ':' = false), routeSegment,
      htake, hlen]
  | braced hne =>
    simp [keySegment, resourceSegment_cons (by decide : isHexDigit '{' = false), routeSegment,
      isWrapped_enclosed '{' '}' hne]
  | angled hne =>
    simp [keySegment, resourceSegment_cons (by decide : isHexDigit '<' = false), routeSegment,
      isWrapped_enclosed '<' '>' hne]

theorem utf8Size_of_isHexDigit {c : Char} (h : isHexDigit c = true) : c.utf8Size = 1 := by
  simp [isHexDigit, Char.isDigit, UInt32.le_iff_toNat_le, Char.le_def] at h
  rw [Char.utf8Size_eq_one_iff, UInt32.le_iff_toNat_le]
  simp
  omega

theorem byteLength_of_hex {cs : List Char} (h : ∀ c ∈ cs, isHexDigit c = true) :
    byteLength cs = cs.length := by
  induction cs with
  | nil => rfl
  | cons c cs ih =>
    simp [utf8Size_of_isHexDigit (h c List.mem_cons_self),
      ih fun x hx => h x (List.mem_cons_of_mem _ hx), Nat.add_comm]

/-- A UUID of the documented shape passes the UUID test. -/
theorem isUuid_groups {a b c d e : List Char} (ha : a.length = 8) (hb : b.length = 4)
    (hc : c.length = 4) (hd : d.length = 4) (he : e.length = 12)
    (hhex : ∀ x ∈ a ++ b ++ c ++ d ++ e, isHexDigit x = true) :
    isUuid (a ++ '-' :: b ++ '-' :: c ++ '-' :: d ++ '-' :: e) = true := by
  have hall : ∀ g ∈ [a, b, c, d, e], ∀ x ∈ g, isHexDigit x = true := by
    intro g hg x hx
    simp only [List.mem_cons, List.not_mem_nil, or_false] at hg
    rcases hg with rfl | rfl | rfl | rfl | rfl <;> exact hhex x (by simp [hx])
  have hjoin : a ++ '-' :: b ++ '-' :: c ++ '-' :: d ++ '-' :: e =
      List.intercalate ['-'] [a, b, c, d, e] := by
    simp [List.intercalate]
  have hsplit : splitChars '-' (a ++ '-' :: b ++ '-' :: c ++ '-' :: d ++ '-' :: e) =
      [a, b, c, d, e] := by
    rw [hjoin]
    refine splitChars_intercalate '-' (fun g hg hmem => ?_) (by simp)
    exact absurd (hall g hg '-' hmem) (by decide)
  have hbytes : byteLength (a ++ '-' :: b ++ '-' :: c ++ '-' :: d ++ '-' :: e) = 36 := by
    have hdash : ('-').utf8Size = 1 := by decide
    simp only [byteLength_append, byteLength_cons, hdash]
    rw [byteLength_of_hex (hall a (by simp)), byteLength_of_hex (hall b (by simp)),
      byteLength_of_hex (hall c (by simp)), byteLength_of_hex (hall d (by simp)),
      byteLength_of_hex (hall e (by simp))]
    omega
  rw [isUuid, hsplit, hbytes]
  simp only [List.all_cons, List.all_nil, ha, hb, hc, hd, he, beq_self_eq_true, Bool.true_and,
    Bool.and_true]
  simp only [Bool.and_eq_true, List.all_eq_true]
  exact ⟨hall a (by simp), hall b (by simp), hall c (by simp), hall d (by simp), hall e (by simp)⟩

/-- The resource rule recognises every identifier. -/
theorem isIdentifier_recognized {c : List Char} (h : Identifier c) :
    isNumeric c = true ∨ isUuid c = true ∨ isObjectId c = true := by
  cases h with
  | number hne hd =>
    refine .inl ?_
    simp only [isNumeric, Bool.and_eq_true, Bool.not_eq_true', List.isEmpty_eq_false_iff,
      List.all_eq_true]
    exact ⟨hne, hd⟩
  | uuid ha hb hc hd he hhex => exact .inr (.inl (isUuid_groups ha hb hc hd he hhex))
  | objectId hl hhex =>
    refine .inr (.inr ?_)
    simp only [isObjectId, Bool.and_eq_true, beq_iff_eq, List.all_eq_true]
    exact ⟨hl, hhex⟩

/-- Every identifier has the key `:param`, wherever it stands. -/
theorem keySegment_identifier {c : List Char} (h : Identifier c) (b : Bool) :
    keySegment c b = paramText := by
  have hmarker : resourceSegment c = idText ∨ resourceSegment c = uuidText ∨
      resourceSegment c = objectIdText := by
    unfold resourceSegment
    split_ifs with h1 h2 h3
    · exact .inl rfl
    · exact .inr (.inl rfl)
    · exact .inr (.inr rfl)
    · rcases isIdentifier_recognized h with h' | h' | h' <;> simp_all
  unfold keySegment
  rcases hmarker with h' | h' | h' <;> rw [h'] <;> cases b <;> rfl

/-! ## Paths that answer a route -/

section Answering

variable {segs answers : List (List Char)}

/-- The answering segments of a route without `?` and `#` are in the route's layout. -/
theorem sameLayout_of_answers {r : List Char} (hq : '?' ∉ r) (hh : '#' ∉ r)
    (h : List.Forall₂ Answers (segments r) answers) : SameLayout (segments r) answers := by
  have hsep : ∀ s ∈ segments r, '/' ∉ s ∧ '?' ∉ s ∧ '#' ∉ s := fun s hs =>
    ⟨not_mem_of_mem_splitChars hs, fun h' => hq (mem_of_mem_splitChars hs h'),
      fun h' => hh (mem_of_mem_splitChars hs h')⟩
  refine ((List.forall₂_and_left _ _).2 ⟨hsep, h⟩).imp fun s c ⟨hs, hans⟩ => ?_
  rcases hans with rfl | ⟨hp, hid⟩
  · exact ⟨Iff.rfl, hs⟩
  · -- an identifier holds hexadecimal digits and hyphens only
    have hnot : ∀ y, isHexDigit y = false → y ≠ '-' → y ∉ c := fun y hy hy' hmem =>
      (hid.mem hmem).elim (fun h' => by simp [hy] at h') hy'
    exact ⟨iff_of_false hp.ne_nil hid.ne_nil, hnot '/' (by decide) (by decide),
      hnot '?' (by decide) (by decide), hnot '#' (by decide) (by decide)⟩

/-- Answering segments have the keys of the route's segments, place by place. -/
theorem rewrite_key_of_answers (h : List.Forall₂ Answers segs answers) :
    rewrite keySegment answers = rewrite keySegment segs := by
  have hlen := h.length_eq
  apply List.ext_getElem (by simp [hlen])
  intro i h₁ h₂
  simp only [rewrite, List.getElem_mapIdx]
  have hi := h.get (by simpa using h₂) (by simpa using h₁)
  simp only [List.get_eq_getElem] at hi
  rcases hi with heq | ⟨hp, hid⟩
  · simp only [heq, hlen]
  · rw [if_neg (by simpa using hid.ne_nil), if_neg (by simpa using hp.ne_nil),
      keySegment_identifier hid, keySegment_placeholder hp]

end Answering

/-- Join soundness of canonical keys: a route without `?` and `#`, and without a trailing slash
unless it is `/`, has the canonical key of every path that answers it, with any query or fragment
after it. And the canonical key of any path has as many segments as the stripped path. -/
theorem canonical_joins_answering_paths (r : String) (hq : '?' ∉ r.toList) (hh : '#' ∉ r.toList)
    (hslash : r.toList.getLast? = some '/' → r = "/") (answers : List (List Char))
    (hans : List.Forall₂ Answers (segments r.toList) answers) (tail : List Char)
    (htail : tail = [] ∨ tail.head? = some '?' ∨ tail.head? = some '#') :
    canonical (String.ofList (join answers ++ tail)) = canonical r ∧
      ∀ p : String, (segments (canonical p).toList).length = (segments (strip p.toList)).length := by
  have hr : Stripped r.toList := ⟨hq, hh, fun hb hend => by
    have hroot := hslash hend
    subst hroot
    exact absurd hb (by decide)⟩
  have hl := sameLayout_of_answers hq hh hans
  refine ⟨?_, length_segments_canonical⟩
  apply String.toList_inj.1
  rw [canonical_toList, canonical_toList, String.toList_ofList,
    strip_append_query (stripped_join hr hl) htail, strip_of_stripped hr, segments_join hl,
    rewrite_key_of_answers hans]

theorem canonical_joins_answering_paths_users :
    '?' ∉ "/users/:id".toList ∧ '#' ∉ "/users/:id".toList ∧
      ("/users/:id".toList.getLast? = some '/' → "/users/:id" = "/") ∧
      List.Forall₂ Answers (segments "/users/:id".toList) [[], "users".toList, "42".toList] ∧
      ("?expand=1".toList = [] ∨ "?expand=1".toList.head? = some '?' ∨
        "?expand=1".toList.head? = some '#') ∧
      canonical (String.ofList (join [[], "users".toList, "42".toList] ++ "?expand=1".toList)) =
        canonical "/users/:id" ∧
      ∀ p : String, (segments (canonical p).toList).length = (segments (strip p.toList)).length :=
  have hans : List.Forall₂ Answers (segments "/users/:id".toList)
      [[], "users".toList, "42".toList] := by
    refine .cons (.inl rfl) (.cons (.inl rfl) (.cons (.inr ⟨.named (by decide) (List.all_eq_true.1 rfl),
      .number (by decide) (List.all_eq_true.1 rfl)⟩) .nil))
  ⟨by decide, by decide, by decide, hans, by decide,
    canonical_joins_answering_paths "/users/:id" (by decide) (by decide) (by decide) _ hans _
      (by decide)⟩

end OrphanedCode.Route
