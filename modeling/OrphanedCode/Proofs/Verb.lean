import OrphanedCode.Proofs.Forms
/-!
The verb of a route idiom is read twice. The idiom reads it without regard to case, folding case
the Unicode way, so that the long s `ſ` stands for `s` and the Kelvin sign for `k`; the method is
then looked up by upper-casing ASCII letters only, which leaves the long s as it is. The two
readings agree exactly on verbs without a long s (no verb of the express routes or spring mappings
has a `k`): when an express route or a spring mapping is read at the leftmost place of a line, the
line declares the route for the method its verb names when the verb has no long s, and declares
nothing at all when it has one, although the idiom was read.
-/

namespace OrphanedCode

namespace Reader

/-! ## Words read without regard to case -/

/-- A word read without regard to case is a prefix of the text whose characters each fold onto the
word's. -/
theorem caseless_eq_some {w cs rest : List Char} (h : caseless w cs = some rest) :
    ∃ v, cs = v ++ rest ∧ List.Forall₂ (fun p c => caselessEq p c = true) w v := by
  induction w generalizing cs with
  | nil =>
    cases h
    exact ⟨[], rfl, .nil⟩
  | cons p ps ih =>
    cases cs with
    | nil => cases h
    | cons c cs =>
      rw [caseless] at h
      split at h
      · rename_i hc
        obtain ⟨v, rfl, hv⟩ := ih h
        exact ⟨c :: v, rfl, .cons hc hv⟩
      · cases h

/-- The verb that a choice of words reads is what stands at the front of the text, folding onto one
of the words. -/
theorem caselessChoice_eq_some {ws : List String} {cs verb rest : List Char}
    (h : caselessChoice ws cs = some (verb, rest)) :
    ∃ w ∈ ws, cs = verb ++ rest ∧ List.Forall₂ (fun p c => caselessEq p c = true) w.toList verb := by
  obtain ⟨w, hw, hread⟩ := List.exists_of_findSome?_eq_some h
  obtain ⟨r, hr, hvr⟩ := Option.map_eq_some_iff.1 hread
  obtain ⟨v, rfl, hv⟩ := caseless_eq_some hr
  simp only [Prod.mk.injEq] at hvr
  obtain ⟨hverb, rfl⟩ := hvr
  have hlen : w.length = v.length := by rw [← String.length_toList]; exact hv.length_eq
  rw [hlen, List.take_left] at hverb
  subst hverb
  exact ⟨w, hw, rfl, hv⟩

/-! ## Folding onto ASCII letters -/

/-- A character folds onto an ASCII lower-case letter other than `k` when it is that letter in
either case, or the long s for `s`. -/
theorem caselessEq_lower {p c : Char} (hp : p.isLower = true) (hk : p ≠ 'k')
    (h : caselessEq p c = true) : (c.toUpper = p.toUpper ∧ c ≠ 'ſ') ∨ (p = 's' ∧ c = 'ſ') := by
  have hpl : p.toLower = p := Char.toLower_eq_of_not_isUpper (Char.not_isUpper_of_isLower hp)
  simp only [caselessEq, Bool.or_eq_true, Bool.and_eq_true, beq_iff_eq, hpl] at h
  rcases h with (hlow | ⟨rfl, -⟩) | ⟨rfl, rfl⟩
  · refine .inl ⟨?_, ?_⟩
    · rw [← Char.toUpper_toLower_eq_toUpper c, ← hlow]
    · rintro rfl
      -- the long s is no ASCII letter, so it folds onto nothing by ASCII lower-casing
      have : p = 'ſ' := hlow.trans (by decide)
      subst this
      exact absurd hp (by decide)
  · exact absurd rfl hk
  · exact .inr ⟨rfl, rfl⟩

/-- A verb read as a word of ASCII lower-case letters other than `k`, with no long s, is that word
in some mix of ASCII cases. -/
theorem map_toUpper_of_caseless {w v : List Char} (hw : ∀ p ∈ w, p.isLower = true ∧ p ≠ 'k')
    (h : List.Forall₂ (fun p c => caselessEq p c = true) w v) (hs : 'ſ' ∉ v) :
    v.map Char.toUpper = w.map Char.toUpper := by
  induction h with
  | nil => rfl
  | @cons p c ps cs hpc _ ih =>
    have hp := hw p List.mem_cons_self
    have hrest : ∀ q ∈ ps, q.isLower = true ∧ q ≠ 'k' := fun q hq => hw q (List.mem_cons_of_mem _ hq)
    rcases caselessEq_lower hp.1 hp.2 hpc with ⟨hup, -⟩ | ⟨-, rfl⟩
    · simp only [List.map_cons, hup, ih hrest fun h' => hs (List.mem_cons_of_mem _ h')]
    · exact absurd List.mem_cons_self hs

/-- The verbs of the route idioms are words of ASCII lower-case letters other than `k`. -/
theorem routeVerbs_lower : ∀ w ∈ expressVerbs ++ springVerbs, ∀ p ∈ w.toList,
    p.isLower = true ∧ p ≠ 'k' := by
  simp [expressVerbs, springVerbs]

/-- Each verb of the route idioms is the name of a method in lower case. -/
theorem routeVerbs_name : ∀ w ∈ expressVerbs ++ springVerbs,
    ∃ m ∈ HttpMethod.every, w.toList.map Char.toUpper = m.name.toList := by
  simp [expressVerbs, springVerbs, HttpMethod.every, HttpMethod.name]

end Reader

namespace HttpMethod

/-- A verb that upper-cases to a text with a character outside ASCII names no method. -/
theorem parse?_eq_none_of_mem {v : String} {c : Char} (hc : c ∈ (asciiUpper v).toList)
    (hbig : 128 ≤ c.toNat) : parse? v = none := by
  rw [parse?, List.find?_eq_none]
  intro m _ hm
  have hname : ∀ d ∈ m.name.toList, d.toNat < 128 := by cases m <;> simp [name]
  rw [beq_iff_eq] at hm
  rw [← hm] at hc
  exact absurd (hname c hc) (by omega)

/-- A verb spelled with the long s names no method: ASCII upper-casing keeps the long s. -/
theorem parse?_long_s {v : List Char} (hs : 'ſ' ∈ v) : parse? (String.ofList v) = none := by
  have hmem : 'ſ' ∈ (asciiUpper (String.ofList v)).toList := by
    rw [asciiUpper, String.toList_ofList, String.toList_ofList]
    exact List.mem_map.2 ⟨'ſ', hs, by decide⟩
  exact parse?_eq_none_of_mem hmem (by decide)

end HttpMethod

namespace Idiom

open Reader

/-- The method a route idiom reads: none when its verb has a long s, and otherwise the method
whose name is the upper case of the verb. -/
theorem parse?_routeVerb {ws : List String} (hws : ∀ w ∈ ws, w ∈ expressVerbs ++ springVerbs)
    {cs verb rest : List Char} (h : caselessChoice ws cs = some (verb, rest)) :
    ('ſ' ∈ verb ∧ HttpMethod.parse? (String.ofList verb) = none) ∨
      ('ſ' ∉ verb ∧ ∃ m : HttpMethod, verb.map Char.toUpper = m.name.toList ∧
        HttpMethod.parse? (String.ofList verb) = some m) := by
  obtain ⟨w, hw, -, hfold⟩ := caselessChoice_eq_some h
  by_cases hs : 'ſ' ∈ verb
  · exact .inl ⟨hs, HttpMethod.parse?_long_s hs⟩
  · obtain ⟨m, -, hm⟩ := routeVerbs_name w (hws w hw)
    have hup : verb.map Char.toUpper = m.name.toList :=
      (map_toUpper_of_caseless (routeVerbs_lower w (hws w hw)) hfold hs).trans hm
    refine .inr ⟨hs, m, hup, parse?_of_asciiUpper ?_⟩
    rw [HttpMethod.asciiUpper, String.toList_ofList, hup, String.ofList_toList]

/-- What a route idiom declares from its verb: nothing when the verb has a long s, and otherwise
the declaration for the method whose name is the upper case of the verb. -/
theorem declare_routeVerb {ws : List String} (hws : ∀ w ∈ ws, w ∈ expressVerbs ++ springVerbs)
    {cs verb rest : List Char} (h : caselessChoice ws cs = some (verb, rest)) {α : Type}
    (declare : HttpMethod → α) :
    ('ſ' ∈ verb ∧ (HttpMethod.parse? (String.ofList verb)).bind (fun m => some (declare m)) = none) ∨
      ('ſ' ∉ verb ∧ ∃ m : HttpMethod, verb.map Char.toUpper = m.name.toList ∧
        (HttpMethod.parse? (String.ofList verb)).bind (fun m => some (declare m)) =
          some (declare m)) := by
  rcases parse?_routeVerb hws h with ⟨hs, hnone⟩ | ⟨hs, m, hup, hm⟩
  · exact .inl ⟨hs, by rw [hnone]; rfl⟩
  · exact .inr ⟨hs, m, hup, by rw [hm]; rfl⟩

theorem expressAt_verb {cs verb route args : List Char}
    (h : expressAt cs = some (verb, route, args)) :
    ∃ r r', caselessChoice expressVerbs r = some (verb, r') := by
  simp only [expressAt, Option.bind_eq_bind, Option.bind_eq_some_iff] at h
  obtain ⟨r1, h1, r2, h2, ⟨v, r3⟩, h3, r4, h4, ⟨ro, r5⟩, h5, r6, h6, a, h7, hpure⟩ := h
  cases hpure
  exact ⟨r2, r3, h3⟩

theorem springAt_verb {cs verb route : List Char} (h : springAt cs = some (verb, route)) :
    ∃ r r', caselessChoice springVerbs r = some (verb, r') := by
  simp only [springAt, Option.bind_eq_bind, Option.bind_eq_some_iff] at h
  obtain ⟨r1, h1, ⟨v, r2⟩, h2, r3, h3, r4, h4, ⟨ro, r5⟩, h5, u, h6, hpure⟩ := h
  cases hpure
  exact ⟨r1, r2, h2⟩

/-- When the express and spring patterns match a line, the verb as written decides the outcome: a
verb without a long s declares the route for the method the verb names, with the route (and, for
an express route, the handler) the pattern read; a verb with a long s, which the pattern folds
onto `s`, declares nothing. -/
theorem route_verbs_decide_recognition (line : String) :
    (∀ verb route args : List Char, leftmost expressAt line.toList = some (verb, route, args) →
      ('ſ' ∈ verb ∧ expressRoute.recognize line = none) ∨
        ('ſ' ∉ verb ∧ ∃ m : HttpMethod, verb.map Char.toUpper = m.name.toList ∧
          expressRoute.recognize line =
            some (.endpoint ⟨m, String.ofList route, handlerName args, .express⟩))) ∧
      ∀ verb route : List Char, leftmost springAt line.toList = some (verb, route) →
        ('ſ' ∈ verb ∧ springMapping.recognize line = none) ∨
          ('ſ' ∉ verb ∧ ∃ m : HttpMethod, verb.map Char.toUpper = m.name.toList ∧
            springMapping.recognize line =
              some (.endpoint ⟨m, String.ofList route, none, .spring⟩)) := by
  constructor
  · intro verb route args h
    obtain ⟨-, rest, -, hat⟩ := leftmost_eq_some h
    obtain ⟨r, r', hv⟩ := expressAt_verb hat
    have hrec : expressRoute.recognize line = (HttpMethod.parse? (String.ofList verb)).bind
        fun m => some (.endpoint ⟨m, String.ofList route, handlerName args, .express⟩) := by
      simp only [recognize, h, Option.bind_eq_bind, Option.bind_some]
      rfl
    rw [hrec]
    exact declare_routeVerb (fun w hw => List.mem_append_left _ hw) hv _
  · intro verb route h
    obtain ⟨-, rest, -, hat⟩ := leftmost_eq_some h
    obtain ⟨r, r', hv⟩ := springAt_verb hat
    have hrec : springMapping.recognize line = (HttpMethod.parse? (String.ofList verb)).bind
        fun m => some (.endpoint ⟨m, String.ofList route, none, .spring⟩) := by
      simp only [recognize, h, Option.bind_eq_bind, Option.bind_some]
      rfl
    rw [hrec]
    exact declare_routeVerb (fun w hw => List.mem_append_right _ hw) hv _

theorem route_verbs_decide_recognition_get :
    leftmost expressAt "app.get(\x27/x\x27, h)".toList =
        some ("get".toList, "/x".toList, "h".toList) ∧
      (('ſ' ∈ "get".toList ∧ expressRoute.recognize "app.get(\x27/x\x27, h)" = none) ∨
        ('ſ' ∉ "get".toList ∧ ∃ m : HttpMethod, "get".toList.map Char.toUpper = m.name.toList ∧
          expressRoute.recognize "app.get(\x27/x\x27, h)" =
            some (.endpoint ⟨m, String.ofList "/x".toList, handlerName "h".toList, .express⟩))) :=
  have hmatch : leftmost expressAt "app.get(\x27/x\x27, h)".toList =
      some ("get".toList, "/x".toList, "h".toList) := by decide
  ⟨hmatch, (route_verbs_decide_recognition _).1 _ _ _ hmatch⟩

/-- A route line whose verb is spelled with the long s: the express pattern reads it at its start,
and the line declares nothing. -/
theorem expressRoute_long_s_declares_nothing :
    leftmost expressAt "app.poſt(\x27/x\x27, h)".toList =
        some ("poſt".toList, "/x".toList, "h".toList) ∧
      expressRoute.recognize "app.poſt(\x27/x\x27, h)" = none :=
  ⟨by decide, by decide⟩

end Idiom

end OrphanedCode
