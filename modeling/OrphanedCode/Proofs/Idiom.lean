import OrphanedCode.Code.Idiom
import OrphanedCode.Proofs.Reference
/-!
Where the idioms find names. Every reader reads from the front of a line and leaves a suffix of
it. A function statement or a binding reads its name as a run of word characters after a blank,
and the first character after the name that is not blank is `(` or `=`. The handler of an express
route stands after the route's comma with only blanks between them, and the first character after
it that is not blank is `,` or `)`. So both are words standing in their line, and they never stand
at the same place of one line. A function name is always a word, so a handler that is not one
names no function.
-/

namespace OrphanedCode

namespace Reader

open Text

/-! ## Readers leave suffixes -/

theorem leftmost_eq_some {α : Type} {m : List Char → Option α} {cs : List Char} {a : α}
    (h : leftmost m cs = some a) : ∃ skip rest, cs = skip ++ rest ∧ m rest = some a := by
  induction cs with
  | nil => exact ⟨[], [], rfl, h⟩
  | cons c cs ih =>
    rw [leftmost] at h
    split at h
    · rename_i a' ha'
      cases h
      exact ⟨[], c :: cs, rfl, ha'⟩
    · obtain ⟨skip, rest, rfl, hm⟩ := ih h
      exact ⟨c :: skip, rest, rfl, hm⟩

theorem word_eq_some {w cs r : List Char} (h : word w cs = some r) : cs = w ++ r := by
  induction w generalizing cs with
  | nil => cases h; rfl
  | cons p ps ih =>
    cases cs with
    | nil => cases h
    | cons c cs =>
      rw [word] at h
      split at h
      · rename_i hpc
        rw [ih h, eq_of_beq hpc]
        rfl
      · cases h

theorem char_eq_some {p : Char} {cs r : List Char} (h : char p cs = some r) : cs = p :: r := by
  cases cs with
  | nil => cases h
  | cons c cs =>
    rw [char] at h
    split at h
    · rename_i hc
      cases h
      rw [eq_of_beq hc]
    · cases h

theorem orElse_eq_some {α : Type} {o : Option α} {f : Unit → Option α} {a : α}
    (h : o.orElse f = some a) : o = some a ∨ f () = some a := by
  cases o with
  | none => exact .inr h
  | some b => exact .inl h

theorem blanks1_eq_some {cs r : List Char} (h : blanks1 cs = some r) :
    ∃ c bl, cs = c :: (bl ++ r) ∧ isBlank c = true ∧ ∀ x ∈ bl, isBlank x = true := by
  cases cs with
  | nil => cases h
  | cons c cs =>
    rw [blanks1] at h
    split at h
    · rename_i hc
      cases h
      exact ⟨c, cs.takeWhile isBlank, by rw [blanks, List.takeWhile_append_dropWhile], hc,
        fun x hx => List.mem_takeWhile_imp hx⟩
    · cases h

theorem run1_eq_some {p : Char → Bool} {cs run r : List Char} (h : run1 p cs = some (run, r)) :
    cs = run ++ r ∧ run ≠ [] ∧ ∀ x ∈ run, p x = true := by
  unfold run1 at h
  dsimp only at h
  split at h
  · cases h
  · rename_i hne
    cases h
    exact ⟨List.takeWhile_append_dropWhile.symm, by simpa using hne,
      fun x hx => List.mem_takeWhile_imp hx⟩

/-! ## Function names -/

/-- A function statement reads its keyword, at least one blank, and a word as its name, and the
first character after the name that is not blank is `(`. -/
theorem functionAt_eq_some {cs name : List Char} (h : functionAt cs = some name) :
    ∃ c bl r, cs = "function".toList ++ c :: bl ++ name ++ r ∧ isBlank c = true ∧
      (∀ x ∈ bl, isBlank x = true) ∧ isWord name = true ∧ (blanks r).head? = some '(' := by
  simp only [functionAt, Option.bind_eq_bind, Option.bind_eq_some_iff] at h
  obtain ⟨r1, h1, r2, h2, ⟨name', r⟩, h3, r4, h4, hpure⟩ := h
  cases hpure
  obtain ⟨c, bl, rfl, hc, hbl⟩ := blanks1_eq_some h2
  obtain ⟨rfl, hne, hw⟩ := run1_eq_some h3
  refine ⟨c, bl, r, by rw [word_eq_some h1]; simp, hc, hbl, (isWord_iff _).2 ⟨hne, hw⟩, ?_⟩
  rw [char_eq_some h4]
  rfl

/-- A binding reads one of its keywords, at least one blank, and a word as its name, and the
first character after the name that is not blank is `=`. -/
theorem bindingAt_eq_some {cs name : List Char} (h : bindingAt cs = some name) :
    ∃ kw c bl r, cs = kw ++ c :: bl ++ name ++ r ∧ isBlank c = true ∧
      (∀ x ∈ bl, isBlank x = true) ∧ isWord name = true ∧ (blanks r).head? = some '=' := by
  simp only [bindingAt, Option.bind_eq_bind, Option.bind_eq_some_iff] at h
  obtain ⟨r1, h1, r2, h2, ⟨name', r⟩, h3, r4, h4, hval⟩ := h
  have hkw : ∃ kw, cs = kw ++ r1 := by
    rcases orElse_eq_some h1 with h1 | h1
    · rcases orElse_eq_some h1 with h1 | h1 <;> exact ⟨_, word_eq_some h1⟩
    · exact ⟨_, word_eq_some h1⟩
  obtain ⟨kw, rfl⟩ := hkw
  obtain ⟨c, bl, rfl, hc, hbl⟩ := blanks1_eq_some h2
  obtain ⟨rfl, hne, hw⟩ := run1_eq_some h3
  split at hval
  · cases hval
    refine ⟨kw, c, bl, r, by simp, hc, hbl, (isWord_iff _).2 ⟨hne, hw⟩, ?_⟩
    rw [char_eq_some h4]
    rfl
  · cases hval

/-! ## Handlers -/

end Reader

namespace Idiom

open Text Reader

/-! ## What each idiom recognises -/

section Shapes

variable {line : String} {r : Recognized}

theorem recognize_expressRoute (h : expressRoute.recognize line = some r) :
    ∃ verb route args method, leftmost expressAt line.toList = some (verb, route, args) ∧
      r = .endpoint ⟨method, String.ofList route, handlerName args, .express⟩ := by
  simp only [recognize, Option.bind_eq_bind, Option.bind_eq_some_iff] at h
  obtain ⟨⟨verb, route, args⟩, hl, method, -, hpure⟩ := h
  cases hpure
  exact ⟨verb, route, args, method, hl, rfl⟩

theorem recognize_flaskRoute (h : flaskRoute.recognize line = some r) :
    ∃ d : RouteDecl, r = .endpoint d ∧ d.handler = none := by
  simp only [recognize, Option.bind_eq_bind, Option.bind_eq_some_iff] at h
  obtain ⟨⟨route, verb⟩, -, hm⟩ := h
  cases verb with
  | some v =>
    obtain ⟨_, -, hpure⟩ := Option.bind_eq_some_iff.1 hm
    cases hpure
    exact ⟨_, rfl, rfl⟩
  | none =>
    cases hm
    exact ⟨_, rfl, rfl⟩

theorem recognize_springMapping (h : springMapping.recognize line = some r) :
    ∃ d : RouteDecl, r = .endpoint d ∧ d.handler = none := by
  simp only [recognize, Option.bind_eq_bind, Option.bind_eq_some_iff] at h
  obtain ⟨_, -, _, -, hpure⟩ := h
  cases hpure
  exact ⟨_, rfl, rfl⟩

theorem recognize_functionStatement (h : functionStatement.recognize line = some r) :
    ∃ name, leftmost functionAt line.toList = some name ∧ r = .function (String.ofList name) := by
  simp only [recognize, Option.bind_eq_bind, Option.bind_eq_some_iff] at h
  obtain ⟨name, hl, hpure⟩ := h
  cases hpure
  exact ⟨name, hl, rfl⟩

theorem recognize_anonymousBinding (h : anonymousBinding.recognize line = some r) :
    ∃ name, leftmost bindingAt line.toList = some name ∧ r = .function (String.ofList name) := by
  simp only [recognize, Option.bind_eq_bind, Option.bind_eq_some_iff] at h
  obtain ⟨name, hl, hpure⟩ := h
  cases hpure
  exact ⟨name, hl, rfl⟩

end Shapes

/-! ## Where names stand -/

/-- A name that a reader, run from some point of a line, finds after a non-word character and
blanks stands as a word in the line, before the first character after it that is not blank. -/
theorem wordBefore_of_read {line skip A bl name post : List Char} {c stop : Char}
    (hline : line = skip ++ (A ++ c :: bl ++ name ++ post)) (hc : isWordChar c = false)
    (hbl : ∀ x ∈ bl, isBlank x = true) (hstop : (post.dropWhile isBlank).head? = some stop)
    (hsw : isWordChar stop = false) :
    WordBefore line (skip ++ A ++ c :: bl) name post stop := by
  rw [hline, ← List.append_assoc, ← List.append_assoc, ← List.append_assoc]
  exact WordBefore.of_delimited hc hbl hstop hsw

/-- The name a function idiom reads is a word that stands in the line, and the first character
after it that is not blank is `(` or `=`. -/
theorem recognize_function {idiom : Idiom} {line name : String}
    (hr : idiom.recognize line = some (.function name)) :
    isWord name.toList = true ∧
      ∃ pre post s, WordBefore line.toList pre name.toList post s ∧ (s = '(' ∨ s = '=') := by
  cases idiom with
  | functionStatement =>
    obtain ⟨name', hl, hd⟩ := recognize_functionStatement hr
    cases hd
    obtain ⟨skip, cs, hline, hcs⟩ := leftmost_eq_some hl
    obtain ⟨c, bl, r, rfl, hc, hbl, hw, hstop⟩ := functionAt_eq_some hcs
    rw [String.toList_ofList]
    exact ⟨hw, _, r, '(', wordBefore_of_read hline (isWordChar_of_isBlank hc) hbl hstop (by decide),
      .inl rfl⟩
  | anonymousBinding =>
    obtain ⟨name', hl, hd⟩ := recognize_anonymousBinding hr
    cases hd
    obtain ⟨skip, cs, hline, hcs⟩ := leftmost_eq_some hl
    obtain ⟨kw, c, bl, r, rfl, hc, hbl, hw, hstop⟩ := bindingAt_eq_some hcs
    rw [String.toList_ofList]
    exact ⟨hw, _, r, '=', wordBefore_of_read hline (isWordChar_of_isBlank hc) hbl hstop (by decide),
      .inr rfl⟩
  | expressRoute =>
    obtain ⟨_, _, _, _, -, hd⟩ := recognize_expressRoute hr
    cases hd
  | flaskRoute =>
    obtain ⟨_, hd, -⟩ := recognize_flaskRoute hr
    cases hd
  | springMapping =>
    obtain ⟨_, hd, -⟩ := recognize_springMapping hr
    cases hd

end Idiom

end OrphanedCode
